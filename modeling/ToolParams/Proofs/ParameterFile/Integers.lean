import ToolParams.Proofs.Number.Whole
import ToolParams.Proofs.ParameterFile.Values
import ToolParams.Proofs.Store.Ordering

/-!
# Integers and their texts

Integer parameters take numbers by one test and texts by another: a number has to be whole, a
text has to be a sign and digits.  Digits have no bound, so that a text may come to an
infinity; and a whole number of `10 ^ 21` or more is shown with an exponent, so that its own
text is not taken for it.
-/

namespace ToolParams

/-- What an integer parameter takes, and the value that it comes to. -/
inductive Coerce.TakesWhole : Input → Scalar → Prop where
  | unset : TakesWhole (.scalar .null) .null
  | number {number : Number} :
      number.isInteger = true → TakesWhole (.scalar (.number number)) (.number number)
  | word {text : String} : Text.trim text = "INDEF" → TakesWhole (.ofText text) .null
  | blank {text : String} :
      Text.trim text = "" → TakesWhole (.ofText text) (.number (.zero false))
  | digits {text : String} {negative : Bool} {value : Nat} :
      Number.SpellsWhole (Text.trim text).toList negative value →
      TakesWhole (.ofText text) (.number (.ofDecimal negative value 0))

def Scalar.IsShort (value : Scalar) : Prop :=
  ∀ number, value = .number number → number.IsShort

namespace Coerce

variable {input : Input} {value : Scalar} {text : String}

theorem textToNumber?_eq_some_iff :
    textToNumber? true text = some value ↔ TakesWhole (.ofText text) value := by
  unfold textToNumber?
  simp only [← Text.toList_trim, if_true]
  constructor
  · intro coerced
    split at coerced
    · rename_i word
      cases coerced
      exact .word (String.toList_inj.mp word)
    · split at coerced
      · rename_i blank
        cases coerced
        rw [ofNat_zero]
        exact .blank (String.toList_inj.mp blank)
      · obtain ⟨number, reads, rfl⟩ := Option.map_eq_some_iff.mp coerced
        obtain ⟨negative, size, spells, rfl⟩ := Number.integer?_eq_some_iff.mp reads
        exact .digits spells
  · intro taken
    cases taken with
    | word word => rw [if_pos (congrArg String.toList word)]
    | blank blank =>
        rw [blank, if_neg (by decide), if_pos (by decide), ofNat_zero]
    | digits spells =>
        have reads := Number.integer?_eq_some_iff.mpr ⟨_, _, spells, rfl⟩
        rw [if_neg spells.ne_word, if_neg spells.ne_nil, reads]
        rfl

/-- The two tests of an integer parameter, for numbers and for texts. -/
theorem toNumber?_eq_some_iff : toNumber? true input = some value ↔ TakesWhole input value := by
  constructor
  · intro coerced
    unfold toNumber? at coerced
    split at coerced
    · cases coerced
      exact .unset
    · rename_i number
      by_cases whole : number.isInteger = true
      · rw [if_pos rfl, if_pos whole] at coerced
        cases coerced
        exact .number whole
      · rw [if_pos rfl, if_neg whole] at coerced
        cases coerced
    · exact textToNumber?_eq_some_iff.mp coerced
    · cases coerced
  · intro taken
    cases given : input with
    | list items =>
        rw [given] at taken
        cases taken
    | scalar scalar =>
        rw [given] at taken
        cases scalar with
        | text text => exact textToNumber?_eq_some_iff.mpr taken
        | null =>
            cases taken
            rfl
        | number number =>
            cases taken with
            | number whole => simp [toNumber?, whole]
        | absent => cases taken
        | bool truth => cases taken

namespace TakesWhole

variable (taken : TakesWhole input value)
include taken

/-- What is taken for an integer is one, or without end. -/
theorem cases :
    value = .null ∨ (∃ number, value = .number number ∧ number.isInteger = true) ∨
      ∃ negative, value = .number (.infinity negative) := by
  cases taken with
  | unset => exact .inl rfl
  | number whole => exact .inr (.inl ⟨_, rfl, whole⟩)
  | word => exact .inl rfl
  | blank => exact .inr (.inl ⟨_, rfl, Number.isInteger_zero false⟩)
  | @digits _ negative size spells =>
      rcases Nat.lt_or_ge size Number.overflow with small | large
      · have reads := Number.integer?_eq_some_iff.mpr ⟨_, _, spells, rfl⟩
        have whole := Number.isInteger_of_integer? reads (Number.isFinite_ofDecimal_iff.mpr small)
        exact .inr (.inl ⟨_, rfl, whole⟩)
      · refine .inr (.inr ⟨negative, congrArg Scalar.number ?_⟩)
        exact Number.ofDecimal_eq_infinity_iff.mpr ⟨rfl, large⟩

/-- Only digits make an integer parameter infinite, and they do from the threshold on. -/
theorem eq_infinity_iff {negative : Bool} :
    value = .number (.infinity negative) ↔
      ∃ text size, input = .ofText text ∧
        Number.SpellsWhole (Text.trim text).toList negative size ∧ Number.overflow ≤ size := by
  constructor
  · rintro rfl
    generalize isValue : Scalar.number (.infinity negative) = infinite at taken
    cases taken with
    | unset => cases isValue
    | number whole =>
        cases isValue
        cases whole
    | word => cases isValue
    | blank => cases isValue
    | digits spells =>
        have without := Scalar.number.inj isValue
        obtain ⟨rfl, large⟩ := Number.ofDecimal_eq_infinity_iff.mp without.symm
        exact ⟨_, _, rfl, spells, large⟩
  · rintro ⟨text, size, rfl, spells, large⟩
    have reads := toNumber?_eq_some_iff.mpr taken
    rw [toNumber?_eq_some_iff.mpr (.digits spells)] at reads
    rw [← Option.some.inj reads, Number.ofDecimal_eq_infinity_iff.mpr ⟨rfl, large⟩]

end TakesWhole

end Coerce

namespace ParameterFile

variable {declaration : Declaration} {value : Scalar} {text : String}

/-- The text of what an integer parameter holds is taken for the same value exactly where it
is no number of `10 ^ 21` or more. -/
theorem toNumber?_valueText (isInteger : declaration.type = .integer) {input : Input}
    (taken : Coerce.TakesWhole input value) :
    ∃ text, valueText? declaration (.literal value) = some text ∧
      Redirect.isWritten text = false ∧
      (value.IsShort → Coerce.toNumber? true (.ofText text) = some value.settled) ∧
      (¬value.IsShort → Coerce.toNumber? true (.ofText text) = none) := by
  have numeric : declaration.type.isNumeric = true := by
    rw [isInteger]
    rfl
  rcases taken.cases with rfl | ⟨number, rfl, whole⟩ | ⟨negative, rfl⟩
  · refine ⟨"INDEF", (shows_unsetNumber numeric).held, by decide, fun _ => rfl, fun long => ?_⟩
    exact absurd (by rintro _ ⟨⟩) long
  · have finite := Number.isFinite_of_isInteger whole
    refine ⟨number.text, valueText?_number numeric number, number.isWritten_text, ?_, ?_⟩
    · intro short
      exact Coerce.textToNumber?_text finite fun _ => ⟨whole, short number rfl⟩
    · intro long
      have beyond : ¬number.IsShort := by
        intro short
        refine long ?_
        rintro _ ⟨⟩
        exact short
      refine (Coerce.textToNumber?_eq finite true).trans ?_
      rw [if_pos rfl, Number.integer?_text_of_large beyond]
      rfl
  · refine ⟨_, valueText?_number numeric _, Number.isWritten_text _, ?_, fun _ => ?_⟩
    · intro short
      obtain ⟨_, _, ⟨⟩, _⟩ := short _ rfl
    · cases negative <;> decide

end ParameterFile

namespace Store

variable {store next : Store} {declaration : Declaration} {requested : String} {input : Input}
  {raw : Scalar}

theorem check_numeric (integer : Bool) (isNumber : declaration.type = Coerce.numberType integer)
    (free : declaration.constraint = none) (plain : Redirect.ofInput? input = none) :
    store.check declaration input =
      match Coerce.toNumber? integer input with
      | some value => .ok (.literal value)
      | none => .error (Coerce.notOfType store.tool declaration
          (if integer then "an integer" else "a number") input) := by
  unfold check
  cases integer <;>
    simp only [plain, coerce, isNumber, Coerce.numberType, Constraint.check, free, if_true,
      Bool.false_eq_true, if_false]
  · cases Coerce.toNumber? false input <;> rfl
  · cases Coerce.toNumber? true input <;> rfl

theorem check_integer (isInteger : declaration.type = .integer)
    (free : declaration.constraint = none) (plain : Redirect.ofInput? input = none) :
    store.check declaration input =
      match Coerce.toNumber? true input with
      | some value => .ok (.literal value)
      | none => .error (Coerce.notOfType store.tool declaration "an integer" input) :=
  check_numeric true isInteger free plain

/-- An integer parameter without a constraint holds nothing or a whole number after it was
assigned, unless digits without bound made it infinite.  Its own text is taken for the same
value, but for the sign of zero, as long as it is no number of `10 ^ 21` or more; the texts of
those are refused. -/
theorem set_own_text (store : Store) {requested : String} {declaration : Declaration}
    {input : Input} {next : Store} {raw : Scalar}
    (declared : store.declaration requested = .ok declaration)
    (isInteger : declaration.type = .integer) (free : declaration.constraint = none)
    (plain : Redirect.ofInput? input = none)
    (assigned : store.set requested input = .ok (next, raw)) :
    next.entry declaration.name = .literal raw ∧
      (raw = .null ∨ (∃ number, raw = .number number ∧ number.isInteger = true) ∨
        ∃ negative, raw = .number (.infinity negative)) ∧
      (∀ negative, raw = .number (.infinity negative) ↔
        ∃ text size, input = .ofText text ∧
          Number.SpellsWhole (Text.trim text).toList negative size ∧ Number.overflow ≤ size) ∧
      ∃ text, ParameterFile.valueText? declaration (.literal raw) = some text ∧
        (raw.IsShort → ∃ again other, next.set requested (.ofText text) = .ok (again, other) ∧
          again.entry declaration.name = .literal other ∧ raw.Same other) ∧
        (¬raw.IsShort → next.set requested (.ofText text) =
          .error (.value (.notOfType store.tool declaration.name "an integer" text))) := by
  obtain ⟨name, resolved, found⟩ := declaration_eq_ok_iff.mp declared
  obtain ⟨_, rfl⟩ := mem_names_of_find? found
  rw [set_of_resolved resolved found, check_integer isInteger free plain] at assigned
  cases coerced : Coerce.toNumber? true input with
  | none =>
      rw [coerced] at assigned
      cases assigned
  | some value =>
      rw [coerced] at assigned
      cases assigned
      have taken := Coerce.toNumber?_eq_some_iff.mp coerced
      obtain ⟨text, held, plainText, shortText, longText⟩ :=
        ParameterFile.toNumber?_valueText isInteger taken
      refine ⟨by simp [Stored.raw], taken.cases, fun negative => taken.eq_infinity_iff,
        text, held, ?_⟩
      -- The assignment changed nothing that the check of the text depends on.
      have setText := @set_of_resolved (store.put declaration.name (.literal value)) requested
        declaration.name declaration resolved found (.ofText text)
      rw [check_integer isInteger free (Redirect.ofInput?_ofText plainText)] at setText
      constructor
      · intro short
        rw [shortText short] at setText
        exact ⟨_, _, setText, by simp [Stored.raw], Scalar.Same.settled value⟩
      · intro long
        rw [longText long] at setText
        exact setText

def count : Declaration :=
  { name := "count", type := .integer, help := "", default := .null, required := false,
    mode := "h", constraint := none }

def counter : Schema :=
  { name := "counter", kind := .parameterFile, executable := none, required := []
    optional := [count] }

/-- The number `-7`, from a text with blanks. -/
theorem set_own_text_counter :
    ∃ next raw, (fresh counter).set "cou" (.ofText " -7 ") = .ok (next, raw) ∧
      next.entry "count" = .literal raw ∧
      ParameterFile.valueText? count (.literal raw) = some "-7" ∧
      ∃ again other, next.set "cou" (.ofText "-7") = .ok (again, other) ∧
        again.entry "count" = .literal other ∧ raw.Same other := by
  have declared : (fresh counter).declaration "cou" = .ok count := by decide +kernel
  have assigned : (fresh counter).set "cou" (.ofText " -7 ") =
      .ok ((fresh counter).put "count" (.literal (.number (.ofDecimal true 7 0))),
        .number (.ofDecimal true 7 0)) := by
    decide +kernel
  obtain ⟨held, _, _, text, isText, kept, _⟩ :=
    set_own_text (fresh counter) declared rfl rfl (by decide) assigned
  have written : ParameterFile.valueText? count (.literal (.number (.ofDecimal true 7 0))) =
      some "-7" := by
    decide +kernel
  cases written.symm.trans isText
  refine ⟨_, _, assigned, held, written, kept ?_⟩
  intro number isNumber
  rw [← Scalar.number.inj isNumber]
  decide +kernel

/-- The number `10 ^ 21` is taken, but its text is not; and digits are taken for an infinity,
which is not taken as a number. -/
theorem counter_not_kept :
    (∃ next, (fresh counter).set "count" (.scalar (.number (.finite false Number.large))) =
        .ok (next, .number (.finite false Number.large)) ∧
      ParameterFile.valueText? count (next.entry "count") = some "1e+21" ∧
      ∃ fault, next.set "count" (.ofText "1e+21") = .error (.value fault) ∧
        fault.faultClass = .type) ∧
    (∃ next, (fresh counter).set "count" (.ofText (String.ofList (List.replicate 309 '9'))) =
        .ok (next, .number (.infinity false))) ∧
    ∃ fault, (fresh counter).set "count" (.scalar (.number (.infinity false))) =
        .error (.value fault) ∧ fault.faultClass = .type := by
  have found : (fresh counter).schema.find? "count" = some count := by decide +kernel
  have plain : Redirect.ofInput? (.ofText (String.ofList (List.replicate 309 '9'))) = none :=
    Redirect.ofInput?_ofText
      (Redirect.isWritten_eq_false (String.toList_ofList (l := '9' :: List.replicate 308 '9'))
        (by decide))
  have reads : Coerce.toNumber? true (.ofText (String.ofList (List.replicate 309 '9'))) =
      some (.number (.infinity false)) := by
    have trimmed : Text.trimChars (List.replicate 309 '9') = List.replicate 309 '9' := by
      decide +kernel
    simp only [Coerce.toNumber?, Input.ofText, Coerce.textToNumber?, String.toList_ofList, trimmed]
    decide +kernel
  refine ⟨⟨(fresh counter).put "count" (.literal (.number (.finite false Number.large))), ?_⟩,
    ⟨(fresh counter).put "count" (.literal (.number (.infinity false))), ?_⟩, ?_⟩
  · refine ⟨by decide +kernel, by decide +kernel, ?_⟩
    exact ⟨.notOfType "counter" "count" "an integer" "1e+21", by decide +kernel, rfl⟩
  · rw [set_of_find? found, check_integer rfl rfl plain, reads]
    rfl
  · exact ⟨.notOfType "counter" "count" "an integer" "Infinity", by decide +kernel, rfl⟩

end Store

end ToolParams
