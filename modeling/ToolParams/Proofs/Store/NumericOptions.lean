import ToolParams.Proofs.ParameterFile.Numerals
import ToolParams.Proofs.Store.Ranges

/-!
# Options of numeric parameters

A numeric parameter with options takes the numbers that one of them denotes, by its own text
or as another numeral of the number.  A blank option denotes no number, but its numeral is
that of zero: where an option is blank, zero is taken although nothing denotes it.
-/

namespace ToolParams

namespace Number

variable {number : Number} {text : String} {choices : List String}

theorem denotedBy_iff :
    number.DenotedBy text ↔
      text = number.text ∨ Text.trim text ≠ "" ∧ (read text).eqv number = true := by
  unfold DenotedBy
  rw [read_text_eq, eqv_right (rank_settled number)]

theorem read_blank (blank : Text.trim text = "") : read text = zero false := by
  rw [← ParameterFile.read_trim, blank]
  decide

/-- A number that the check of options lets through: an option denotes it, or an option is
blank and the number is zero. -/
inductive IsTaken (number : Number) (choices : List String) : Prop where
  | denoted {option : String} : option ∈ choices → number.DenotedBy option → IsTaken number choices
  | blank {option : String} : option ∈ choices → Text.trim option = "" →
      (zero false).eqv number = true → IsTaken number choices

theorem isTaken_iff_of_filled (filled : ∀ option ∈ choices, Text.trim option ≠ "") :
    number.IsTaken choices ↔ ∃ option ∈ choices, number.DenotedBy option := by
  constructor
  · rintro (⟨member, denotes⟩ | ⟨member, blank, _⟩)
    · exact ⟨_, member, denotes⟩
    · exact absurd blank (filled _ member)
  · rintro ⟨option, member, denotes⟩
    exact .denoted member denotes

end Number

open Number (IsTaken)

/-- A value that the options of a numeric parameter let through: unset, where an option is
empty, or a number that is taken. -/
inductive Scalar.Fits (choices : List String) : Scalar → Prop where
  | unset : "" ∈ choices → Fits choices .null
  | number {number : Number} : number.IsTaken choices → Fits choices (.number number)

theorem Scalar.fits_number_iff {choices : List String} {number : Number} :
    (Scalar.number number).Fits choices ↔ number.IsTaken choices := by
  constructor
  · rintro (_ | taken)
    exact taken
  · exact .number

/-- How a value is shown when no option fits it. -/
def Scalar.offered : Scalar → String
  | .null => "''"
  | value => value.shown

namespace Constraint

variable {declaration : Declaration} {choices : List String} {number : Number}

theorem spells_number_iff {option : String} :
    spells (.number number) option = true ↔
      number.DenotedBy option ∨
        Text.trim option = "" ∧ (Number.zero false).eqv number = true := by
  have shown : (Scalar.number number).shown = number.text := rfl
  rw [Number.denotedBy_iff]
  simp only [spells, shown, Bool.or_eq_true, decide_eq_true_eq]
  by_cases blank : Text.trim option = ""
  · rw [Number.read_blank blank]
    simp only [blank, ne_eq, not_true_eq_false, false_and, or_false, true_and]
  · simp only [blank, ne_eq, not_false_eq_true, true_and, false_and, or_false]

theorem any_spells_iff :
    choices.any (spells (.number number)) = true ↔ number.IsTaken choices := by
  rw [List.any_eq_true]
  constructor
  · rintro ⟨option, member, spelled⟩
    rcases spells_number_iff.mp spelled with denotes | ⟨blank, isZero⟩
    · exact .denoted member denotes
    · exact .blank member blank isZero
  · rintro (⟨member, denotes⟩ | ⟨member, blank, isZero⟩)
    · exact ⟨_, member, spells_number_iff.mpr (.inl denotes)⟩
    · exact ⟨_, member, spells_number_iff.mpr (.inr ⟨blank, isZero⟩)⟩

section Numeric

variable {value : Scalar} (numeric : declaration.type.isNumeric = true)
include numeric

theorem matchOption_of_fits (fits : value.Fits choices) :
    matchOption declaration choices value = .ok value := by
  cases fits with
  | unset listed => exact if_pos listed
  | number taken =>
      simp only [matchOption, ParameterFile.isText_of_numeric numeric, Bool.false_eq_true, if_false]
      exact if_pos (any_spells_iff.mpr taken)

theorem matchOption_of_not_fits (shape : value = .null ∨ ∃ number, value = .number number)
    (strange : ¬value.Fits choices) :
    matchOption declaration choices value =
      .error (.notAnOption declaration.name value.offered choices) := by
  rcases shape with rfl | ⟨number, rfl⟩
  · exact if_neg fun listed => strange (.unset listed)
  · simp only [matchOption, ParameterFile.isText_of_numeric numeric, Bool.false_eq_true, if_false]
    exact if_neg fun spelled => strange (.number (any_spells_iff.mp spelled))

end Numeric

end Constraint

namespace Store

variable {store : Store} {requested : String} {declaration : Declaration}
  {choices : List String} {input : Input} {concrete : Scalar}

section Check

variable (constrained : declaration.constraint = some (.options choices))
include constrained

theorem constraint_check_options (resolver : Resolver) (value : Scalar) :
    Constraint.check store.tool declaration resolver value =
      Constraint.matchOption declaration choices value := by
  unfold Constraint.check
  rw [constrained]

theorem check_plain (plain : Redirect.ofInput? input = none)
    (coerced : coerce store.tool declaration input = .ok concrete) :
    store.check declaration input =
      (Constraint.matchOption declaration choices concrete).map .literal := by
  unfold check
  simp only [plain, coerced, Outcome.ok_bind, constraint_check_options constrained]
  cases Constraint.matchOption declaration choices concrete <;> rfl

theorem check_redirect {target : String} {value : Scalar}
    (written : Redirect.ofInput? input = some target)
    (leads : store.LeadsTo declaration.name target value)
    (coerced : coerce store.tool declaration (.scalar value) = .ok concrete) :
    store.check declaration input =
      (Constraint.matchOption declaration choices concrete).map fun _ => .redirect target := by
  unfold check
  simp only [written, leadsTo_iff.mp leads, coerced, Outcome.ok_bind,
    constraint_check_options constrained]
  cases Constraint.matchOption declaration choices concrete <;> rfl

end Check

/-- What is validated as a number or as unset is taken or refused as the options make it. -/
theorem validate_judged {accepted : Scalar → Stored}
    (declared : store.declaration requested = .ok declaration)
    (numeric : declaration.type.isNumeric = true)
    (shape : concrete = .null ∨ ∃ number, concrete = .number number)
    (checked : store.check declaration input =
      (Constraint.matchOption declaration choices concrete).map accepted) :
    (store.validate requested input = .ok (accepted concrete) ↔ concrete.Fits choices) ∧
      (store.validate requested input =
          .error (.value (.notAnOption declaration.name concrete.offered choices)) ↔
        ¬concrete.Fits choices) := by
  rw [validate_of_declaration declared, checked]
  by_cases fits : concrete.Fits choices
  · rw [Constraint.matchOption_of_fits numeric fits]
    exact ⟨iff_of_true rfl fits, iff_of_false nofun (not_not_intro fits)⟩
  · rw [Constraint.matchOption_of_not_fits numeric shape fits]
    exact ⟨iff_of_false nofun fits, iff_of_true rfl fits⟩

/-- A numeric parameter with options takes the unset value where the empty text is an option,
the numbers that an option denotes, and zero where an option is blank.  Everything else is
refused as none of the options, and a redirect is judged by the value that it leads to. -/
theorem validate_eq_ok_iff_fits (store : Store)
    (declared : store.declaration requested = .ok declaration)
    (numeric : declaration.type.isNumeric = true)
    (constrained : declaration.constraint = some (.options choices)) :
    (∀ input concrete, Redirect.ofInput? input = none →
      coerce store.tool declaration input = .ok concrete →
        (store.validate requested input = .ok (.literal concrete) ↔ concrete.Fits choices) ∧
        (store.validate requested input =
            .error (.value (.notAnOption declaration.name concrete.offered choices)) ↔
          ¬concrete.Fits choices)) ∧
    (∀ input target value concrete, Redirect.ofInput? input = some target →
      store.LeadsTo declaration.name target value →
      coerce store.tool declaration (.scalar value) = .ok concrete →
        (store.validate requested input = .ok (.redirect target) ↔ concrete.Fits choices) ∧
        (store.validate requested input =
            .error (.value (.notAnOption declaration.name concrete.offered choices)) ↔
          ¬concrete.Fits choices)) ∧
    ((∀ option ∈ choices, Text.trim option ≠ "") → ∀ number,
      (Scalar.number number).Fits choices ↔ ∃ option ∈ choices, number.DenotedBy option) := by
  refine ⟨?_, ?_, ?_⟩
  · intro input concrete plain coerced
    have shape := null_or_number_of_coerce numeric coerced
    exact validate_judged declared numeric shape (check_plain constrained plain coerced)
  · intro input target value concrete written leads coerced
    have shape := null_or_number_of_coerce numeric coerced
    exact validate_judged declared numeric shape
      (check_redirect constrained written leads coerced)
  · intro filled number
    rw [Scalar.fits_number_iff, Number.isTaken_iff_of_filled filled]

/-- A step that is one or five or not set. -/
def step : Declaration :=
  { name := "step", type := .integer, help := "", default := .number (.ofNat 5)
    required := false, mode := "h", constraint := some (.options ["1", "0x5", ""]) }

def stairs : Schema :=
  { name := "stairs", kind := .parameterFile, executable := none, required := []
    optional := [step,
      { name := "length", type := .real, help := "", default := .number (.ofNat 5),
        required := false, mode := "h", constraint := none }] }

theorem declaration_stairs : (fresh stairs).declaration "step" = .ok step := by
  decide +kernel

/-- Five is taken in another numeral and through a redirect, seven is refused, and unset is
taken for the empty option. -/
theorem validate_stairs :
    (fresh stairs).validate "step" (.scalar (.number (.ofNat 5))) =
        .ok (.literal (.number (.ofNat 5))) ∧
      (fresh stairs).validate "step" (.ofText ")length") = .ok (.redirect "length") ∧
      (fresh stairs).validate "step" (.scalar (.number (.ofNat 7))) =
        .error (.value (.notAnOption "step" "7" ["1", "0x5", ""])) ∧
      (fresh stairs).validate "step" (.scalar .null) = .ok (.literal .null) := by
  obtain ⟨literals, redirects, _⟩ :=
    validate_eq_ok_iff_fits (fresh stairs) declaration_stairs (by decide) rfl
  have five : (Scalar.number (.ofNat 5)).Fits ["1", "0x5", ""] :=
    .number (.denoted (.tail _ (.head _)) (Number.denotedBy_iff.mpr (.inr (by decide +kernel))))
  refine ⟨?_, ?_, ?_, ?_⟩
  · exact (literals (.scalar (.number (.ofNat 5))) _ rfl (by decide +kernel)).1.mpr five
  · have leads : (fresh stairs).LeadsTo "step" "length" (.number (.ofNat 5)) := by
      refine ⟨by decide, ["length"], .ends ?_, by decide⟩
      decide +kernel
    exact (redirects (.ofText ")length") "length" _ _ (by decide +kernel) leads
      (by decide +kernel)).1.mpr five
  · obtain ⟨_, refused⟩ := literals (.scalar (.number (.ofNat 7))) (.number (.ofNat 7)) rfl
      (by decide +kernel)
    have offered : (Scalar.number (.ofNat 7)).offered = "7" := by decide +kernel
    rw [offered, Scalar.fits_number_iff] at refused
    refine refused.mpr ?_
    have strange : ∀ option ∈ ["1", "0x5", ""], ¬(Number.ofNat 7).DenotedBy option := by
      simp only [Number.denotedBy_iff]
      decide +kernel
    rintro (⟨member, denotes⟩ | ⟨_, _, isZero⟩)
    · exact strange _ member denotes
    · revert isZero
      decide +kernel
  · exact (literals (.scalar .null) _ rfl (by decide +kernel)).1.mpr (.unset (by decide))

/-- Zero is taken for the empty option, though no option that is not blank denotes it. -/
theorem stairs_not_denoted :
    (fresh stairs).validate "step" (.scalar (.number (.ofNat 0))) =
        .ok (.literal (.number (.ofNat 0))) ∧
      ¬∃ option ∈ ["1", "0x5", ""], Text.trim option ≠ "" ∧
        (option = (Number.ofNat 0).text ∨
          (Number.read option).eqv (.ofNat 0) = true) := by
  decide +kernel

end Store

end ToolParams
