import ToolParams.Proofs.ParameterFile.Lines
import ToolParams.Proofs.ParameterFile.Reading
import ToolParams.Proofs.Store.Agreement
import ToolParams.Proofs.Store.Stable

/-!
# Values are read as they were written

The text of a stable entry is an input that stands for the same entry: a redirect by its
written form, a literal by a text that its type takes for the same value.  So what is
read from a line is accepted exactly when the entry itself is.
-/

namespace ToolParams

open Outcome (Alike)

/-- An entry that has a line of its own: a text without line ends that is not written
like a redirect, and a whole number that is written in digits. -/
def Stored.IsShown (declaration : Declaration) : Stored → Prop
  | .literal (.text text) => IsLine text ∧ Redirect.isWritten text = false
  | .literal (.number number) => declaration.type = .integer → number.IsShort
  | _ => True

instance (declaration : Declaration) :
    (stored : Stored) → Decidable (stored.IsShown declaration)
  | .literal (.text text) =>
      inferInstanceAs (Decidable (IsLine text ∧ Redirect.isWritten text = false))
  | .literal (.number number) =>
      inferInstanceAs (Decidable (declaration.type = .integer → number.IsShort))
  | .literal .absent => .isTrue trivial
  | .literal .null => .isTrue trivial
  | .literal (.bool _) => .isTrue trivial
  | .redirect _ => .isTrue trivial

namespace Redirect

theorem toList_write (name : String) : (write name).toList = ')' :: name.toList := by
  rw [write, String.toList_append]
  rfl

theorem isWritten_eq_false {text : String} {head : Char} {rest : List Char}
    (begins : text.toList = head :: rest) (other : head ≠ ')') : isWritten text = false := by
  rw [isWritten, Text.startsWith, begins]
  change (')' == head && true) = false
  rw [beq_false_of_ne (Ne.symm other), Bool.false_and]

theorem isWritten_write (name : String) : isWritten (write name) = true := by
  rw [isWritten, Text.startsWith, write, String.toList_append]
  rfl

theorem target_write_eq (name : String) : target (write name) = Text.trim name := by
  have dropped : Text.drop 1 (write name) = name := by
    rw [Text.drop, toList_write]
    exact String.ofList_toList
  rw [target, dropped]

theorem target_write {name : String} (trimmed : Text.trim name = name) :
    target (write name) = name := by
  rw [target_write_eq, trimmed]

theorem ofInput?_ofText {text : String} (plain : isWritten text = false) :
    ofInput? (.ofText text) = none := by
  simp [ofInput?, Input.ofText, plain]

end Redirect

namespace Stored

variable {text : String}

theorem ofRaw_of_written (written : Redirect.isWritten text = true) :
    ofRaw (.text text) = .redirect (Redirect.target text) :=
  if_pos written

theorem ofRaw_of_plain (plain : ¬Redirect.isWritten text = true) :
    ofRaw (.text text) = .literal (.text text) :=
  if_neg plain

end Stored

namespace Number

theorem isPlain_text (number : Number) : IsPlain number.text := by
  cases number with
  | nan => decide
  | infinity negative => cases negative <;> decide
  | finite negative magnitude =>
      have numeral := isNumeralChar_text (show (finite negative magnitude).isFinite = true from rfl)
      exact ⟨⟨fun member => absurd (numeral _ member) (by decide),
        fun member => absurd (numeral _ member) (by decide)⟩,
        fun member => absurd (numeral _ member) (by decide)⟩

theorem isWritten_text (number : Number) : Redirect.isWritten number.text = false := by
  cases number with
  | nan => decide
  | infinity negative => cases negative <;> decide
  | finite negative magnitude =>
      have isFinite : (finite negative magnitude).isFinite = true := rfl
      cases begins : (finite negative magnitude).text.toList with
      | nil => exact absurd begins (text_ne_empty isFinite)
      | cons head rest =>
          refine Redirect.isWritten_eq_false begins ?_
          rintro rfl
          have numeral := isNumeralChar_text isFinite ')' (begins ▸ List.mem_cons_self)
          exact absurd numeral (by decide)

end Number

namespace Coerce

/-- The text of a number is neither blank nor the word for an unset value. -/
theorem textToNumber?_eq {number : Number} (finite : number.isFinite = true) (integer : Bool) :
    textToNumber? integer number.text =
      if integer then (Number.integer? number.text.toList).map .number
      else some (.number number.settled) := by
  have numeral := Number.isNumeralChar_text finite
  have trimmed : Text.trimChars number.text.toList = number.text.toList :=
    Text.trimChars_of_nonblank fun _ member => Number.isBlank_of_isNumeralChar (numeral _ member)
  have isSet : number.text.toList ≠ "INDEF".toList := by
    intro unset
    exact absurd (numeral 'I' (unset ▸ by decide)) (by decide)
  simp only [textToNumber?, trimmed, if_neg isSet, if_neg (Number.text_ne_empty finite)]
  cases integer with
  | true => rfl
  | false =>
      rw [if_neg Bool.false_ne_true, if_neg Bool.false_ne_true, Number.read_text finite,
        Number.isFinite_settled, if_pos finite]

theorem textToNumber?_text {number : Number} {integer : Bool} (finite : number.isFinite = true)
    (whole : integer = true → number.isInteger = true ∧ number.IsShort) :
    textToNumber? integer number.text = some (.number number.settled) := by
  rw [textToNumber?_eq finite]
  cases integer with
  | true =>
      obtain ⟨isInteger, short⟩ := whole rfl
      rw [if_pos rfl, Number.integer?_text isInteger short]
      rfl
  | false => rfl

end Coerce

namespace ParameterFile

def plainInput (declaration : Declaration) (text : String) : Input :=
  if declaration.type.isText && text = "" then .scalar .null else .ofText text

@[simp]
theorem inputFrom_empty (files : FileTree) (declaration : Declaration) (text : String) :
    inputFrom files .empty declaration text = .ok (plainInput declaration text) := rfl

/-- The text of an entry stands for the entry. -/
inductive Reads (declaration : Declaration) : Stored → String → Prop where
  | literal {value other : Scalar} {text : String} :
      Redirect.ofInput? (.scalar value) = none →
      Redirect.ofInput? (plainInput declaration text) = none →
      (∀ tool, coerce tool declaration (.scalar value) = .ok value) →
      (∀ tool, coerce tool declaration (plainInput declaration text) = .ok other) →
      value.Same other →
      Reads declaration (.literal value) text
  | redirect {target text : String} :
      Redirect.ofInput? (plainInput declaration text) = some target →
      plainInput declaration text = .scalar (Stored.redirect target).raw →
      Reads declaration (.redirect target) text

section Reads

variable {declaration : Declaration} {stored : Stored} {text : String}

theorem plainInput_of_filled (filled : text ≠ "") :
    plainInput declaration text = .ofText text := by
  simp [plainInput, filled]

theorem plainInput_of_other (other : declaration.type.isText = false) :
    plainInput declaration text = .ofText text := by
  simp [plainInput, other]

theorem writableText_of_isPlain (plain : IsPlain text) : WritableText declaration text :=
  ⟨plain.2, fun _ => plain.1⟩

theorem writableText_write {target : String} (writable : WritableText declaration target) :
    WritableText declaration (Redirect.write target) := by
  obtain ⟨isLine, bare⟩ := writable
  refine ⟨by simpa [IsLine, Redirect.toList_write] using isLine, fun textless => ?_⟩
  simpa [Columns.IsBare, Redirect.toList_write] using bare textless

/-- The text of a literal is one of a few words, or what is shown of the value. -/
theorem valueText?_literal_cases {value : Scalar}
    (held : valueText? declaration (.literal value) = some text) :
    text ∈ ["yes", "no", "INDEF", ""] ∨ text = value.shown := by
  unfold valueText? at held
  simp only at held
  split at held
  · cases held
  · cases held
    split <;> simp
  · cases held
    simp
  · cases held
    simp
  · cases held
    simp
  · cases held
    exact .inr rfl

/-- How an input comes to a value of a parameter that holds numbers. -/
theorem coerce_numeric (numeric : declaration.type.isNumeric = true) (tool : String)
    {input : Input} {value : Scalar}
    (taken : Coerce.toNumber? (declaration.type = .integer) input = some value) :
    coerce tool declaration input = .ok value := by
  unfold coerce
  cases type : declaration.type with
  | integer =>
      simp only [type, decide_true] at taken
      simp only [taken]
  | real =>
      simp only [type, reduceCtorEq, decide_false] at taken
      simp only [taken]
  | _ =>
      rw [type] at numeric
      cases numeric

theorem toNumber?_of_coerce (numeric : declaration.type.isNumeric = true) {tool : String}
    {input : Input} {value : Scalar} (coerced : coerce tool declaration input = .ok value) :
    Coerce.toNumber? (declaration.type = .integer) input = some value := by
  unfold coerce at coerced
  cases type : declaration.type with
  | integer =>
      simp only [type] at coerced
      split at coerced
      · cases coerced
        assumption
      · cases coerced
  | real =>
      simp only [type] at coerced
      split at coerced
      · cases coerced
        assumption
      · cases coerced
  | _ =>
      rw [type] at numeric
      cases numeric

theorem isText_of_numeric {type : ParameterType} (numeric : type.isNumeric = true) :
    type.isText = false := by
  cases type <;> first | rfl | cases numeric

theorem coerce_textual (isText : declaration.type.isText = true) (tool : String)
    (input : Input) : coerce tool declaration input = .ok (Coerce.toText input) := by
  unfold coerce
  cases type : declaration.type <;> first | rfl | (rw [type] at isText; cases isText)

theorem check_plainInput (store : Store) (declaration : Declaration) (text : String) :
    store.check declaration (plainInput declaration text) =
      store.check declaration (.ofText text) := by
  unfold plainInput
  split
  · rename_i unset
    rw [Bool.and_eq_true, decide_eq_true_eq] at unset
    cases unset.2
    unfold Store.check
    rw [coerce_textual unset.1, coerce_textual unset.1]
    rfl
  · rfl

/-- What a type admits is its own value, but for numbers without end. -/
theorem coerce_of_admits {value : Scalar} (admits : declaration.type.Admits value)
    (finite : ∀ number, value = .number number → number.isFinite = true) (tool : String) :
    coerce tool declaration (.scalar value) = .ok value := by
  generalize isType : declaration.type = type at admits
  cases admits with
  | bool truth =>
      simp only [coerce, isType]
      rfl
  | unsetNumber numeric =>
      rw [← isType] at numeric
      exact coerce_numeric numeric tool rfl
  | @integer number whole =>
      have isWhole : number.isInteger = true := whole (finite number rfl)
      refine coerce_numeric (by rw [isType]; rfl) tool ?_
      simp [Coerce.toNumber?, isType, isWhole]
  | @real number isFinite =>
      refine coerce_numeric (by rw [isType]; rfl) tool ?_
      simp [Coerce.toNumber?, isType, isFinite]
  | unsetText isText =>
      rw [← isType] at isText
      exact coerce_textual isText tool _
  | text isText filled =>
      rw [← isType] at isText
      rw [coerce_textual isText]
      exact congrArg Except.ok (if_neg filled)

/-- A line that holds a text of an entry, and the entry can be read from it. -/
structure Shows (declaration : Declaration) (stored : Stored) (text : String) : Prop where
  held : valueText? declaration stored = some text
  writable : WritableText declaration text
  reads : Reads declaration stored text

theorem reads_ofText {value other : Scalar} (isInput : plainInput declaration text = .ofText text)
    (plain : Redirect.isWritten text = false)
    (plainValue : Redirect.ofInput? (.scalar value) = none)
    (kept : ∀ tool, coerce tool declaration (.scalar value) = .ok value)
    (taken : ∀ tool, coerce tool declaration (.ofText text) = .ok other)
    (same : value.Same other) : Reads declaration (.literal value) text := by
  refine .literal plainValue ?_ kept ?_ same
  · rw [isInput]
    exact Redirect.ofInput?_ofText plain
  · rw [isInput]
    exact taken

theorem shows_bool (type : declaration.type = .boolean) (truth : Bool) :
    Shows declaration (.literal (.bool truth)) (if truth then "yes" else "no") := by
  have admits : declaration.type.Admits (.bool truth) := by
    rw [type]
    exact .bool truth
  have kept := coerce_of_admits admits nofun
  cases truth with
  | true =>
      refine ⟨by simp [valueText?, type], ⟨by decide, fun _ => by decide⟩,
        reads_ofText (plainInput_of_filled (by decide)) (by decide) rfl kept ?_ (.refl _)⟩
      intro tool
      simp only [coerce, type]
      rfl
  | false =>
      refine ⟨by simp [valueText?, type], ⟨by decide, fun _ => by decide⟩,
        reads_ofText (plainInput_of_filled (by decide)) (by decide) rfl kept ?_ (.refl _)⟩
      intro tool
      simp only [coerce, type]
      rfl

theorem shows_unsetNumber (numeric : declaration.type.isNumeric = true) :
    Shows declaration (.literal .null) "INDEF" := by
  refine ⟨?_, ⟨by decide, fun _ => by decide⟩, ?_⟩
  · cases type : declaration.type <;> simp_all [valueText?, ParameterType.isNumeric]
  · apply reads_ofText (plainInput_of_filled (by decide)) (by decide) rfl _ _ (.refl _)
    · exact coerce_of_admits (.unsetNumber numeric) nofun
    · exact fun tool => coerce_numeric numeric tool rfl

theorem valueText?_number (numeric : declaration.type.isNumeric = true) (value : Number) :
    valueText? declaration (.literal (.number value)) = some value.text := by
  cases type : declaration.type <;>
    simp_all [valueText?, ParameterType.isNumeric, Scalar.shown]

theorem shows_number {number : Number} (numeric : declaration.type.isNumeric = true)
    (finite : number.isFinite = true)
    (whole : declaration.type = .integer → number.isInteger = true ∧ number.IsShort) :
    Shows declaration (.literal (.number number)) number.text := by
  refine ⟨valueText?_number numeric number, writableText_of_isPlain number.isPlain_text, ?_⟩
  have same : (Scalar.number number).Same (.number number.settled) :=
    .number (Number.settled_settled number).symm
  refine reads_ofText (plainInput_of_other (isText_of_numeric numeric))
    number.isWritten_text rfl ?_ ?_ same
  · refine coerce_of_admits (.number numeric finite fun type => (whole type).1) ?_
    rintro _ ⟨⟩
    exact finite
  · intro tool
    apply coerce_numeric numeric
    exact Coerce.textToNumber?_text finite (by simpa using whole)

theorem valueText?_textual (isText : declaration.type.isText = true) (value : Scalar) :
    valueText? declaration (.literal value) =
      some (if value = .null then "" else value.shown) := by
  cases type : declaration.type <;> cases value <;>
    simp_all [valueText?, ParameterType.isText]

theorem shows_unsetText (isText : declaration.type.isText = true) :
    Shows declaration (.literal .null) "" := by
  have isInput : plainInput declaration "" = .scalar .null := by
    simp [plainInput, isText]
  refine ⟨valueText?_textual isText .null, ⟨isPlain_empty.2, fun _ => isPlain_empty.1⟩, ?_⟩
  have kept (tool : String) : coerce tool declaration (.scalar .null) = .ok .null :=
    coerce_of_admits (.unsetText isText) nofun tool
  refine .literal rfl (by rw [isInput]; rfl) kept ?_ (.refl _)
  rw [isInput]
  exact kept

theorem shows_text (isText : declaration.type.isText = true) (filled : text ≠ "")
    (isLine : IsLine text) (plain : Redirect.isWritten text = false) :
    Shows declaration (.literal (.text text)) text := by
  have kept (tool : String) : coerce tool declaration (.ofText text) = .ok (.text text) :=
    coerce_of_admits (.text isText filled) nofun tool
  refine ⟨valueText?_textual isText (.text text), ⟨isLine, ?_⟩, ?_⟩
  · intro other
    rw [isText] at other
    cases other
  · exact reads_ofText (plainInput_of_filled filled) plain (Redirect.ofInput?_ofText plain)
      kept kept (.refl _)

theorem shows_redirect {target : String} (plain : IsPlain target)
    (trimmed : Text.trim target = target) :
    Shows declaration (.redirect target) (Redirect.write target) := by
  have filled : Redirect.write target ≠ "" := by
    intro empty
    have characters := Redirect.toList_write target
    rw [empty] at characters
    cases characters
  have isInput : plainInput declaration (Redirect.write target) =
      .scalar (Stored.redirect target).raw := plainInput_of_filled filled
  refine ⟨rfl, writableText_write (writableText_of_isPlain plain), .redirect ?_ isInput⟩
  rw [isInput]
  simp only [Stored.raw, Redirect.ofInput?, Redirect.isWritten_write, if_true,
    Redirect.target_write trimmed]

/-- A stable entry with a line of its own is read as it was written. -/
theorem exists_shows (stable : stored.Stable declaration) (shown : stored.IsShown declaration)
    (plain : ∀ target, stored = .redirect target → IsPlain target) :
    ∃ text, Shows declaration stored text := by
  cases stored with
  | redirect target => exact ⟨_, shows_redirect (plain target rfl) stable⟩
  | literal value =>
      have admits := stable.admits
      generalize type : declaration.type = given at admits
      cases admits with
      | bool truth => exact ⟨_, shows_bool type truth⟩
      | unsetNumber numeric => exact ⟨_, shows_unsetNumber (type ▸ numeric)⟩
      | @integer number whole =>
          have short := shown type
          have finite : number.isFinite = true := by
            obtain ⟨_, _, rfl, _⟩ := short
            rfl
          exact ⟨_, shows_number (type ▸ rfl) finite fun _ => ⟨whole finite, short⟩⟩
      | real finite =>
          refine ⟨_, shows_number (type ▸ rfl) finite ?_⟩
          intro isInteger
          rw [type] at isInteger
          cases isInteger
      | unsetText isText => exact ⟨_, shows_unsetText (type ▸ isText)⟩
      | text isText filled => exact ⟨_, shows_text (type ▸ isText) filled shown.1 shown.2⟩

end Reads

end ParameterFile

end ToolParams
