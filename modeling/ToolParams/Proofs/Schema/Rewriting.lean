import ToolParams.Proofs.ParameterFile.Values
import ToolParams.Proofs.Schema.Reader

/-!
# Declarations are read as they were written

Each column of a line is put into a form of its own when it is written: zeros lose their
signs, redirects the blanks behind the parenthesis, a range without limits disappears, and
an empty mode gets a letter.  Read again, the line declares the parameter in that form.
-/

namespace ToolParams

namespace Number

variable {number : Number}

/-- The text of a number consists of the characters of numerals, or is the word for an
infinity. -/
theorem char_of_mem_text (isNumber : number.isNaN = false) {character : Char}
    (member : character ∈ number.text.toList) :
    isNumeralChar character = true ∨ character ∈ "Infinity".toList := by
  cases number with
  | nan => cases isNumber
  | infinity negative =>
      have spelled : (infinity negative).text.toList.all (fun other =>
          isNumeralChar other || decide (other ∈ "Infinity".toList)) = true := by
        cases negative <;> decide
      have said := List.all_eq_true.mp spelled character member
      rwa [Bool.or_eq_true, decide_eq_true_eq] at said
  | finite negative magnitude => exact .inl (isNumeralChar_text rfl character member)

theorem not_mem_text (isNumber : number.isNaN = false) {character : Char}
    (strange : isNumeralChar character = false ∧ character ∉ "Infinity".toList) :
    character ∉ number.text.toList := by
  intro member
  rcases char_of_mem_text isNumber member with numeral | ofWord
  · rw [strange.1] at numeral
    cases numeral
  · exact strange.2 ofWord

end Number

namespace Schema

variable {tool name column : String}

/-- A number is read back from its text. -/
theorem readNumber_text {number : Number} (isNumber : number.isNaN = false) :
    readNumber tool name number.text = .ok (some number.settled) := by
  cases number with
  | nan => cases isNumber
  | infinity negative => cases negative <;> rfl
  | finite negative magnitude =>
      have finite : (Number.finite negative magnitude).isFinite = true := rfl
      have numeral := Number.isNumeralChar_text finite
      have trimmed : Text.trim (Number.finite negative magnitude).text =
          (Number.finite negative magnitude).text := by
        apply String.toList_injective
        rw [Text.toList_trim]
        exact Text.trimChars_of_nonblank fun _ member =>
          Number.isBlank_of_isNumeralChar (numeral _ member)
      have isSet : ¬((Number.finite negative magnitude).text = "" ∨
          (Number.finite negative magnitude).text = "INDEF") := by
        rintro (empty | unset)
        · exact Number.text_ne_empty finite (by rw [empty]; rfl)
        · exact absurd (numeral 'I' (by rw [unset]; decide)) (by decide)
      have settled : (Number.finite negative magnitude).settled.isNaN = false := by
        rw [Number.settled]
        split <;> rfl
      simp only [readNumber, trimmed, isSet, if_false, Number.read_text finite, settled,
        Bool.false_eq_true]

theorem isNaN_of_readNumber {number : Number}
    (accepted : readNumber tool name column = .ok (some number)) : number.isNaN = false := by
  unfold readNumber at accepted
  simp only at accepted
  generalize Number.read (Text.trim column) = value at accepted
  split at accepted
  · cases accepted
  · split at accepted
    · cases accepted
    · rename_i isNumber
      cases accepted
      exact Bool.eq_false_iff.mpr isNumber

end Schema

open ParameterFile (boundText limitColumns modeColumn)

/-- A limit as it is read again: a zero has no sign. -/
def Bound.settled : Bound → Bound
  | .number value => .number value.settled
  | bound => bound

@[simp]
theorem boundText_settled (bound : Bound) : boundText bound.settled = boundText bound := by
  cases bound with
  | number value => exact Number.text_settled value
  | _ => rfl

/-- A constraint as it is read again: a range without limits is none. -/
def Constraint.rewritten? : Constraint → Option Constraint
  | .options choices => some (.options choices)
  | .range low high =>
      if low = .unbounded ∧ high = .unbounded then none
      else some (.range low.settled high.settled)

theorem limitColumns_rewritten (constraint : Option Constraint) :
    limitColumns (constraint.bind Constraint.rewritten?) = limitColumns constraint := by
  cases constraint with
  | none => rfl
  | some constraint =>
      cases constraint with
      | options choices => rfl
      | range low high =>
          rw [Option.bind_some, Constraint.rewritten?]
          split
          · rename_i unlimited
            rw [unlimited.1, unlimited.2]
            rfl
          · simp [limitColumns]

namespace Schema

variable {tool name column low high : String} {type : ParameterType} {bound : Bound}
  {constraint : Option Constraint}

/-- What a limit column holds. -/
inductive IsBound (column : String) : Bound → Prop where
  | redirect : Redirect.isWritten column = true → IsBound column (.text column)
  | unbounded : IsBound column .unbounded
  | number {value : Number} : value.isNaN = false → IsBound column (.number value)

theorem isBound_of_readBound (accepted : readBound tool name column = .ok bound) :
    IsBound column bound := by
  unfold readBound at accepted
  split at accepted
  · rename_i written
    cases accepted
    exact .redirect written
  · obtain ⟨value, isValue, rfl⟩ := Outcome.map_eq_ok_iff.mp accepted
    cases value with
    | none => exact .unbounded
    | some value => exact .number (isNaN_of_readNumber isValue)

theorem readBound_boundText (isBound : IsBound column bound) :
    readBound tool name (boundText bound) = .ok bound.settled := by
  cases isBound with
  | redirect written =>
      rw [boundText, readBound, if_pos written]
      rfl
  | unbounded => rfl
  | @number value isNumber =>
      rw [boundText, readBound, Number.isWritten_text _,
        if_neg Bool.false_ne_true, readNumber_text isNumber]
      rfl

theorem boundText_ne_empty (isBound : IsBound column bound) (limits : bound ≠ .unbounded) :
    boundText bound ≠ "" := by
  cases isBound with
  | redirect written =>
      rintro (rfl : column = "")
      cases written
  | unbounded => exact absurd rfl limits
  | @number value isNumber =>
      intro empty
      have read := @readNumber_text "" "" value isNumber
      rw [show value.text = "" from empty] at read
      cases read

theorem mem_boundText (isBound : IsBound column bound) {character : Char}
    (strange : Number.isNumeralChar character = false ∧ character ∉ "Infinity".toList)
    (member : character ∈ (boundText bound).toList) : character ∈ column.toList := by
  cases isBound with
  | redirect => exact member
  | unbounded => cases member
  | number isNumber => exact absurd member (Number.not_mem_text isNumber strange)

/-- What the two limit columns hold. -/
inductive IsConstraint (type : ParameterType) (low high : String) : Option Constraint → Prop where
  | free : type = .boolean ∨ (low = "" ∧ high = "") → IsConstraint type low high none
  | options : type ≠ .boolean → low ≠ "" → Text.has '|' low = true ∨ type.isText = true →
      IsConstraint type low high (some (.options (Text.split '|' low)))
  | range {lowBound highBound : Bound} : type ≠ .boolean →
      (low = "" ∨ (Text.has '|' low = false ∧ type.isText = false)) →
      IsBound low lowBound → IsBound high highBound → (low = "" → lowBound = .unbounded) →
      IsConstraint type low high (some (.range lowBound highBound))

theorem isConstraint_of_readConstraint
    (accepted : readConstraint tool name type low high = .ok constraint) :
    IsConstraint type low high constraint := by
  unfold readConstraint at accepted
  split at accepted
  · rename_i isBoolean
    cases accepted
    exact .free (.inl isBoolean)
  · rename_i other
    split at accepted
    · rename_i listed
      cases accepted
      exact .options other listed.1 listed.2
    · rename_i unlisted
      split at accepted
      · obtain ⟨lowBound, isLow, accepted⟩ := Outcome.bind_eq_ok_iff.mp accepted
        obtain ⟨highBound, isHigh, accepted⟩ := Outcome.bind_eq_ok_iff.mp accepted
        cases accepted
        refine .range other ?_ (isBound_of_readBound isLow) (isBound_of_readBound isHigh) ?_
        · by_cases empty : low = ""
          · exact .inl empty
          · simpa [empty] using unlisted
        · rintro rfl
          exact (Except.ok.inj isLow).symm
      · rename_i unlimited
        cases accepted
        exact .free (.inr (by simpa using unlimited))

/-- A constraint is read back from its columns. -/
theorem readConstraint_limitColumns (isConstraint : IsConstraint type low high constraint) :
    readConstraint tool name type (limitColumns constraint).1 (limitColumns constraint).2 =
      .ok (constraint.bind Constraint.rewritten?) := by
  cases isConstraint with
  | free =>
      unfold readConstraint
      split <;> rfl
  | options other filled listed =>
      have joined : "|".intercalate (Text.split '|' low) = low := Text.intercalate_split '|' low
      rw [limitColumns, joined, readConstraint, if_neg other, if_pos ⟨filled, listed⟩]
      rfl
  | @range lowBound highBound other unlisted isLow isHigh empty =>
      rw [limitColumns, readConstraint, if_neg other]
      have unlistedAgain : ¬(boundText lowBound ≠ "" ∧
          (Text.has '|' (boundText lowBound) = true ∨ type.isText = true)) := by
        rintro ⟨filled, listed⟩
        rcases unlisted with rfl | ⟨noBar, textless⟩
        · exact filled (empty rfl ▸ rfl)
        · rcases listed with bar | isText
          · rw [Text.has, List.contains_iff_mem] at bar
            have inLow := mem_boundText isLow (by decide) bar
            rw [Text.has, List.contains_iff_mem.mpr inLow] at noBar
            cases noBar
          · rw [textless] at isText
            cases isText
      rw [if_neg unlistedAgain, readBound_boundText isLow, readBound_boundText isHigh]
      by_cases unlimited : lowBound = .unbounded ∧ highBound = .unbounded
      · rw [unlimited.1, unlimited.2]
        rfl
      · have limited : boundText lowBound ≠ "" ∨ boundText highBound ≠ "" := by
          rw [not_and_or] at unlimited
          exact unlimited.imp (boundText_ne_empty isLow) (boundText_ne_empty isHigh)
        rw [if_pos limited, Option.bind_some, Constraint.rewritten?, if_neg unlimited]
        rfl

/-- What a value column holds. -/
inductive IsDefault (column : String) : ParameterType → Scalar → Prop where
  | redirect {type : ParameterType} : Redirect.isWritten column = true →
      IsDefault column type (.text column)
  | bool (value : Bool) : IsDefault column .boolean (.bool value)
  | unsetNumber {type : ParameterType} : type.isNumeric = true → IsDefault column type .null
  | number {type : ParameterType} {value : Number} : type.isNumeric = true →
      value.isNaN = false → IsDefault column type (.number value)
  | unsetText {type : ParameterType} : type.isText = true → IsDefault column type .null
  | text {type : ParameterType} : type.isText = true → column ≠ "" →
      Redirect.isWritten column = false → IsDefault column type (.text column)

theorem isDefault_of_readDefault {default : Scalar} (lettered : type.IsLettered)
    (accepted : readDefault tool name type column = .ok default) :
    IsDefault column type default := by
  have ofText : type.isText = true → Redirect.isWritten column = false →
      IsDefault column type (if column = "" then .null else .text column) := by
    intro isText plain
    split
    · exact .unsetText isText
    · rename_i filled
      exact .text isText filled plain
  unfold readDefault at accepted
  split at accepted
  · rename_i written
    cases accepted
    exact .redirect written
  · rename_i plain
    rw [Bool.not_eq_true] at plain
    cases type with
    | boolean =>
        cases accepted
        exact .bool _
    | integer | real =>
        obtain ⟨found, isFound, rfl⟩ := Outcome.map_eq_ok_iff.mp accepted
        cases found with
        | none => exact .unsetNumber rfl
        | some value => exact .number rfl (isNaN_of_readNumber isFound)
    | string | filename =>
        cases accepted
        exact ofText rfl plain
    | untyped word => exact absurd rfl (lettered word)

/-- The text of a default declares the default as a store holds it. -/
structure Defaults (tool name : String) (declaration : Declaration) (text : String) : Prop where
  held : ParameterFile.valueText? declaration (Stored.ofRaw declaration.default) = some text
  writable : ParameterFile.WritableText declaration text
  read : readDefault tool name declaration.type text =
    .ok (Stored.ofRaw declaration.default).raw.settled

section Default

variable {declaration : Declaration}

theorem readDefault_number (numeric : type.isNumeric = true) {value : Option Number}
    (plain : Redirect.isWritten column = false)
    (isValue : readNumber tool name column = .ok value) :
    readDefault tool name type column = .ok (value.elim .null .number) := by
  unfold readDefault
  rw [plain, if_neg Bool.false_ne_true, isValue]
  cases type with
  | integer | real => cases value <;> rfl
  | _ => cases numeric

theorem readDefault_text (isText : type.isText = true)
    (plain : Redirect.isWritten column = false) :
    readDefault tool name type column = .ok (if column = "" then .null else .text column) := by
  unfold readDefault
  rw [plain, if_neg Bool.false_ne_true]
  cases type with
  | string | filename => rfl
  | _ => cases isText

theorem defaults_redirect (written : Redirect.isWritten column = true)
    (isDefault : declaration.default = .text column) (isLine : IsLine column)
    (bare : declaration.type.isText = false → ∀ target,
      Stored.ofRaw declaration.default = .redirect target → Columns.IsBare target.toList) :
    Defaults tool name declaration (Redirect.write (Redirect.target column)) := by
  have stored : Stored.ofRaw declaration.default = .redirect (Redirect.target column) := by
    rw [isDefault, Stored.ofRaw_of_written written]
  have characters : (Redirect.write (Redirect.target column)).toList =
      ')' :: (Redirect.target column).toList := by
    rw [Redirect.write, String.toList_append]
    rfl
  have targetIsLine : IsLine (Redirect.target column) := by
    intro member
    have inRest := Text.mem_of_mem_trim member
    rw [Text.drop, String.toList_ofList] at inRest
    exact isLine (List.mem_of_mem_drop inRest)
  constructor
  · rw [stored]
    rfl
  · refine ⟨by simpa [IsLine, characters] using targetIsLine, fun textless => ?_⟩
    simpa [Columns.IsBare, characters] using bare textless _ stored
  · unfold readDefault
    rw [stored, if_pos (Redirect.isWritten_write _)]
    rfl

/-- A default is read back from its text. -/
theorem exists_defaults (isDefault : IsDefault column declaration.type declaration.default)
    (isLine : IsLine column)
    (bare : declaration.type.isText = false → ∀ target,
      Stored.ofRaw declaration.default = .redirect target → Columns.IsBare target.toList) :
    ∃ text, Defaults tool name declaration text := by
  generalize isType : declaration.type = type at isDefault
  generalize isScalar : declaration.default = default at isDefault
  cases isDefault with
  | redirect written => exact ⟨_, defaults_redirect written isScalar isLine bare⟩
  | bool value =>
      have shows := ParameterFile.shows_bool isType value
      refine ⟨_, isScalar ▸ shows.held, shows.writable, ?_⟩
      rw [isType, isScalar]
      cases value <;> rfl
  | unsetNumber numeric =>
      have shows := ParameterFile.shows_unsetNumber (isType ▸ numeric)
      refine ⟨_, isScalar ▸ shows.held, shows.writable, ?_⟩
      rw [isType, isScalar]
      exact @readDefault_number _ _ _ _ numeric none (by decide) rfl
  | @number _ value numeric isNumber =>
      refine ⟨value.text, ?_, ParameterFile.writableText_of_isPlain value.isPlain_text, ?_⟩
      · rw [isScalar]
        exact ParameterFile.valueText?_number (isType ▸ numeric) value
      · rw [isType, isScalar]
        exact readDefault_number numeric value.isWritten_text (readNumber_text isNumber)
  | unsetText isText =>
      have shows := ParameterFile.shows_unsetText (isType ▸ isText)
      refine ⟨_, isScalar ▸ shows.held, shows.writable, ?_⟩
      rw [isType, isScalar]
      exact readDefault_text isText (by decide)
  | text isText filled plain =>
      have shows := ParameterFile.shows_text (isType ▸ isText) filled isLine plain
      have stored : Stored.ofRaw (.text column) = .literal (.text column) :=
        Stored.ofRaw_of_plain (Bool.eq_false_iff.mp plain)
      refine ⟨column, ?_, shows.writable, ?_⟩
      · rw [isScalar, stored]
        exact shows.held
      · rw [isType, isScalar, stored, readDefault_text isText plain, if_neg filled]
        rfl

end Default

end Schema

/-- A declaration as it is read again from its line. -/
def Declaration.rewritten (declaration : Declaration) : Declaration :=
  { declaration with
    default := (Stored.ofRaw declaration.default).raw.settled
    mode := modeColumn declaration
    constraint := declaration.constraint.bind Constraint.rewritten? }

theorem Declaration.same_rewritten (declaration : Declaration) :
    (Stored.ofRaw declaration.default).Same (Stored.ofRaw declaration.rewritten.default) := by
  rw [Declaration.rewritten]
  generalize declaration.default = default
  cases default with
  | text column =>
      by_cases written : Redirect.isWritten column = true
      · have isRaw : (Stored.redirect (Redirect.target column)).raw.settled =
            .text (Redirect.write (Redirect.target column)) := rfl
        rw [Stored.ofRaw_of_written written, isRaw,
          Stored.ofRaw_of_written (Redirect.isWritten_write _),
          Redirect.target_write (Redirect.trim_target column)]
        exact .redirect _
      · have isRaw : (Stored.literal (.text column)).raw.settled = .text column := rfl
        rw [Stored.ofRaw_of_plain written, isRaw, Stored.ofRaw_of_plain written]
        exact .refl _
  | number value => exact .literal (.number (Number.settled_settled value).symm)
  | _ => exact .refl _

/-- A schema as it is read again from its file. -/
def Schema.rewritten (schema : Schema) : Schema :=
  { schema with
    required := schema.required.map Declaration.rewritten
    optional := schema.optional.map Declaration.rewritten }

namespace Schema

theorem declarations_rewritten (schema : Schema) :
    schema.rewritten.declarations = schema.declarations.map Declaration.rewritten :=
  List.map_append.symm

theorem names_rewritten (schema : Schema) : schema.rewritten.names = schema.names := by
  rw [names, declarations_rewritten, List.map_map]
  rfl

variable {tool text : String} {columns : List String} {declaration : Declaration}

theorem isHidden_rewritten (name : String) (constraint : Option Constraint) :
    isHidden name (constraint.bind Constraint.rewritten?) = isHidden name constraint := by
  cases constraint with
  | none => rfl
  | some constraint =>
      cases constraint with
      | options choices => rfl
      | range low high =>
          rw [Option.bind_some, Constraint.rewritten?]
          split <;> rfl

/-- The columns of a line declare the parameter again. -/
theorem declares_columnsBehind (lettered : declaration.type.IsLettered)
    (declares : Declares tool columns declaration)
    (defaults : Defaults tool declaration.name declaration text) :
    Declares tool
      (declaration.name :: (ParameterFile.columnsBehind declaration text).map Prod.snd)
      declaration.rewritten where
  enough := by simp [ParameterFile.columnsBehind]
  name := rfl
  type := by
    change ParameterType.ofColumn? declaration.type.letter = some declaration.type
    cases type : declaration.type with
    | untyped word => exact absurd type (lettered word)
    | _ => rfl
  mode := rfl
  required := by
    change declaration.required = decide (modeColumn declaration = "a")
    rw [modeColumn, declares.required]
    by_cases unset : declaration.mode = ""
    · simp [unset]
    · simp [unset]
  default := defaults.read
  constraint := readConstraint_limitColumns (isConstraint_of_readConstraint declares.constraint)
  help := by
    change declaration.help = Text.trim declaration.help
    rw [declares.help, Text.trim_trim]
  shown := (isHidden_rewritten _ _).trans declares.shown

end Schema

end ToolParams
