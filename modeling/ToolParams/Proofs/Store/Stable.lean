import Mathlib.Data.List.Nodup
import ToolParams.Proofs.Number.Reading
import ToolParams.Proofs.OrderedMap
import ToolParams.Proofs.Store.Assignment

/-!
# Checked values stay as they are

What a check lets through has the form that its type gives to values, with options
completed and the names behind redirects trimmed.  Checked again, it is either refused or
left as it is.
-/

namespace ToolParams

namespace ParameterType

/-- The type column held a letter. -/
def IsLettered (type : ParameterType) : Prop :=
  ∀ word, type ≠ .untyped word

theorem letter_ne_empty_iff (type : ParameterType) : type.letter ≠ "" ↔ type.IsLettered := by
  cases type with
  | untyped word => simp [IsLettered, letter]
  | _ => simp [IsLettered, letter]

instance (type : ParameterType) : Decidable type.IsLettered :=
  decidable_of_iff (type.letter ≠ "") (letter_ne_empty_iff type)

/-- The values of a type.  Digits without end make an integer parameter infinite. -/
inductive Admits : ParameterType → Scalar → Prop where
  | bool (value : Bool) : Admits .boolean (.bool value)
  | unsetNumber {type : ParameterType} : type.isNumeric = true → Admits type .null
  | integer {value : Number} :
      (value.isFinite = true → value.isInteger = true) → Admits .integer (.number value)
  | real {value : Number} : value.isFinite = true → Admits .real (.number value)
  | unsetText {type : ParameterType} : type.isText = true → Admits type .null
  | text {type : ParameterType} {value : String} :
      type.isText = true → value ≠ "" → Admits type (.text value)

namespace Admits

variable {type : ParameterType} {value : Scalar}

theorem ne_absent (admits : type.Admits value) : value ≠ .absent := by
  rintro rfl
  cases admits

theorem of_text {text : String} (admits : type.Admits (.text text)) :
    type.isText = true ∧ text ≠ "" := by
  cases admits with
  | text isText filled => exact ⟨isText, filled⟩

theorem isText_of_other (admits : type.Admits value) (isSet : value ≠ .null)
    (textless : ∀ text, value ≠ .text text) : type.isText = false := by
  cases admits with
  | bool => rfl
  | unsetNumber => exact absurd rfl isSet
  | integer => rfl
  | real => rfl
  | unsetText => exact absurd rfl isSet
  | text => exact absurd rfl (textless _)

theorem number {number : Number} (numeric : type.isNumeric = true)
    (finite : number.isFinite = true) (whole : type = .integer → number.isInteger = true) :
    type.Admits (.number number) := by
  cases type with
  | integer => exact .integer fun _ => whole rfl
  | real => exact .real finite
  | _ => cases numeric

end Admits

end ParameterType

namespace Coerce

/-- The type of whole numbers, or of all numbers. -/
def numberType (integer : Bool) : ParameterType :=
  if integer then .integer else .real

theorem ofNat_zero : Number.ofNat 0 = Number.zero false := by
  have none : Number.roundedCode 0 1 = 0 := by
    simp [Number.roundedCode]
  unfold Number.ofNat Number.ofRatio
  rw [none]
  exact Number.ofCode_code false .zero

theorem admits_number {number : Number} {integer : Bool}
    (accepted : (if integer then number.isInteger else number.isFinite) = true) :
    (numberType integer).Admits (.number number) := by
  cases integer with
  | true => exact .integer fun _ => accepted
  | false => exact .real accepted

theorem admits_null (integer : Bool) : (numberType integer).Admits .null := by
  cases integer with
  | true => exact .unsetNumber rfl
  | false => exact .unsetNumber rfl

theorem admits_textToNumber? {text : String} {value : Scalar} {integer : Bool}
    (coerced : textToNumber? integer text = some value) :
    (numberType integer).Admits value := by
  unfold textToNumber? at coerced
  simp only at coerced
  split at coerced
  · cases coerced
    exact admits_null integer
  · split at coerced
    · cases coerced
      rw [ofNat_zero]
      apply admits_number
      cases integer with
      | true => exact Number.isInteger_zero false
      | false => rfl
    · cases integer with
      | true =>
          rw [if_pos rfl] at coerced
          obtain ⟨number, reads, rfl⟩ := Option.map_eq_some_iff.mp coerced
          exact .integer (Number.isInteger_of_integer? reads)
      | false =>
          rw [if_neg Bool.false_ne_true] at coerced
          split at coerced
          · rename_i finite
            cases coerced
            exact .real finite
          · cases coerced

theorem admits_toNumber? {input : Input} {value : Scalar} {integer : Bool}
    (coerced : toNumber? integer input = some value) :
    (numberType integer).Admits value := by
  unfold toNumber? at coerced
  split at coerced
  · cases coerced
    exact admits_null integer
  · rename_i number
    by_cases accepted : (if integer then number.isInteger else number.isFinite) = true
    · rw [if_pos accepted] at coerced
      cases coerced
      exact admits_number accepted
    · rw [if_neg accepted] at coerced
      cases coerced
  · exact admits_textToNumber? coerced
  · cases coerced

theorem admits_toText (type : ParameterType) (isText : type.isText = true) (input : Input) :
    type.Admits (toText input) := by
  unfold toText
  split
  · exact .unsetText isText
  · split
    · exact .unsetText isText
    · rename_i filled
      exact .text isText filled

end Coerce

/-- The parameter that a limit redirects to. -/
def Bound.target? : Bound → Option String
  | .text written =>
      if Redirect.isWritten written then some (Redirect.target written) else none
  | _ => none

/-- The parameters that the limits of a parameter redirect to. -/
def Declaration.limitTargets (declaration : Declaration) : List String :=
  match declaration.constraint with
  | some (.range low high) => [low, high].filterMap Bound.target?
  | _ => []

namespace Constraint

variable {tool : String} {declaration : Declaration} {resolver : Resolver}

/-- A range accepts a number exactly when neither limit refuses it. -/
theorem checkRange_eq_ok_iff {low high : Bound} {value : Number} :
    checkRange tool declaration resolver low high value = .ok () ↔
      ∃ least most,
        limit tool declaration resolver low = .ok least ∧
          limit tool declaration resolver high = .ok most ∧
          least.any (fun bound => value.lt bound) = false ∧
          most.any (fun bound => bound.lt value) = false := by
  unfold checkRange
  simp only
  cases limit tool declaration resolver low with
  | error fault => simp
  | ok least =>
      cases limit tool declaration resolver high with
      | error fault =>
          cases least with
          | none => simp
          | some least => cases below : value.lt least <;> simp [below]
      | ok most =>
          cases least with
          | none =>
              cases most with
              | none => simp
              | some most => cases above : most.lt value <;> simp [above]
          | some least =>
              cases below : value.lt least with
              | true => simp [below]
              | false =>
                  cases most with
                  | none => simp [below]
                  | some most => cases above : most.lt value <;> simp [below, above]

theorem limit_of_unlinked {bound : Bound} (unlinked : bound.target? = none) :
    ∃ own, ∀ tool resolver, limit tool declaration resolver bound = .ok own := by
  cases bound with
  | unbounded => exact ⟨none, fun _ _ => rfl⟩
  | number value => exact ⟨some value, fun _ _ => rfl⟩
  | text written =>
      have plain : ¬Redirect.isWritten written = true := by
        intro isRedirect
        simp [Bound.target?, isRedirect] at unlinked
      unfold limit
      simp only [plain, Bool.false_eq_true, if_false]
      split
      · exact ⟨none, fun _ _ => rfl⟩
      · exact ⟨some (Number.read written), fun _ _ => rfl⟩

end Constraint

section Values

variable {tool : String} {declaration : Declaration} {input : Input} {value : Scalar}

/-- What an input is brought to is a value of the type. -/
theorem admits_of_coerce (lettered : declaration.type.IsLettered)
    (coerced : coerce tool declaration input = .ok value) : declaration.type.Admits value := by
  unfold coerce at coerced
  cases type : declaration.type with
  | boolean =>
      simp only [type] at coerced
      split at coerced
      · cases coerced
        exact .bool _
      · cases coerced
  | integer =>
      simp only [type] at coerced
      split at coerced
      · rename_i taken
        cases coerced
        exact Coerce.admits_toNumber? taken
      · cases coerced
  | real =>
      simp only [type] at coerced
      split at coerced
      · rename_i taken
        cases coerced
        exact Coerce.admits_toNumber? taken
      · cases coerced
  | string =>
      simp only [type] at coerced
      cases coerced
      exact Coerce.admits_toText .string rfl input
  | filename =>
      simp only [type] at coerced
      cases coerced
      exact Coerce.admits_toText .filename rfl input
  | untyped word => exact absurd type (lettered word)

/-- A value that the check of its parameter leaves as it is. -/
structure Scalar.Stable (declaration : Declaration) (value : Scalar) : Prop where
  admits : declaration.type.Admits value
  among : ∀ choices text, declaration.constraint = some (.options choices) →
    value = .text text → text ∈ choices
  /-- limits that are no redirects accept the value at any time -/
  meets : declaration.limitTargets = [] → ∀ tool resolver,
    Constraint.check tool declaration resolver value = .ok value

theorem ne_empty_of_startsWith {text beginning : String} (filled : beginning ≠ "")
    (starts : Text.startsWith text beginning = true) : text ≠ "" := by
  rintro rfl
  unfold Text.startsWith at starts
  cases begins : beginning.toList with
  | nil => exact filled (String.toList_eq_nil_iff.mp begins)
  | cons head rest =>
      rw [begins] at starts
      cases starts

theorem matchOption_of_mem {choices : List String} {option : String}
    (isText : declaration.type.isText = true) (member : option ∈ choices) :
    Constraint.matchOption declaration choices (.text option) = .ok (.text option) := by
  have shown : (Scalar.text option).shown = option := rfl
  simp only [Constraint.matchOption, isText, if_true]
  rw [shown, if_pos member]

theorem stable_of_option {choices : List String} (admits : declaration.type.Admits value)
    (constrained : declaration.constraint = some (.options choices))
    (among : ∀ text, value = .text text → text ∈ choices)
    (again : Constraint.matchOption declaration choices value = .ok value) :
    value.Stable declaration := by
  refine ⟨admits, ?_, ?_⟩
  · intro others text isOptions isOption
    rw [constrained] at isOptions
    cases isOptions
    exact among text isOption
  · intro _ tool resolver
    unfold Constraint.check
    rw [constrained]
    exact again

theorem eq_of_matchOption {choices : List String} {final : Scalar}
    (admits : declaration.type.Admits value) (isSet : value ≠ .null)
    (textless : ∀ text, value ≠ .text text)
    (matched : Constraint.matchOption declaration choices value = .ok final) : final = value := by
  have other : declaration.type.isText = false := admits.isText_of_other isSet textless
  unfold Constraint.matchOption at matched
  split at matched
  · exact absurd rfl isSet
  · simp only [other, Bool.false_eq_true, if_false] at matched
    split at matched
    · cases matched
      rfl
    · cases matched

/-- What the options make of a value is a stable value. -/
theorem stable_of_matchOption {choices : List String} {final : Scalar}
    (admits : declaration.type.Admits value)
    (constrained : declaration.constraint = some (.options choices))
    (matched : Constraint.matchOption declaration choices value = .ok final) :
    final.Stable declaration ∧ (value.Stable declaration → final = value) := by
  have plain (textless : ∀ text, value ≠ .text text) (same : final = value) :
      final.Stable declaration ∧ (value.Stable declaration → final = value) := by
    subst same
    exact ⟨stable_of_option admits constrained (fun text isText => absurd isText (textless text))
      matched, fun _ => rfl⟩
  cases value with
  | null =>
      simp only [Constraint.matchOption] at matched
      split at matched
      · exact plain (fun _ => nofun) (Except.ok.inj matched).symm
      · cases matched
  | text text =>
      obtain ⟨isText, filled⟩ := admits.of_text
      have among (option : String) (member : option ∈ choices) :
          ∀ other, Scalar.text option = .text other → other ∈ choices := by
        rintro other ⟨⟩
        exact member
      by_cases member : text ∈ choices
      · have again := matchOption_of_mem isText member
        rw [again] at matched
        cases matched
        exact ⟨stable_of_option admits constrained (among text member) again, fun _ => rfl⟩
      · have shown : (Scalar.text text).shown = text := rfl
        simp only [Constraint.matchOption, isText, if_true] at matched
        rw [shown, if_neg member] at matched
        split at matched
        · cases matched
        · rename_i only found
          cases matched
          have kept : only ∈ choices.filter (Text.startsWith · text) := by
            rw [found]
            exact List.mem_singleton_self only
          obtain ⟨isOption, starts⟩ := List.mem_filter.mp kept
          refine ⟨stable_of_option (.text isText (ne_empty_of_startsWith filled starts)) constrained
            (among only isOption) (matchOption_of_mem isText isOption), ?_⟩
          exact fun stable => absurd (stable.among choices text constrained rfl) member
        · cases matched
  | absent => exact absurd rfl admits.ne_absent
  | bool truth => exact plain (fun _ => nofun) (eq_of_matchOption admits nofun nofun matched)
  | number number => exact plain (fun _ => nofun) (eq_of_matchOption admits nofun nofun matched)

theorem eq_of_range {low high : Bound} {resolver : Resolver} {final : Scalar}
    (constrained : declaration.constraint = some (.range low high))
    (checked : Constraint.check tool declaration resolver value = .ok final) : final = value := by
  unfold Constraint.check at checked
  rw [constrained] at checked
  cases value with
  | number number =>
      obtain ⟨_, _, stores⟩ := Outcome.bind_eq_ok_iff.mp checked
      cases stores
      rfl
  | _ =>
      cases checked
      rfl

/-- A range that accepts a value accepts it at any time, unless its limits are redirects. -/
theorem meets_of_range {low high : Bound} {resolver : Resolver}
    (constrained : declaration.constraint = some (.range low high))
    (checked : Constraint.check tool declaration resolver value = .ok value)
    (unlinked : declaration.limitTargets = []) (otherTool : String) (other : Resolver) :
    Constraint.check otherTool declaration other value = .ok value := by
  have targets : ∀ bound ∈ [low, high], bound.target? = none := by
    rw [Declaration.limitTargets, constrained] at unlinked
    exact List.filterMap_eq_nil_iff.mp unlinked
  obtain ⟨least, isLeast⟩ :=
    @Constraint.limit_of_unlinked declaration low (targets low List.mem_cons_self)
  obtain ⟨most, isMost⟩ := @Constraint.limit_of_unlinked declaration high
    (targets high (List.mem_cons_of_mem _ List.mem_cons_self))
  unfold Constraint.check at checked ⊢
  rw [constrained] at checked ⊢
  cases value with
  | number number =>
      obtain ⟨_, inRange, _⟩ := Outcome.bind_eq_ok_iff.mp checked
      refine Outcome.bind_eq_ok_iff.mpr ⟨(), ?_, rfl⟩
      rw [Constraint.checkRange_eq_ok_iff] at inRange ⊢
      simp only [isLeast, isMost] at inRange ⊢
      exact inRange
  | _ => rfl

/-- What a constraint makes of a value is a stable value. -/
theorem stable_of_constraint {resolver : Resolver} {final : Scalar}
    (admits : declaration.type.Admits value)
    (checked : Constraint.check tool declaration resolver value = .ok final) :
    final.Stable declaration ∧ (value.Stable declaration → final = value) := by
  have given := checked
  unfold Constraint.check at checked
  cases constrained : declaration.constraint with
  | none =>
      rw [constrained] at checked
      cases checked
      refine ⟨⟨admits, ?_, ?_⟩, fun _ => rfl⟩
      · intro choices text isOptions
        rw [constrained] at isOptions
        cases isOptions
      · intro _ tool resolver
        unfold Constraint.check
        rw [constrained]
  | some constraint =>
      cases constraint with
      | options choices =>
          rw [constrained] at checked
          exact stable_of_matchOption admits constrained checked
      | range low high =>
          obtain rfl := eq_of_range constrained given
          refine ⟨⟨admits, ?_, meets_of_range constrained given⟩, fun _ => rfl⟩
          intro choices text isOptions
          rw [constrained] at isOptions
          cases isOptions

end Values

namespace Redirect

theorem trim_target (text : String) : Text.trim (target text) = target text := by
  unfold target
  rw [Text.trim_trim]

theorem ofInput?_eq_some {input : Input} {name : String} (written : ofInput? input = some name) :
    ∃ text, input = .ofText text ∧ isWritten text = true ∧ name = target text := by
  unfold ofInput? at written
  split at written
  · rename_i text
    split at written
    · rename_i isRedirect
      exact ⟨text, rfl, isRedirect, (Option.some.inj written).symm⟩
    · cases written
  · cases written

end Redirect

/-- What a store holds and its check leaves as it is. -/
def Stored.Stable (declaration : Declaration) : Stored → Prop
  | .literal value => value.Stable declaration
  | .redirect target => Text.trim target = target

namespace Schema

variable {schema : Schema} {declaration : Declaration}

theorem eq_of_name (distinct : schema.names.Nodup) {other : Declaration}
    (declared : declaration ∈ schema.declarations) (otherDeclared : other ∈ schema.declarations)
    (same : declaration.name = other.name) : declaration = other :=
  List.inj_on_of_nodup_map distinct declared otherDeclared same

theorem find?_of_mem (distinct : schema.names.Nodup)
    (declared : declaration ∈ schema.declarations) :
    schema.find? declaration.name = some declaration := by
  cases found : schema.find? declaration.name with
  | some other =>
      obtain ⟨otherDeclared, same⟩ := Store.mem_names_of_find? found
      rw [eq_of_name distinct otherDeclared declared same]
  | none =>
      unfold find? at found
      rw [List.findRev?_eq_find?_reverse, List.find?_eq_none] at found
      exact absurd (decide_eq_true rfl) (found declaration (List.mem_reverse.mpr declared))

end Schema

namespace Store

variable {schema : Schema} {store final : Store} {declaration : Declaration} {input : Input}
  {stored : Stored}

theorem validate_eq (distinct : store.schema.names.Nodup)
    (declared : declaration ∈ store.declarations) (input : Input) :
    store.validate declaration.name input =
      (store.check declaration input).mapError .value :=
  validate_of_find? (Schema.find?_of_mem distinct declared) input

theorem set_eq (distinct : store.schema.names.Nodup)
    (declared : declaration ∈ store.declarations) (input : Input) :
    store.set declaration.name input =
      ((store.check declaration input).mapError .value).map fun stored =>
        (store.put declaration.name stored, stored.raw) :=
  set_of_find? (Schema.find?_of_mem distinct declared) input

theorem stable_of_check (lettered : declaration.type.IsLettered)
    (checked : store.check declaration input = .ok stored) : stored.Stable declaration := by
  unfold check at checked
  simp only at checked
  cases written : Redirect.ofInput? input with
  | some target =>
      rw [written] at checked
      obtain ⟨value, _, checked⟩ := Outcome.bind_eq_ok_iff.mp checked
      obtain ⟨concrete, _, checked⟩ := Outcome.bind_eq_ok_iff.mp checked
      obtain ⟨_, _, stores⟩ := Outcome.bind_eq_ok_iff.mp checked
      cases stores
      obtain ⟨text, _, _, rfl⟩ := Redirect.ofInput?_eq_some written
      exact Redirect.trim_target text
  | none =>
      rw [written] at checked
      obtain ⟨concrete, coerced, checked⟩ := Outcome.bind_eq_ok_iff.mp checked
      obtain ⟨value, constrained, stores⟩ := Outcome.bind_eq_ok_iff.mp checked
      cases stores
      exact (stable_of_constraint (admits_of_coerce lettered coerced) constrained).1

/-- Every entry of the store is one that its check leaves as it is. -/
def Stable (store : Store) : Prop :=
  ∀ declaration ∈ store.declarations, (store.entry declaration.name).Stable declaration

/-- Assignments keep the entries of a store stable. -/
theorem Assigned.stable (assigned : store.Assigned final)
    (distinct : store.schema.names.Nodup)
    (lettered : ∀ declaration ∈ store.declarations, declaration.type.IsLettered)
    (stable : store.Stable) : final.Stable := by
  induction assigned with
  | refl => exact stable
  | @set middle next requested input raw before step induction =>
      have sameSchema := before.schema_eq
      obtain ⟨name, declaration, stored, _, found, checked, rfl, _⟩ := set_eq_ok step
      obtain ⟨declared, isNamed⟩ := mem_names_of_find? found
      intro other otherDeclared
      change other ∈ middle.schema.declarations at otherDeclared
      rw [entry_put]
      split
      · rename_i same
        rw [sameSchema] at declared otherDeclared
        have isOther := Schema.eq_of_name distinct declared otherDeclared (isNamed.trans same)
        exact isOther ▸ stable_of_check (lettered declaration declared) checked
      · exact induction other otherDeclared

/-- The checks of a fresh store leave its defaults as they are. -/
def KeepsDefaults (schema : Schema) : Prop :=
  ∀ declaration ∈ schema.declarations,
    (fresh schema).validate declaration.name (.scalar declaration.default) =
      .ok (Stored.ofRaw declaration.default)

theorem entry_fresh (distinct : schema.names.Nodup) (declared : declaration ∈ schema.declarations) :
    (fresh schema).entry declaration.name = Stored.ofRaw declaration.default := by
  have names : (schema.declarations.map fun declaration =>
      (declaration.name, Stored.ofRaw declaration.default)).map Prod.fst = schema.names := by
    rw [List.map_map]
    rfl
  have held := OrderedMap.get?_insertAll_of_mem .empty (names ▸ distinct)
    (List.mem_map_of_mem declared)
  unfold entry fresh defaults OrderedMap.ofList
  rw [held, Option.getD_some]

theorem check_default (distinct : schema.names.Nodup) (kept : KeepsDefaults schema)
    (declared : declaration ∈ schema.declarations) :
    (fresh schema).check declaration (.scalar declaration.default) =
      .ok ((fresh schema).entry declaration.name) := by
  have validated := kept declaration declared
  rw [validate_eq distinct declared] at validated
  rw [entry_fresh distinct declared]
  exact Outcome.mapError_eq_ok_iff.mp validated

theorem stable_fresh (distinct : schema.names.Nodup)
    (lettered : ∀ declaration ∈ schema.declarations, declaration.type.IsLettered)
    (kept : KeepsDefaults schema) : (fresh schema).Stable :=
  fun declaration declared =>
    stable_of_check (lettered declaration declared) (check_default distinct kept declared)

theorem resolved_fresh (distinct : schema.names.Nodup) (kept : KeepsDefaults schema) :
    (fresh schema).Resolved := by
  intro name named
  obtain ⟨declaration, declared, rfl⟩ := List.mem_map.mp named
  have checked := check_default distinct kept declared
  unfold HasValue follow
  rcases check_eq_ok checked with ⟨value, held⟩ | ⟨target, value, _, held, followed⟩
  · exact ⟨value, by rw [held]⟩
  · exact ⟨value, by rw [held]; exact followed⟩

theorem Resolved.declared (resolved : store.Resolved) {name target : String}
    (named : name ∈ store.schema.names) (redirect : store.entry name = .redirect target) :
    target ∈ store.schema.names := by
  obtain ⟨value, followed⟩ := resolved name named
  unfold follow at followed
  rw [redirect] at followed
  exact (followTarget_eq_ok_iff.mp followed).1

end Store

end ToolParams
