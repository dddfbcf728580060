import ToolParams.Proofs.Store.RawForms

/-!
# Checked inputs are in normal form

What the check of a parameter lets through is a value of its type, an option where there are
options, or a redirect to a declared parameter.  The raw form of it says all of that: checked
again, it comes to the same entry.
-/

namespace ToolParams

/-- The normal forms of a parameter that does not hold whole numbers. -/
inductive Stored.IsNormal (schema : Schema) (declaration : Declaration) : Stored → Prop where
  | redirect {target : String} :
      target ∈ schema.names → IsNormal schema declaration (.redirect target)
  | bool (truth : Bool) :
      declaration.type = .boolean → IsNormal schema declaration (.literal (.bool truth))
  | unset : declaration.type ≠ .boolean → IsNormal schema declaration (.literal .null)
  | number {number : Number} :
      declaration.type = .real → number.isFinite = true →
      IsNormal schema declaration (.literal (.number number))
  | text {text : String} :
      declaration.type.isText = true → text ≠ "" →
      (∀ choices, declaration.constraint = some (.options choices) → text ∈ choices) →
      IsNormal schema declaration (.literal (.text text))

section Values

variable {schema : Schema} {declaration : Declaration} {value : Scalar}

theorem Scalar.Stable.isNormal (stable : value.Stable declaration)
    (decimal : declaration.type ≠ .integer) :
    (Stored.literal value).IsNormal schema declaration := by
  have admits := stable.admits
  generalize isType : declaration.type = type at admits
  cases admits with
  | bool truth => exact .bool truth isType
  | unsetNumber numeric =>
      refine .unset fun isBoolean => ?_
      rw [← isType, isBoolean] at numeric
      cases numeric
  | integer => exact absurd isType decimal
  | real finite => exact .number isType finite
  | unsetText isText =>
      refine .unset fun isBoolean => ?_
      rw [← isType, isBoolean] at isText
      cases isText
  | text isText filled =>
      exact .text (isType ▸ isText) filled fun choices constrained =>
        stable.among choices _ constrained rfl

theorem Stored.IsNormal.coerce (normal : (Stored.literal value).IsNormal schema declaration)
    (stable : value.Stable declaration) (tool : String) :
    coerce tool declaration (.scalar value) = .ok value := by
  refine ParameterFile.coerce_of_admits stable.admits ?_ tool
  rintro number rfl
  cases normal with
  | number _ finite => exact finite

/-- A constraint lets through what it made of a value. -/
theorem Constraint.check_checked {tool : String} {resolver : Resolver} {final : Scalar}
    (admits : declaration.type.Admits value)
    (checked : check tool declaration resolver value = .ok final) :
    check tool declaration resolver final = .ok final := by
  obtain ⟨stable, _⟩ := stable_of_constraint admits checked
  cases constrained : declaration.constraint with
  | none => exact stable.meets (by rw [Declaration.limitTargets, constrained]) tool resolver
  | some constraint =>
      cases constraint with
      | options choices =>
          exact stable.meets (by rw [Declaration.limitTargets, constrained]) tool resolver
      | range low high =>
          -- The limits may be redirects, but the store they are looked up in is the same.
          obtain rfl := eq_of_range constrained checked
          exact checked

end Values

namespace Store

variable {store : Store} {declaration : Declaration} {value : Scalar} {stored : Stored}

/-- The check of a scalar gives a normal form, which the check of its raw form gives again. -/
theorem check_raw (lettered : declaration.type.IsLettered)
    (decimal : declaration.type ≠ .integer)
    (checked : store.check declaration (.scalar value) = .ok stored) :
    stored.IsNormal store.schema declaration ∧
      store.check declaration (.scalar stored.raw) = .ok stored := by
  have faithful : stored.IsFaithful := by
    rw [isFaithful_of_check checked]
    rintro ⟨_, _, ⟨⟩, _⟩
  have entered := checked
  unfold check at entered ⊢
  cases written : Redirect.ofInput? (.scalar value) with
  | some target =>
      simp only [written] at entered
      obtain ⟨led, followed, entered⟩ := Outcome.bind_eq_ok_iff.mp entered
      obtain ⟨concrete, coerced, entered⟩ := Outcome.bind_eq_ok_iff.mp entered
      obtain ⟨final, accepted, stores⟩ := Outcome.bind_eq_ok_iff.mp entered
      cases stores
      obtain ⟨declared, _⟩ := followTarget_eq_ok_iff.mp followed
      refine ⟨.redirect declared, ?_⟩
      simp only [faithful.ofInput?_redirect]
      refine Outcome.bind_eq_ok_iff.mpr ⟨led, followed, ?_⟩
      refine Outcome.bind_eq_ok_iff.mpr ⟨concrete, coerced, ?_⟩
      exact Outcome.bind_eq_ok_iff.mpr ⟨final, accepted, rfl⟩
  | none =>
      simp only [written] at entered
      obtain ⟨concrete, coerced, entered⟩ := Outcome.bind_eq_ok_iff.mp entered
      obtain ⟨final, accepted, stores⟩ := Outcome.bind_eq_ok_iff.mp entered
      cases stores
      have admits := admits_of_coerce lettered coerced
      obtain ⟨stable, _⟩ := stable_of_constraint admits accepted
      have normal : (Stored.literal final).IsNormal store.schema declaration :=
        stable.isNormal decimal
      refine ⟨normal, ?_⟩
      simp only [Stored.raw, faithful.ofInput?_literal]
      refine Outcome.bind_eq_ok_iff.mpr ⟨final, normal.coerce stable store.tool, ?_⟩
      exact Outcome.bind_eq_ok_iff.mpr ⟨final, Constraint.check_checked admits accepted, rfl⟩

/-- What is checked for a parameter of truth values, real numbers or texts comes to a normal
form of the parameter.  A second check, of the raw form of it, leaves it as it is. -/
theorem validate_raw (store : Store) {requested : String} {declaration : Declaration}
    {value : Scalar} {stored : Stored}
    (declared : store.declaration requested = .ok declaration)
    (typed : declaration.type ∈ [ParameterType.boolean, .real, .string, .filename])
    (validated : store.validate requested (.scalar value) = .ok stored) :
    stored.IsNormal store.schema declaration ∧
      store.validate requested (.scalar stored.raw) = .ok stored := by
  rw [validate_of_declaration declared, Outcome.mapError_eq_ok_iff] at validated ⊢
  have lettered : declaration.type.IsLettered := by
    rintro word isUntyped
    simp [isUntyped] at typed
  have decimal : declaration.type ≠ .integer := by
    rintro isInteger
    simp [isInteger] at typed
  exact check_raw lettered decimal validated

def color : Declaration :=
  { name := "color", type := .string, help := "", default := .text "red", required := false,
    mode := "h", constraint := some (.options ["red", "green", "blue"]) }

/-- A color, and a shade that is any text. -/
def painted : Schema :=
  { name := "paint", kind := .parameterFile, executable := none, required := []
    optional := [color,
      { name := "shade", type := .string, help := "", default := .text "gr", required := false,
        mode := "h", constraint := none }] }

/-- A shortened option is completed, and blanks behind the parenthesis are dropped. -/
theorem validate_raw_painted :
    (fresh painted).validate "col" (.ofText "gr") = .ok (.literal (.text "green")) ∧
      (fresh painted).validate "col" (.ofText ") shade ") = .ok (.redirect "shade") ∧
      ((Stored.literal (.text "green")).IsNormal painted color ∧
        (fresh painted).validate "col" (.ofText "green") = .ok (.literal (.text "green"))) ∧
      (Stored.redirect "shade").IsNormal painted color ∧
        (fresh painted).validate "col" (.ofText ")shade") = .ok (.redirect "shade") := by
  have declared : (fresh painted).declaration "col" = .ok color := by decide +kernel
  have completed : (fresh painted).validate "col" (.ofText "gr") =
      .ok (.literal (.text "green")) := by
    decide +kernel
  have redirected : (fresh painted).validate "col" (.ofText ") shade ") =
      .ok (.redirect "shade") := by
    decide +kernel
  exact ⟨completed, redirected, validate_raw (fresh painted) declared (by decide) completed,
    validate_raw (fresh painted) declared (by decide) redirected⟩

end Store

end ToolParams
