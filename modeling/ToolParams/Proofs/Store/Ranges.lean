import ToolParams.Proofs.Store.Lookup

/-!
# Ranges with limits of their own

A limit comes to a number or to no limit: by itself, or by the value that its redirect leads
to without passing the parameter that is checked.  A number is accepted exactly where both
limits come to something and neither refuses it.  The lower limit is looked at first, so it
decides alone whether a number below it is refused, whatever the upper limit comes to.
-/

namespace ToolParams

namespace Store

/-- How the check of a parameter finds the values that redirects lead to. -/
def resolverOf (store : Store) (declaration : Declaration) : Resolver := fun target =>
  store.followTarget declaration.name target [declaration.name]

/-- A redirect to a target leads to a value along declared names other than the one that is
avoided. -/
def LeadsTo (store : Store) (avoided target : String) (value : Scalar) : Prop :=
  target ∈ store.schema.names ∧ ∃ passed, Chain store target passed value ∧ avoided ∉ passed

theorem leadsTo_iff {store : Store} {holder avoided target : String} {value : Scalar} :
    store.LeadsTo avoided target value ↔
      store.followTarget holder target [avoided] = .ok value := by
  rw [followTarget_eq_ok_iff]
  constructor
  · rintro ⟨declared, passed, chain, avoids⟩
    refine ⟨declared, passed, chain, ?_⟩
    intro other member same
    exact avoids (List.mem_singleton.mp same ▸ member)
  · rintro ⟨declared, passed, chain, avoids⟩
    exact ⟨declared, passed, chain, fun member => avoids _ member (List.mem_singleton_self _)⟩

/-- A redirect that leads to no value is refused as leading nowhere or as a cycle. -/
theorem faultClass_of_followTarget {store : Store} {holder target : String}
    {chain : List String} {fault : ValueFault}
    (refused : store.followTarget holder target chain = .error fault) :
    fault.faultClass = .redirect ∨ fault.faultClass = .cycle := by
  induction holder, target, chain using followTarget.induct store with
  | case1 holder target chain seen =>
      rw [followTarget, dif_pos seen] at refused
      cases refused
      exact .inr rfl
  | case2 holder target chain fresh declared value literal =>
      rw [followTarget, dif_neg fresh, dif_pos declared, literal] at refused
      cases refused
  | case3 holder target chain fresh declared next redirect induction =>
      rw [followTarget, dif_neg fresh, dif_pos declared, redirect] at refused
      exact induction refused
  | case4 holder target chain fresh undeclared =>
      rw [followTarget, dif_neg fresh, dif_neg undeclared] at refused
      cases refused
      exact .inl rfl

end Store

/-- The limit that the value at the end of a redirect stands for. -/
inductive Scalar.IsLimit : Scalar → Option Number → Prop where
  | unset : IsLimit .null none
  | number (value : Number) : IsLimit (.number value) (some value)
  | text {text : String} :
      Text.trim text ≠ "" →
      (Number.read text).isFinite = true →
      IsLimit (.text text) (some (Number.read text))

namespace Bound

/-- A limit as schemas have it: no limit, a number, or a redirect. -/
def IsProper (bound : Bound) : Prop :=
  ∀ written, bound = .text written → Redirect.isWritten written = true

/-- What a limit of a parameter comes to in a store. -/
inductive ComesTo (store : Store) (name : String) : Bound → Option Number → Prop where
  | unbounded : ComesTo store name .unbounded none
  | number (value : Number) : ComesTo store name (.number value) (some value)
  | redirect {written : String} {value : Scalar} {limit : Option Number} :
      Redirect.isWritten written = true →
      store.LeadsTo name (Redirect.target written) value →
      value.IsLimit limit →
      ComesTo store name (.text written) limit

end Bound

/-- A number is neither below the lower limit nor above the upper one. -/
def Number.IsBetween (number : Number) (least most : Option Number) : Prop :=
  least.any (fun bound => number.lt bound) = false ∧
    most.any (fun bound => bound.lt number) = false

/-- What the check of a range comes to. -/
inductive Constraint.Judges (tool name : String) (number : Number) :
    Except ValueFault (Option Number) → Except ValueFault (Option Number) →
      Except ValueFault Unit → Prop where
  | noLeast {fault : ValueFault} {most : Except ValueFault (Option Number)} :
      Judges tool name number (.error fault) most (.error fault)
  | below {least : Number} {most : Except ValueFault (Option Number)} :
      number.lt least = true →
      Judges tool name number (.ok (some least)) most (.error (.below tool name least number))
  | noMost {least : Option Number} {fault : ValueFault} :
      least.any (fun bound => number.lt bound) = false →
      Judges tool name number (.ok least) (.error fault) (.error fault)
  | above {least : Option Number} {most : Number} :
      least.any (fun bound => number.lt bound) = false →
      most.lt number = true →
      Judges tool name number (.ok least) (.ok (some most))
        (.error (.above tool name most number))
  | between {least most : Option Number} :
      number.IsBetween least most →
      Judges tool name number (.ok least) (.ok most) (.ok ())

namespace Constraint

variable {store : Store} {tool : String} {declaration : Declaration} {bound low high : Bound}
  {number : Number}

/-- The check of a range is what its two limits make it. -/
theorem judges_checkRange (tool : String) (declaration : Declaration) (resolver : Resolver)
    (low high : Bound) (number : Number) :
    Judges tool declaration.name number (limit tool declaration resolver low)
      (limit tool declaration resolver high)
      (checkRange tool declaration resolver low high number) := by
  unfold checkRange
  cases limit tool declaration resolver low with
  | error fault => exact .noLeast
  | ok least =>
      -- Behind a lower limit that is met, the check is that of a range without one.
      have upper (met : least.any (fun bound => number.lt bound) = false) :
          Judges tool declaration.name number (.ok least) (limit tool declaration resolver high)
            (checkRange tool declaration resolver .unbounded high number) := by
        unfold checkRange
        cases limit tool declaration resolver high with
        | error fault => exact .noMost met
        | ok most =>
            cases most with
            | none => exact .between ⟨met, rfl⟩
            | some most =>
                cases isAbove : most.lt number with
                | true =>
                    simp only [Outcome.ok_bind, isAbove]
                    exact .above met isAbove
                | false =>
                    simp only [Outcome.ok_bind, isAbove]
                    exact .between ⟨met, isAbove⟩
      cases least with
      | none => exact upper rfl
      | some least =>
          cases isBelow : number.lt least with
          | true =>
              simp only [Outcome.ok_bind, isBelow]
              exact .below isBelow
          | false =>
              simp only [Outcome.ok_bind, isBelow]
              exact upper isBelow

theorem limit_eq_ok_iff (proper : bound.IsProper) {least : Option Number} :
    limit tool declaration (store.resolverOf declaration) bound = .ok least ↔
      bound.ComesTo store declaration.name least := by
  cases bound with
  | unbounded =>
      constructor
      · rintro ⟨⟩
        exact .unbounded
      · rintro ⟨⟩
        rfl
  | number value =>
      constructor
      · rintro ⟨⟩
        exact .number value
      · rintro ⟨⟩
        rfl
  | text written =>
      have isRedirect := proper written rfl
      simp only [limit, isRedirect, if_true]
      constructor
      · intro limited
        obtain ⟨value, led, limited⟩ := Outcome.bind_eq_ok_iff.mp limited
        refine .redirect isRedirect (Store.leadsTo_iff.mpr led) ?_
        cases value with
        | null =>
            cases limited
            exact .unset
        | number value =>
            cases limited
            exact .number value
        | text text =>
            simp only at limited
            split at limited
            · rename_i numeric
              cases limited
              exact .text numeric.1 numeric.2
            · cases limited
        | absent => cases limited
        | bool value => cases limited
      · rintro (_ | _ | ⟨_, leads, isLimit⟩)
        refine Outcome.bind_eq_ok_iff.mpr ⟨_, Store.leadsTo_iff.mp leads, ?_⟩
        cases isLimit with
        | unset => rfl
        | number value => rfl
        | text filled finite =>
            simp only
            rw [if_pos ⟨filled, finite⟩]
            rfl

theorem faultClass_of_limit {fault : ValueFault}
    (refused : limit tool declaration (store.resolverOf declaration) bound = .error fault) :
    fault.faultClass = .redirect ∨ fault.faultClass = .cycle := by
  unfold limit at refused
  cases bound with
  | unbounded => cases refused
  | number value => cases refused
  | text written =>
      simp only at refused
      split at refused
      · cases led : store.resolverOf declaration (Redirect.target written) with
        | error cause =>
            rw [led] at refused
            cases refused
            exact Store.faultClass_of_followTarget led
        | ok value =>
            rw [led] at refused
            cases value with
            | null => cases refused
            | number value => cases refused
            | text text =>
                simp only [Outcome.ok_bind] at refused
                split at refused
                · cases refused
                · cases refused
                  exact .inl rfl
            | absent =>
                cases refused
                exact .inl rfl
            | bool value =>
                cases refused
                exact .inl rfl
      · split at refused <;> cases refused

end Constraint

namespace Store

variable {store : Store} {name : String} {declaration : Declaration} {low high : Bound}
  {input : Input} {number : Number}

/-- The limits come to something, and the number is between them. -/
def Accepts (store : Store) (name : String) (low high : Bound) (number : Number) : Prop :=
  ∃ least most, low.ComesTo store name least ∧ high.ComesTo store name most ∧
    number.IsBetween least most

/-- The number is below the lower limit, or it is not and is above the upper limit. -/
def Excludes (store : Store) (name : String) (low high : Bound) (number : Number) : Prop :=
  (∃ least, low.ComesTo store name (some least) ∧ number.lt least = true) ∨
    ∃ least most, low.ComesTo store name least ∧
      least.any (fun bound => number.lt bound) = false ∧
      high.ComesTo store name (some most) ∧ most.lt number = true

theorem checkRange_eq_ok_iff_accepts (store : Store) (declaration : Declaration)
    (lowProper : low.IsProper) (highProper : high.IsProper) (number : Number) :
    Constraint.checkRange store.tool declaration (store.resolverOf declaration) low high number =
        .ok () ↔
      store.Accepts declaration.name low high number := by
  rw [Constraint.checkRange_eq_ok_iff]
  unfold Accepts Number.IsBetween
  simp only [Constraint.limit_eq_ok_iff lowProper, Constraint.limit_eq_ok_iff highProper]

/-- The check of a range refuses a number for itself exactly where a limit excludes it, and
otherwise for a redirect of a limit. -/
theorem checkRange_refuses_iff_excludes (store : Store) (declaration : Declaration)
    (lowProper : low.IsProper) (highProper : high.IsProper) (number : Number) :
    ((∃ fault, Constraint.checkRange store.tool declaration (store.resolverOf declaration) low high
        number = .error fault ∧ fault.faultClass = .range) ↔
      store.Excludes declaration.name low high number) ∧
    ∀ fault, Constraint.checkRange store.tool declaration (store.resolverOf declaration) low high
        number = .error fault →
      fault.faultClass = .range ∨ fault.faultClass = .redirect ∨ fault.faultClass = .cycle := by
  have judged := Constraint.judges_checkRange store.tool declaration
    (store.resolverOf declaration) low high number
  unfold Excludes
  have lowComes (least : Option Number) :=
    @Constraint.limit_eq_ok_iff store store.tool declaration low lowProper least
  have highComes (most : Option Number) :=
    @Constraint.limit_eq_ok_iff store store.tool declaration high highProper most
  simp only [← lowComes, ← highComes]
  generalize Constraint.checkRange store.tool declaration (store.resolverOf declaration) low high
    number = outcome at judged
  generalize isLow : Constraint.limit store.tool declaration (store.resolverOf declaration) low =
    lowest at judged
  generalize isHigh : Constraint.limit store.tool declaration (store.resolverOf declaration) high =
    highest at judged
  cases judged with
  | noLeast =>
      have linked := Constraint.faultClass_of_limit isLow
      refine ⟨⟨?_, ?_⟩, ?_⟩
      · rintro ⟨_, ⟨⟩, isRange⟩
        rw [isRange] at linked
        rcases linked with ⟨⟨⟩⟩ | ⟨⟨⟩⟩
      · rintro (⟨_, ⟨⟩, _⟩ | ⟨_, _, ⟨⟩, _⟩)
      · rintro _ ⟨⟩
        exact .inr linked
  | @below least _ isBelow =>
      refine ⟨⟨fun _ => .inl ⟨least, rfl, isBelow⟩, fun _ => ⟨_, rfl, rfl⟩⟩, ?_⟩
      rintro _ ⟨⟩
      exact .inl rfl
  | @noMost least fault met =>
      have linked := Constraint.faultClass_of_limit isHigh
      refine ⟨⟨?_, ?_⟩, ?_⟩
      · rintro ⟨_, ⟨⟩, isRange⟩
        rw [isRange] at linked
        rcases linked with ⟨⟨⟩⟩ | ⟨⟨⟩⟩
      · rintro (⟨_, ⟨⟩, isBelow⟩ | ⟨_, _, _, _, ⟨⟩, _⟩)
        rw [Option.any_some, isBelow] at met
        cases met
      · rintro _ ⟨⟩
        exact .inr linked
  | @above least most met isAbove =>
      refine ⟨⟨fun _ => .inr ⟨least, most, rfl, met, rfl, isAbove⟩, fun _ => ⟨_, rfl, rfl⟩⟩, ?_⟩
      rintro _ ⟨⟩
      exact .inl rfl
  | @between least most isBetween =>
      refine ⟨⟨?_, ?_⟩, ?_⟩
      · rintro ⟨_, ⟨⟩, _⟩
      · rintro (⟨_, ⟨⟩, isBelow⟩ | ⟨_, _, ⟨⟩, _, ⟨⟩, isAbove⟩)
        · have met := isBetween.1
          rw [Option.any_some, isBelow] at met
          cases met
        · have met := isBetween.2
          rw [Option.any_some, isAbove] at met
          cases met
      · rintro _ ⟨⟩

theorem null_or_number_of_coerce {tool : String} {value : Scalar}
    (numeric : declaration.type.isNumeric = true)
    (coerced : coerce tool declaration input = .ok value) :
    value = .null ∨ ∃ number, value = .number number := by
  have lettered : declaration.type.IsLettered := by
    intro word isWord
    rw [isWord] at numeric
    cases numeric
  have admits := admits_of_coerce lettered coerced
  generalize declaration.type = type at numeric admits
  cases admits with
  | unsetNumber => exact .inl rfl
  | unsetText => exact .inl rfl
  | integer => exact .inr ⟨_, rfl⟩
  | real => exact .inr ⟨_, rfl⟩
  | bool value => cases numeric
  | text isText =>
      cases type with
      | string => cases numeric
      | filename => cases numeric
      | _ => cases isText

section Check

variable (constrained : declaration.constraint = some (.range low high))
include constrained

theorem constraint_check_number (resolver : Resolver) (number : Number) :
    Constraint.check store.tool declaration resolver (.number number) =
      (Constraint.checkRange store.tool declaration resolver low high number).map
        fun _ => .number number := by
  unfold Constraint.check
  rw [constrained]
  rfl

theorem constraint_check_null (resolver : Resolver) :
    Constraint.check store.tool declaration resolver .null = .ok .null := by
  unfold Constraint.check
  rw [constrained]

theorem check_number (plain : Redirect.ofInput? input = none)
    (coerced : coerce store.tool declaration input = .ok (.number number)) :
    store.check declaration input =
      (Constraint.checkRange store.tool declaration (store.resolverOf declaration) low high
        number).map fun _ => .literal (.number number) := by
  unfold check
  simp only [plain, coerced, Outcome.ok_bind, constraint_check_number constrained]
  change _ = (Constraint.checkRange store.tool declaration
    (fun target => store.followTarget declaration.name target [declaration.name]) low high
      number).map _
  cases Constraint.checkRange store.tool declaration
    (fun target => store.followTarget declaration.name target [declaration.name]) low high
      number <;> rfl

theorem check_null (plain : Redirect.ofInput? input = none)
    (coerced : coerce store.tool declaration input = .ok .null) :
    store.check declaration input = .ok (.literal .null) := by
  unfold check
  simp only [plain, coerced, Outcome.ok_bind, constraint_check_null constrained]
  rfl

/-- A numeric parameter takes a redirect exactly where the value that it leads to is not set
or is a number that its range accepts. -/
theorem check_redirect_eq_ok_iff (numeric : declaration.type.isNumeric = true)
    (lowProper : low.IsProper) (highProper : high.IsProper) {target : String} {stored : Stored}
    (written : Redirect.ofInput? input = some target) :
    store.check declaration input = .ok stored ↔
      stored = .redirect target ∧
        ∃ value concrete, store.LeadsTo declaration.name target value ∧
          coerce store.tool declaration (.scalar value) = .ok concrete ∧
          (concrete = .null ∨
            ∃ number, concrete = .number number ∧
              store.Accepts declaration.name low high number) := by
  unfold check
  simp only [written]
  constructor
  · intro checked
    obtain ⟨value, led, checked⟩ := Outcome.bind_eq_ok_iff.mp checked
    obtain ⟨concrete, coerced, checked⟩ := Outcome.bind_eq_ok_iff.mp checked
    obtain ⟨final, met, stores⟩ := Outcome.bind_eq_ok_iff.mp checked
    cases stores
    refine ⟨rfl, value, concrete, leadsTo_iff.mpr led, coerced, ?_⟩
    rcases null_or_number_of_coerce numeric coerced with rfl | ⟨number, rfl⟩
    · exact .inl rfl
    · rw [constraint_check_number constrained] at met
      obtain ⟨_, inRange, _⟩ := Outcome.map_eq_ok_iff.mp met
      exact .inr ⟨number, rfl,
        (checkRange_eq_ok_iff_accepts store declaration lowProper highProper number).mp inRange⟩
  · rintro ⟨rfl, value, concrete, leads, coerced, fits⟩
    refine Outcome.bind_eq_ok_iff.mpr ⟨value, leadsTo_iff.mp leads, ?_⟩
    rw [coerced, Outcome.ok_bind]
    rcases fits with rfl | ⟨number, rfl, accepts⟩
    · rw [constraint_check_null constrained]
      rfl
    · have inRange := (checkRange_eq_ok_iff_accepts store declaration lowProper highProper
        number).mpr accepts
      refine Outcome.bind_eq_ok_iff.mpr ⟨.number number, ?_, rfl⟩
      rw [constraint_check_number constrained]
      exact Outcome.map_eq_ok_iff.mpr ⟨(), inRange, rfl⟩

end Check

/-- A number that is given to a numeric parameter with a range is accepted exactly where both
limits come to something and the number is between them.  It is refused for itself exactly
where a limit excludes it, and in all other cases for a redirect of a limit.  An unset value is
always accepted, and a redirect exactly where the value that it leads to would be. -/
theorem validate_eq_ok_iff_accepts (store : Store) {name : String} {declaration : Declaration}
    {low high : Bound} (found : store.schema.find? name = some declaration)
    (numeric : declaration.type.isNumeric = true)
    (constrained : declaration.constraint = some (.range low high))
    (lowProper : low.IsProper) (highProper : high.IsProper) :
    (∀ input number, Redirect.ofInput? input = none →
      coerce store.tool declaration input = .ok (.number number) →
        (store.validate name input = .ok (.literal (.number number)) ↔
          store.Accepts name low high number) ∧
        ((∃ fault, store.validate name input = .error (.value fault) ∧
            fault.faultClass = .range) ↔
          store.Excludes name low high number) ∧
        (¬store.Accepts name low high number → ¬store.Excludes name low high number →
          ∃ fault, store.validate name input = .error (.value fault) ∧
            (fault.faultClass = .redirect ∨ fault.faultClass = .cycle))) ∧
    (∀ input, Redirect.ofInput? input = none →
      coerce store.tool declaration input = .ok .null →
        store.validate name input = .ok (.literal .null)) ∧
    ∀ input target stored, Redirect.ofInput? input = some target →
      (store.validate name input = .ok stored ↔
        stored = .redirect target ∧
          ∃ value concrete, store.LeadsTo name target value ∧
            coerce store.tool declaration (.scalar value) = .ok concrete ∧
            (concrete = .null ∨
              ∃ number, concrete = .number number ∧ store.Accepts name low high number)) := by
  obtain ⟨_, rfl⟩ := mem_names_of_find? found
  refine ⟨?_, ?_, ?_⟩
  · intro input number plain coerced
    have accepts := checkRange_eq_ok_iff_accepts store declaration lowProper highProper number
    obtain ⟨excludes, classes⟩ :=
      checkRange_refuses_iff_excludes store declaration lowProper highProper number
    rw [validate_of_find? found, check_number constrained plain coerced, ← accepts, ← excludes]
    cases judged : Constraint.checkRange store.tool declaration (store.resolverOf declaration)
        low high number with
    | ok _ => simp [Except.map]
    | error fault =>
        rw [judged] at classes
        refine ⟨by simp [Except.map], by simp [Except.map], ?_⟩
        intro _ inRange
        refine ⟨fault, rfl, ?_⟩
        exact (classes fault rfl).resolve_left fun isRange => inRange ⟨fault, rfl, isRange⟩
  · intro input plain coerced
    rw [validate_of_find? found, check_null constrained plain coerced]
    rfl
  · intro input target stored written
    rw [validate_of_find? found, Outcome.mapError_eq_ok_iff]
    exact check_redirect_eq_ok_iff constrained numeric lowProper highProper written

/-- A level between a floor, which is a parameter of its own, and thirty. -/
def heated : Schema :=
  { name := "heater", kind := .parameterFile, executable := none, required := []
    optional := [
      { name := "level", type := .integer, help := "", default := .null, required := false,
        mode := "h", constraint := some (.range (.text ")floor") (.number (.ofNat 30))) },
      { name := "floor", type := .real, help := "", default := .number (.ofNat 10),
        required := false, mode := "h", constraint := none },
      { name := "preset", type := .string, help := "", default := .text "20", required := false,
        mode := "h", constraint := none }] }

/-- A level above the floor is taken, one below it is not, and a text of a level is taken
through a redirect. -/
theorem validate_heated :
    (fresh heated).schema.find? "level" = heated.optional.head? ∧
      (fresh heated).validate "level" (.scalar (.number (.ofNat 11))) =
        .ok (.literal (.number (.ofNat 11))) ∧
      (∃ fault, (fresh heated).validate "level" (.scalar (.number (.ofNat 9))) =
        .error (.value fault) ∧ fault.faultClass = .range) ∧
      (fresh heated).validate "level" (.ofText ")preset") = .ok (.redirect "preset") := by
  have floor : (Bound.text ")floor").ComesTo (fresh heated) "level" (some (.ofNat 10)) := by
    refine .redirect (by decide) ⟨by decide, ["floor"], .ends ?_, by decide⟩ (.number _)
    decide +kernel
  have most : (Bound.number (.ofNat 30)).ComesTo (fresh heated) "level" (some (.ofNat 30)) :=
    .number _
  have preset : (fresh heated).LeadsTo "level" "preset" (.text "20") := by
    refine ⟨by decide, ["preset"], .ends ?_, by decide⟩
    decide +kernel
  have lowProper : (Bound.text ")floor").IsProper := by
    rintro _ ⟨⟩
    decide
  have highProper : (Bound.number (.ofNat 30)).IsProper := by
    rintro _ ⟨⟩
  have found : (fresh heated).schema.find? "level" = heated.optional.head? := by decide +kernel
  obtain ⟨numbers, _, redirects⟩ := validate_eq_ok_iff_accepts (fresh heated) found rfl rfl
    lowProper highProper
  obtain ⟨eleven, _⟩ := numbers (.scalar (.number (.ofNat 11))) (.ofNat 11) rfl
    (by decide +kernel)
  obtain ⟨_, nine, _⟩ := numbers (.scalar (.number (.ofNat 9))) (.ofNat 9) rfl
    (by decide +kernel)
  refine ⟨found, ?_, ?_, ?_⟩
  · exact eleven.mpr ⟨_, _, floor, most, by decide +kernel, by decide +kernel⟩
  · exact nine.mpr (.inl ⟨_, floor, by decide +kernel⟩)
  · refine (redirects (.ofText ")preset") "preset" _ (by decide +kernel)).mpr ⟨rfl, .text "20",
      .number (.ofNat 20), preset, by decide +kernel, .inr ⟨_, rfl, ?_⟩⟩
    exact ⟨_, _, floor, most, by decide +kernel, by decide +kernel⟩

end Store

end ToolParams
