import Mathlib.Data.List.Dedup
import Mathlib.Data.List.Perm.Subperm
import ToolParams.Proofs.Outcome
import ToolParams.Store.Resolve

/-!
# Walks along redirects

A walk starts at a declared name and goes from each redirect to its target, as long as the
target is declared and was not passed before.  It ends at a literal, at a redirect to an
undeclared name, or at a redirect to a name that it passed.  Every store has exactly one
such end for each name, and following the redirects gives what stands there.
-/

namespace ToolParams.Store

/-- What a store holds under a name, which is an unset value where it has no entry. -/
inductive Holds (store : Store) (name : String) : Stored → Prop where
  | present {stored : Stored} : store.values.get? name = some stored → Holds store name stored
  | missing : store.values.get? name = none → Holds store name (.literal .null)

/-- A walk from one name to another one along redirects: the names that it passes, both ends
included, are declared, and none of them comes twice. -/
inductive Walk (store : Store) (first : String) : List String → String → Prop where
  | start : first ∈ store.schema.names → Walk store first [first] first
  | onward {passed : List String} {last target : String} :
      Walk store first passed last →
      store.Holds last (.redirect target) →
      target ∈ store.schema.names →
      target ∉ passed →
      Walk store first (passed ++ [target]) target

/-- What the end of a walk comes to, where it cannot go on. -/
inductive Ends (store : Store) (first : String) (passed : List String) (last : String) :
    Except ValueFault Scalar → Prop where
  | value {value : Scalar} :
      store.Holds last (.literal value) → Ends store first passed last (.ok value)
  | dangling {target : String} :
      store.Holds last (.redirect target) →
      target ∉ store.schema.names →
      Ends store first passed last (.error (.dangling store.tool last target))
  | cycle {target : String} :
      store.Holds last (.redirect target) →
      target ∈ passed →
      Ends store first passed last (.error (.cycle store.tool first (passed ++ [target])))

variable {store changed : Store} {first last name : String} {passed : List String}
  {outcome : Except ValueFault Scalar}

theorem holds_iff {stored : Stored} : store.Holds name stored ↔ store.entry name = stored := by
  unfold entry
  constructor
  · rintro (held | missing)
    · rw [held, Option.getD_some]
    · rw [missing, Option.getD_none]
  · intro isEntry
    cases held : store.values.get? name with
    | none =>
        rw [held, Option.getD_none] at isEntry
        exact isEntry ▸ .missing held
    | some stored =>
        rw [held, Option.getD_some] at isEntry
        exact isEntry ▸ .present held

namespace Walk

theorem last_mem (walk : Walk store first passed last) : last ∈ passed := by
  cases walk with
  | start => exact List.mem_singleton_self _
  | onward => exact List.mem_append_right _ (List.mem_singleton_self _)

theorem first_mem (walk : Walk store first passed last) : first ∈ passed := by
  induction walk with
  | start => exact List.mem_singleton_self _
  | onward _ _ _ _ induction => exact List.mem_append_left _ induction

theorem headD_eq (walk : Walk store first passed last) (other : String) :
    passed.headD other = first := by
  induction walk with
  | start => rfl
  | @onward passed last target walk _ _ _ induction =>
      cases passed with
      | nil => exact absurd walk.last_mem List.not_mem_nil
      | cons head rest => exact induction

theorem declared (walk : Walk store first passed last) :
    ∀ name ∈ passed, name ∈ store.schema.names := by
  induction walk with
  | start isDeclared =>
      intro name member
      exact List.mem_singleton.mp member ▸ isDeclared
  | onward _ _ isDeclared _ induction =>
      intro name member
      rcases List.mem_append.mp member with before | isTarget
      · exact induction name before
      · exact List.mem_singleton.mp isTarget ▸ isDeclared

theorem nodup (walk : Walk store first passed last) : passed.Nodup := by
  induction walk with
  | start => exact List.nodup_singleton _
  | onward _ _ _ fresh induction =>
      rw [← List.concat_eq_append]
      exact induction.concat fresh

/-- Every name that a walk leaves behind redirects to a name that it passes. -/
theorem redirects (walk : Walk store first passed last) :
    ∀ name ∈ passed, name ≠ last → ∃ target ∈ passed, store.Holds name (.redirect target) := by
  induction walk with
  | start =>
      intro name member behind
      exact absurd (List.mem_singleton.mp member) behind
  | @onward passed last target _ redirect _ _ induction =>
      intro name member behind
      have before : name ∈ passed :=
        (List.mem_append.mp member).resolve_right fun isTarget =>
          behind (List.mem_singleton.mp isTarget)
      by_cases isLast : name = last
      · subst isLast
        exact ⟨target, List.mem_append_right _ (List.mem_singleton_self _), redirect⟩
      · obtain ⟨next, among, holds⟩ := induction name before isLast
        exact ⟨next, List.mem_append_left _ among, holds⟩

theorem length_le (walk : Walk store first passed last) :
    passed.length ≤ store.schema.names.dedup.length := by
  have among : passed ⊆ store.schema.names.dedup := by
    intro name member
    exact List.mem_dedup.mpr (walk.declared name member)
  exact (walk.nodup.subperm among).length_le

theorem congr (walk : Walk store first passed last) (sameSchema : changed.schema = store.schema)
    (sameEntries : ∀ name ∈ passed, changed.values.get? name = store.values.get? name) :
    Walk changed first passed last := by
  induction walk with
  | start isDeclared => exact .start (sameSchema ▸ isDeclared)
  | onward walk redirect isDeclared fresh induction =>
      have before := induction fun name member => sameEntries name (List.mem_append_left _ member)
      refine .onward before ?_ (sameSchema ▸ isDeclared) fresh
      have same := sameEntries _ (List.mem_append_left _ walk.last_mem)
      rw [holds_iff] at redirect ⊢
      rwa [entry, same]

end Walk

theorem Ends.congr (ends : Ends store first passed last outcome)
    (sameSchema : changed.schema = store.schema)
    (sameEntry : changed.values.get? last = store.values.get? last) :
    Ends changed first passed last outcome := by
  have sameTool : changed.tool = store.tool := congrArg Schema.name sameSchema
  have held {stored : Stored} (holds : store.Holds last stored) : changed.Holds last stored := by
    rw [holds_iff] at holds ⊢
    rwa [entry, sameEntry]
  cases ends with
  | value literal => exact .value (held literal)
  | dangling redirect undeclared =>
      exact sameTool ▸ .dangling (held redirect) (sameSchema ▸ undeclared)
  | cycle redirect seen => exact sameTool ▸ .cycle (held redirect) seen

/-- The value of a parameter that a walk came to. -/
def followFrom (store : Store) (passed : List String) (last : String) :
    Except ValueFault Scalar :=
  match store.entry last with
  | .literal value => .ok value
  | .redirect target => store.followTarget last target passed

/-- Wherever a walk has come, following redirects from there gives what following them from
its first name gives. -/
theorem Walk.follow_eq (walk : Walk store first passed last) :
    store.follow first = store.followFrom passed last := by
  induction walk with
  | start => rfl
  | @onward passed last target _ redirect isDeclared fresh induction =>
      rw [induction, followFrom, holds_iff.mp redirect]
      simp only
      rw [followTarget, dif_neg fresh, dif_pos isDeclared]
      rfl

theorem Walk.follow_of_ends (walk : Walk store first passed last)
    (ends : Ends store first passed last outcome) : store.follow first = outcome := by
  rw [walk.follow_eq, followFrom]
  cases ends with
  | value literal => rw [holds_iff.mp literal]
  | @dangling target redirect undeclared =>
      have fresh : target ∉ passed := fun seen => undeclared (walk.declared target seen)
      rw [holds_iff.mp redirect]
      simp only
      rw [followTarget, dif_neg fresh, dif_neg undeclared]
  | cycle redirect seen =>
      rw [holds_iff.mp redirect]
      simp only
      rw [followTarget, dif_pos seen, walk.headD_eq]

/-- Every walk can be continued to an end: with each name that it passes, one name less is
left to pass. -/
theorem Walk.exists_end {passed : List String} {last : String}
    (walk : Walk store first passed last) :
    ∃ passed last outcome, Walk store first passed last ∧
      Ends store first passed last outcome := by
  cases held : store.entry last with
  | literal value => exact ⟨passed, last, _, walk, .value (holds_iff.mpr held)⟩
  | redirect target =>
      have redirect := holds_iff.mpr held
      by_cases seen : target ∈ passed
      · exact ⟨passed, last, _, walk, .cycle redirect seen⟩
      · by_cases isDeclared : target ∈ store.schema.names
        · exact (walk.onward redirect isDeclared seen).exists_end
        · exact ⟨passed, last, _, walk, .dangling redirect isDeclared⟩
termination_by (store.unvisited passed).length
decreasing_by exact store.unvisited_append_lt seen isDeclared

theorem follow_eq_iff (declared : name ∈ store.schema.names) :
    store.follow name = outcome ↔
      ∃ passed last, Walk store name passed last ∧ Ends store name passed last outcome := by
  constructor
  · intro followed
    obtain ⟨passed, last, reached, walk, ends⟩ := (Walk.start declared).exists_end
    rw [walk.follow_of_ends ends] at followed
    exact ⟨passed, last, walk, followed ▸ ends⟩
  · rintro ⟨passed, last, walk, ends⟩
    exact walk.follow_of_ends ends

theorem resolve_eq (declared : name ∈ store.schema.names) :
    store.resolve name = (store.follow name).mapError .value := by
  rw [resolve, resolveName, if_pos declared]
  rfl

theorem resolve_eq_ok_iff (declared : name ∈ store.schema.names) {value : Scalar} :
    store.resolve name = .ok value ↔ store.follow name = .ok value := by
  rw [resolve_eq declared, Outcome.mapError_eq_ok_iff]

theorem resolve_eq_error_iff (declared : name ∈ store.schema.names) {fault : ValueFault} :
    store.resolve name = .error (.value fault) ↔ store.follow name = .error fault := by
  rw [resolve_eq declared]
  cases store.follow name <;> simp

/-- A declared name resolves to the value at the end of the walk from it.  It is refused as a
redirect that leads nowhere exactly where the walk comes to an undeclared target, and as a
cycle exactly where the walk comes back to a name that it passed.  The walk passes no more
names than are declared, and resolving the name looks up no others. -/
theorem resolve_eq_iff_walk (store : Store) (name : String)
    (declared : name ∈ store.schema.names) :
    (∀ value, store.resolve name = .ok value ↔
      ∃ passed last, Walk store name passed last ∧ store.Holds last (.literal value)) ∧
    (∀ fault, store.resolve name = .error (.value fault) ∧ fault.faultClass = .redirect ↔
      ∃ passed last target, Walk store name passed last ∧ store.Holds last (.redirect target) ∧
        target ∉ store.schema.names ∧ fault = .dangling store.tool last target) ∧
    (∀ fault, store.resolve name = .error (.value fault) ∧ fault.faultClass = .cycle ↔
      ∃ passed last target, Walk store name passed last ∧ store.Holds last (.redirect target) ∧
        target ∈ passed ∧ fault = .cycle store.tool name (passed ++ [target])) ∧
    (∀ refusal, store.resolve name = .error refusal →
      ∃ fault, refusal = .value fault ∧
        (fault.faultClass = .redirect ∨ fault.faultClass = .cycle)) ∧
    ∃ passed last, Walk store name passed last ∧
      passed.length ≤ store.schema.names.dedup.length ∧
      ∀ changed : Store, changed.schema = store.schema →
        (∀ other ∈ passed, changed.values.get? other = store.values.get? other) →
        changed.resolve name = store.resolve name := by
  refine ⟨?_, ?_, ?_, ?_, ?_⟩
  · intro value
    rw [resolve_eq_ok_iff declared, follow_eq_iff declared]
    constructor
    · rintro ⟨passed, last, walk, ends⟩
      cases ends with
      | value literal => exact ⟨passed, last, walk, literal⟩
    · rintro ⟨passed, last, walk, literal⟩
      exact ⟨passed, last, walk, .value literal⟩
  · intro fault
    rw [resolve_eq_error_iff declared, follow_eq_iff declared]
    constructor
    · rintro ⟨⟨passed, last, walk, ends⟩, isRedirect⟩
      cases ends with
      | dangling redirect undeclared => exact ⟨passed, last, _, walk, redirect, undeclared, rfl⟩
      | cycle => cases isRedirect
    · rintro ⟨passed, last, target, walk, redirect, undeclared, rfl⟩
      exact ⟨⟨passed, last, walk, .dangling redirect undeclared⟩, rfl⟩
  · intro fault
    rw [resolve_eq_error_iff declared, follow_eq_iff declared]
    constructor
    · rintro ⟨⟨passed, last, walk, ends⟩, isCycle⟩
      cases ends with
      | dangling => cases isCycle
      | cycle redirect seen => exact ⟨passed, last, _, walk, redirect, seen, rfl⟩
    · rintro ⟨passed, last, target, walk, redirect, seen, rfl⟩
      exact ⟨⟨passed, last, walk, .cycle redirect seen⟩, rfl⟩
  · intro refusal refused
    obtain ⟨passed, last, outcome, walk, ends⟩ := (Walk.start declared).exists_end
    rw [resolve_eq declared, walk.follow_of_ends ends] at refused
    cases ends with
    | value => cases refused
    | dangling =>
        cases refused
        exact ⟨_, rfl, .inl rfl⟩
    | cycle =>
        cases refused
        exact ⟨_, rfl, .inr rfl⟩
  · obtain ⟨passed, last, outcome, walk, ends⟩ := (Walk.start declared).exists_end
    refine ⟨passed, last, walk, walk.length_le, ?_⟩
    intro changed sameSchema sameEntries
    have walkToo := walk.congr sameSchema sameEntries
    have endsToo := ends.congr sameSchema (sameEntries last walk.last_mem)
    rw [resolve_eq declared, resolve_eq (sameSchema ▸ declared), walk.follow_of_ends ends,
      walkToo.follow_of_ends endsToo]

/-- Two texts that redirect to each other, and one that redirects to the first of them. -/
def looped : Schema :=
  { name := "looped", kind := .parameterFile, executable := none, required := []
    optional := [("entry", ")near"), ("near", ")far"), ("far", ")near")].map fun (name, default) =>
      { name, type := .string, help := "", default := .text default, required := false,
        mode := "h", constraint := none } }

/-- The walk into a loop is refused with the names up to the first one that comes twice. -/
theorem resolve_looped :
    "entry" ∈ looped.names ∧
      (fresh looped).resolve "entry" =
        .error (.value (.cycle "looped" "entry" ["entry", "near", "far", "near"])) := by
  have declared : "entry" ∈ (fresh looped).schema.names := by decide
  have walk : Walk (fresh looped) "entry" ["entry", "near", "far"] "far" := by
    have near : Walk (fresh looped) "entry" ["entry", "near"] "near" :=
      .onward (.start declared) (.present rfl) (by decide) (by decide)
    exact .onward near (.present rfl) (by decide) (by decide)
  obtain ⟨_, _, cycles, _⟩ := resolve_eq_iff_walk (fresh looped) "entry" declared
  exact ⟨declared, ((cycles _).mpr
    ⟨["entry", "near", "far"], "far", "near", walk, .present rfl, by decide, rfl⟩).1⟩

end ToolParams.Store
