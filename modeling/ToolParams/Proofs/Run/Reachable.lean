import Mathlib.Control.Monad.Basic
import ToolParams.Proofs.Run.Stages

/-!
# Stores that can be reached

Whatever is done to a store, it is changed by assignments, put back to its defaults,
or put back to values that it had before.  An assignment takes a value from no
parameter, so if all defaults of a schema lead to values, so does every entry of
every store that can be reached.
-/

namespace ToolParams

namespace Store

/-- A name stands for a parameter that has a value. -/
def Resolves (store : Store) (requested : String) : Prop :=
  ∃ value, store.resolve requested = .ok value

theorem resolves_iff {store : Store} {requested name : String}
    (resolved : store.resolveName requested = .ok name) :
    store.Resolves requested ↔ store.HasValue name := by
  unfold Resolves HasValue resolve
  simp only [resolved, Outcome.ok_bind, Outcome.mapError_eq_ok_iff]

/-- A store, and the values that were saved of it. -/
structure History where
  store : Store
  saved : List Values

namespace History

/-- What can be done to a store; calls that fail are steps like others. -/
inductive Step : History → History → Prop where
  | assign (history : History) (requested : String) (input : Input) (world : World) :
      Step history
        { history with store := ((assign requested input).perform world history.store).2.2 }
  | attempt (history : History) (requested : String) (input : Input) (world : World) :
      Step history
        { history with
          store := ((Action.outcome (assign requested input)).perform world history.store).2.2 }
  | clear (history : History) (world : World) :
      Step history { history with store := (clear.perform world history.store).2.2 }
  | read (history : History) (path : String) (overflow : ParameterFile.Overflow)
      (world : World) :
      Step history
        { history with
          store := ((ParameterFile.read path overflow).perform world history.store).2.2 }
  | run (history : History) (runner : Runner) (launcher : Launcher) (options : RunOptions)
      (world : World) :
      Step history
        { history with store := ((runner.run launcher options).perform world history.store).2.2 }
  | snapshot (history : History) :
      Step history { history with saved := history.store.snapshot :: history.saved }
  | restore (history : History) (values : Values) :
      values ∈ history.saved →
      Step history { history with store := history.store.restore values }

/-- What can come of the fresh store of a schema. -/
inductive Reachable (schema : Schema) : History → Prop where
  | fresh : Reachable schema { store := Store.fresh schema, saved := [] }
  | step {before after : History} :
      Reachable schema before → Step before after → Reachable schema after

/-- The store is one of the schema, and it and all that was saved of it give each
parameter a value. -/
structure Sound (schema : Schema) (history : History) : Prop where
  schema_eq : history.store.schema = schema
  resolved : history.store.Resolved
  saved : ∀ values ∈ history.saved, Resolved { schema, values }

end History

end Store

namespace Runner

/-- A run changes the store by assignments alone. -/
theorem assigned_run (runner : Runner) (launcher : Launcher) (options : RunOptions)
    (world : World) (store : Store) :
    store.Assigned ((runner.run launcher options).perform world store).2.2 := by
  by_cases only : store.schema.kind = .parametersOnly
  · rw [perform_run_of_parametersOnly runner launcher options world only]
    exact .refl
  have binding := worked_bindArguments options world store
  rcases binds : (bindArguments options).perform world store with ⟨failure | _, noted, bound⟩
  · obtain ⟨_, _, performed⟩ := perform_run_of_unbound runner launcher only (by rw [binds])
    rw [performed]
    exact .refl
  · rw [binds] at binding
    obtain ⟨result, after, final, _, _, _, _, performed, course⟩ :=
      perform_run_of_bound runner launcher only binds
    rw [performed]
    cases result with
    | error failure => exact .refl
    | ok value =>
        rcases course.working with ⟨_, _, failed, _⟩ | ⟨_, operated⟩
        · cases failed
        · exact binding.2.trans operated.assigned

end Runner

namespace Store.History.Sound

variable {schema : Schema} {history after : History}

theorem assigned (sound : Sound schema history) {store : Store}
    (changed : history.store.Assigned store) : Sound schema { history with store } :=
  { schema_eq := changed.schema_eq.trans sound.schema_eq
    resolved := changed.resolved sound.resolved
    saved := sound.saved }

/-- No step takes a value from a parameter. -/
theorem step (sound : Sound schema history) (defaults : (Store.fresh schema).Resolved)
    (done : Step history after) : Sound schema after := by
  cases done with
  | assign requested input world =>
      exact sound.assigned (worked_assign requested input world history.store).2
  | attempt requested input world =>
      exact sound.assigned (worked_assign requested input world history.store).2
  | clear world =>
      refine { sound with schema_eq := sound.schema_eq, resolved := ?_ }
      have cleared : (clear.perform world history.store).2.2 = Store.fresh schema := by
        rw [← sound.schema_eq]
        rfl
      exact cleared ▸ defaults
  | read path overflow world =>
      exact sound.assigned (ParameterFile.worked_read path overflow world history.store).2
  | run runner launcher options world =>
      exact sound.assigned (runner.assigned_run launcher options world history.store)
  | snapshot =>
      refine { sound with saved := ?_ }
      intro values member
      rcases List.mem_cons.mp member with rfl | earlier
      · have same : ({ schema, values := history.store.snapshot } : Store) = history.store := by
          rw [← sound.schema_eq]
          rfl
        exact same ▸ sound.resolved
      · exact sound.saved values earlier
  | restore values member =>
      have same : history.store.restore values = { schema, values } := by
        rw [← sound.schema_eq]
        rfl
      exact { sound with
        schema_eq := sound.schema_eq
        resolved := same ▸ sound.saved values member }

theorem of_reachable (defaults : (Store.fresh schema).Resolved)
    (reachable : Reachable schema history) : Sound schema history := by
  induction reachable with
  | fresh => exact { schema_eq := rfl, resolved := defaults, saved := by simp }
  | step _ done induction => exact induction.step defaults done

end Store.History.Sound

namespace Store

/-- An assignment that succeeds gives its own parameter a value and takes none from
another.  So where the defaults of a schema all have values, every parameter has one
in every store that can be reached. -/
theorem resolves_of_reachable :
    (∀ (store next : Store) (requested : String) (input : Input) (raw : Scalar),
      store.set requested input = .ok (next, raw) →
        next.Resolves requested ∧
          ∀ name ∈ store.schema.names, store.Resolves name → next.Resolves name) ∧
      ∀ schema : Schema, (∀ name ∈ schema.names, (fresh schema).Resolves name) →
        ∀ history, History.Reachable schema history →
          ∀ name ∈ schema.names, history.store.Resolves name := by
  constructor
  · intro store next requested input raw assigned
    obtain ⟨⟨name, resolved, own⟩, others⟩ := hasValue_of_set assigned
    have sameSchema := schema_of_set assigned
    have resolvedNext (other : String) : next.resolveName other = store.resolveName other := by
      unfold resolveName tool
      rw [sameSchema]
    constructor
    · exact (resolves_iff ((resolvedNext requested).trans resolved)).mpr own
    · intro other declared valued
      have itself := resolveName_of_mem declared
      exact (resolves_iff ((resolvedNext other).trans itself)).mpr
        (others other ((resolves_iff itself).mp valued))
  · intro schema defaults history reachable name declared
    have resolvedDefaults : (fresh schema).Resolved := by
      intro other declaredOther
      exact (resolves_iff (resolveName_of_mem declaredOther)).mp (defaults other declaredOther)
    have sound := History.Sound.of_reachable resolvedDefaults reachable
    have declaredHere : name ∈ history.store.schema.names := sound.schema_eq ▸ declared
    exact (resolves_iff (resolveName_of_mem declaredHere)).mpr (sound.resolved name declaredHere)

/-- A parameter whose default is the value of another one. -/
def linked : Schema :=
  { name := "linked", kind := .parameterFile, executable := none, required := []
    optional := [
      { name := "peak", type := .real, help := "", default := .text ")base", required := false,
        mode := "h", constraint := none },
      { name := "base", type := .real, help := "", default := .null, required := false,
        mode := "h", constraint := none }] }

/-- A linked schema whose base was given a value. -/
def basedLinked : Store :=
  (fresh linked).put "base" (.literal (.number (.ofNat 3)))

def basedHistory : History :=
  { store := ((assign "base" (.scalar (.number (.ofNat 3)))).perform .empty (fresh linked)).2.2
    saved := [] }

/-- A linked parameter keeps a value when what it is linked to changes. -/
theorem resolves_linked :
    (basedLinked.Resolves "base" ∧ basedLinked.Resolves "peak") ∧
      basedHistory.store.Resolves "peak" := by
  have defaults : ∀ name ∈ linked.names, (fresh linked).Resolves name := by
    intro name declared
    have base : Chain (fresh linked) "base" ["base"] .null := .ends rfl
    have peak : Chain (fresh linked) "peak" ["peak", "base"] .null :=
      .passes rfl (by decide) base
    rw [resolves_iff (resolveName_of_mem declared), hasValue_iff_chain]
    rcases List.mem_cons.mp declared with rfl | later
    · exact ⟨_, _, peak⟩
    · rw [List.mem_singleton.mp later]
      exact ⟨_, _, base⟩
  have assigned : (fresh linked).set "base" (.scalar (.number (.ofNat 3))) =
      .ok (basedLinked, .number (.ofNat 3)) := by
    decide +kernel
  have done : History.Step { store := fresh linked, saved := [] } basedHistory := by
    unfold basedHistory
    with_reducible exact .assign _ "base" _ .empty
  obtain ⟨own, others⟩ := resolves_of_reachable.1 _ _ _ _ _ assigned
  exact ⟨⟨own, others "peak" (by decide) (defaults "peak" (by decide))⟩,
    resolves_of_reachable.2 linked defaults basedHistory (.step .fresh done) "peak" (by decide)⟩

end Store

end ToolParams
