import ToolParams.Proofs.Action
import ToolParams.Proofs.Store.Assignment
import ToolParams.Store.Session

/-!
# Assignments as actions

An assignment does to the store what the pure operation says and to the world
nothing but new entries in the journal.  An action that works on a store in this
way can be undone: performed with `orRestore`, it leaves the store as it was when
it fails.
-/

namespace ToolParams.Store

/-- Work on a store: the world gets new entries in its journal, the store is changed
by successful assignments. -/
def Worked (before after : World × Store) : Prop :=
  before.1.Noted after.1 ∧ before.2.Assigned after.2

namespace Worked

theorem refl (point : World × Store) : Worked point point :=
  ⟨.refl _, .refl⟩

theorem trans {first second third : World × Store} (early : Worked first second)
    (late : Worked second third) : Worked first third :=
  ⟨early.1.trans late.1, early.2.trans late.2⟩

theorem pure {α : Type} (value : α) :
    Action.Within Worked (Pure.pure value : Action Store α) :=
  Action.Within.pure refl value

theorem throw {α : Type} (failure : Failure) :
    Action.Within Worked (MonadExcept.throw failure : Action Store α) :=
  Action.Within.throw refl failure

theorem bind {α β : Type} {action : Action Store α} {next : α → Action Store β}
    (first : Action.Within Worked action)
    (later : ∀ value, Action.Within Worked (next value)) :
    Action.Within Worked (action >>= next) :=
  Action.Within.bind (fun early late => early.trans late) first later

end Worked

theorem perform_noteCheck {σ : Type} (store : Store) (requested : String) (input : Input)
    (world : World) (state : σ) :
    ∃ noted, world.Noted noted ∧
      (store.noteCheck requested input).perform world state = (.ok (), noted, state) := by
  unfold noteCheck
  cases store.declaration requested with
  | error fault => exact ⟨world, .refl world, rfl⟩
  | ok declaration => exact ⟨_, .note .., rfl⟩

/-- What an assignment gives and what it makes of the store. -/
def afterSet (store : Store) (requested : String) (input : Input) :
    Except Failure Scalar × Store :=
  match store.set requested input with
  | .ok (next, raw) => (.ok raw, next)
  | .error fault => (.error (.store fault), store)

theorem afterSet_of_ok {store next : Store} {requested : String} {input : Input} {raw : Scalar}
    (assigned : store.set requested input = .ok (next, raw)) :
    store.afterSet requested input = (.ok raw, next) := by
  rw [afterSet, assigned]

theorem afterSet_of_error {store : Store} {requested : String} {input : Input}
    {fault : StoreFault} (refused : store.set requested input = .error fault) :
    store.afterSet requested input = (.error (.store fault), store) := by
  rw [afterSet, refused]

theorem perform_assign (requested : String) (input : Input) (world : World)
    (store : Store) :
    ∃ noted, world.Noted noted ∧
      (assign requested input).perform world store =
        ((store.afterSet requested input).1, noted, (store.afterSet requested input).2) := by
  obtain ⟨checked, first, performed⟩ :=
    store.perform_noteCheck requested input world store
  unfold assign afterSet
  simp only [Action.perform_bind, Action.perform_state, performed, Action.perform_lift]
  cases assigned : store.set requested input with
  | error fault => exact ⟨checked, first, rfl⟩
  | ok result =>
      obtain ⟨next, raw⟩ := result
      obtain ⟨name, _, _, resolved, _⟩ := set_eq_ok assigned
      rw [resolved]
      exact ⟨_, first.trans (.note ..), rfl⟩

theorem assigned_afterSet (store : Store) (requested : String) (input : Input) :
    store.Assigned (store.afterSet requested input).2 := by
  unfold afterSet
  cases assigned : store.set requested input with
  | error fault => exact .refl
  | ok result => exact .set .refl assigned

theorem worked_assign (requested : String) (input : Input) :
    Action.Within Worked (assign requested input) := by
  intro world store
  obtain ⟨noted, first, performed⟩ := perform_assign requested input world store
  rw [performed]
  exact ⟨first, store.assigned_afterSet requested input⟩

theorem restore_values {store final : Store} (sameSchema : final.schema = store.schema) :
    final.restore store.values = store := by
  cases store
  cases sameSchema
  rfl

theorem perform_orRestore {α : Type} {action : Action Store α}
    (works : Action.Within Worked action) (world : World) (store : Store) :
    (orRestore action).perform world store =
      match action.perform world store with
      | (.ok value, after, final) => (.ok value, after, final)
      | (.error failure, after, _) => (.error failure, after, store) := by
  have step := works world store
  unfold orRestore
  simp only [Action.perform_bind, Action.perform_state, Action.perform_outcome]
  rcases performed : action.perform world store with ⟨failure | value, after, final⟩
  · rw [performed] at step
    simp [snapshot, restore_values step.2.schema_eq]
  · simp

end ToolParams.Store
