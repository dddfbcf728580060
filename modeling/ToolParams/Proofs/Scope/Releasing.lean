import ToolParams.Proofs.Files.Emptying
import ToolParams.Proofs.Scope.Discipline

/-!
# Calls inside a scope

A body that is performed inside a scope may enter further scopes.  If it leaves all of
them, its own scope is released and its outcome is that of the call.  If it leaves one of
them open, the scope cannot be left, and this failure takes the place of the outcome.
-/

namespace ToolParams.ScopeManager

/-- What a body did inside a scope up to a moment, with the scopes that it entered and did
not leave, the innermost first.  Between its calls on the manager anything else may happen.
It never leaves the scope it is in, and so none further out. -/
inductive Errand (around : Scope) (start : World × ScopeManager) :
    List Scope → World × ScopeManager → Prop where
  | begin : Errand around start [] start
  | meanwhile {opened : List Scope} {moment later : World × ScopeManager} :
      Errand around start opened moment →
      moment.1.namesGiven ≤ later.1.namesGiven →
      later.2 = moment.2 →
      Errand around start opened later
  | enter {opened : List Scope} {moment next : World × ScopeManager}
      {options : ScopeOptions} {scope : Scope} :
      Errand around start opened moment →
      (enter options).perform moment.1 moment.2 = (.ok scope, next) →
      Errand around start (scope :: opened) next
  | enterInVain {opened : List Scope} {moment next : World × ScopeManager}
      {options : ScopeOptions} {failure : Failure} :
      Errand around start opened moment →
      (enter options).perform moment.1 moment.2 = (.error failure, next) →
      Errand around start opened next
  | leave {opened : List Scope} {moment next : World × ScopeManager} {scope : Scope} :
      Errand around start opened moment →
      scope.id ≠ around.id →
      (leave scope).perform moment.1 moment.2 = (.ok (), next) →
      Errand around start opened.tail next
  | leaveInVain {opened : List Scope} {moment next : World × ScopeManager} {scope : Scope}
      {failure : Failure} :
      Errand around start opened moment →
      (leave scope).perform moment.1 moment.2 = (.error failure, next) →
      Errand around start opened next

/-- The scopes of an errand stand on those that were there when it began. -/
structure Stacked (around : Scope) (start : World × ScopeManager) (opened : List Scope)
    (moment : World × ScopeManager) : Prop where
  manager : moment.2 = { start.2 with active := opened ++ start.2.active }
  names : start.1.namesGiven ≤ moment.1.namesGiven
  further : ∀ scope ∈ opened, scope.id ≠ around.id

variable {world entered last after : World} {manager inside left kept : ScopeManager}
  {around scope : Scope} {start moment next : World × ScopeManager} {opened : List Scope}

namespace Stacked

theorem enter (stacked : Stacked around start opened moment)
    (given : around.id < start.1.namesGiven)
    (step : Entered moment.1 moment.2 scope next.1 next.2) :
    Stacked around start (scope :: opened) next := by
  obtain ⟨⟨unused, isGiven⟩, _, _, _, active⟩ := step
  have names := stacked.names
  constructor
  · rw [active, stacked.manager]
    rfl
  · omega
  · intro other member
    rcases List.mem_cons.mp member with rfl | before
    · omega
    · exact stacked.further other before

theorem leave (stacked : Stacked around start opened moment)
    (atTop : start.2.active.head? = some around) (different : scope.id ≠ around.id)
    (step : Left moment.1 moment.2 scope next.1 next.2) :
    Stacked around start opened.tail next := by
  obtain ⟨names, _, innermost, outer, active, same, kept⟩ := step
  rw [stacked.manager] at active kept
  cases opened with
  | nil =>
      -- only the scope around could be left here
      rw [List.nil_append] at active
      rw [active] at atTop
      cases atTop
      exact absurd same.symm different
  | cons top rest =>
      cases active
      refine ⟨kept, Nat.le_trans stacked.names names, ?_⟩
      intro other member
      exact stacked.further other (List.mem_cons_of_mem _ member)

end Stacked

theorem stacked_of_errand (entry : Entered world manager around start.1 start.2)
    (errand : Errand around start opened moment) : Stacked around start opened moment := by
  have given : around.id < start.1.namesGiven := entry.fresh.2
  have atTop : start.2.active.head? = some around := by
    rw [entry.active]
    rfl
  induction errand with
  | begin => exact ⟨rfl, Nat.le_refl _, fun _ member => absurd member List.not_mem_nil⟩
  | meanwhile _ names same stacked =>
      exact ⟨same.trans stacked.manager, Nat.le_trans stacked.names names, stacked.further⟩
  | enter _ performed stacked => exact stacked.enter given (entered_of_enter performed)
  | enterInVain _ performed stacked =>
      have steady := steady_of_enter performed
      exact ⟨steady.state.trans stacked.manager, Nat.le_trans stacked.names steady.names,
        stacked.further⟩
  | leave _ different performed stacked =>
      exact stacked.leave atTop different (left_of_leave performed)
  | leaveInVain _ performed stacked =>
      obtain ⟨_, sameWorld, sameManager⟩ := same_of_leave performed
      rwa [Prod.ext sameWorld sameManager]

section Within

variable {τ α : Type} {options : ScopeOptions} {body : Scope → Action (ScopeManager × τ) α}
  {state final : τ} {outcome result : Except Failure α} {failure : Failure}

theorem perform_within
    (entering : (enter options).perform world manager = (.ok scope, entered, inside))
    (performed : (body scope).perform entered (inside, state) = (outcome, last, left, final)) :
    (within options body).perform world (manager, state) =
      match (leave scope).perform last left with
      | (.ok _, after, kept) => (outcome, after, kept, final)
      | (.error failure, after, kept) => (.error failure, after, kept, final) := by
  simp only [within, Action.perform_bind, Action.perform_onFirst, entering,
    Action.perform_outcome, performed]
  rcases (leave scope).perform last left with ⟨failure | _, after, kept⟩
  · rfl
  · simp only [Action.perform_yield]

theorem perform_within_error
    (entering : (enter options).perform world manager = (.error failure, entered, inside)) :
    (within options body).perform world (manager, state) =
      (.error failure, entered, inside, state) := by
  simp only [within, Action.perform_bind, Action.perform_onFirst, entering]

/-- A call inside a scope, with a body that does its own errand, is part of an errand. -/
theorem errand_within (entry : Entered world manager around start.1 start.2)
    (errand : Errand around start opened moment)
    (body_errand : ∀ scope entered inside outcome last left final,
      Errand around start (scope :: opened) (entered, inside) →
      (body scope).perform entered (inside, state) = (outcome, last, left, final) →
      ∃ further, Errand around start further (last, left))
    (performed :
      (within options body).perform moment.1 (moment.2, state) = (result, after, kept, final)) :
    ∃ further, Errand around start further (after, kept) := by
  rcases entering : (enter options).perform moment.1 moment.2 with
    ⟨failure | scope, entered, inside⟩
  · rw [perform_within_error entering] at performed
    cases performed
    exact ⟨opened, errand.enterInVain entering⟩
  · rcases visiting : (body scope).perform entered (inside, state) with
      ⟨outcome, last, left, final⟩
    have begun : Errand around start (scope :: opened) (entered, inside) :=
      errand.enter entering
    obtain ⟨further, visited⟩ := body_errand _ _ _ _ _ _ _ begun visiting
    rw [perform_within entering visiting] at performed
    rcases leaving : (leave scope).perform last left with ⟨failure | _, away, rest⟩
    · rw [leaving] at performed
      cases performed
      exact ⟨further, visited.leaveInVain leaving⟩
    · rw [leaving] at performed
      cases performed
      have different : scope.id ≠ around.id :=
        (stacked_of_errand entry begun).further scope List.mem_cons_self
      exact ⟨further.tail, visited.leave different leaving⟩

/-- What a call leaves when it has released its scope. -/
structure Releases (scope : Scope) (world last after : World) (pathVariable : String) :
    Prop where
  /-- the variable has the value it had before the call -/
  value : after.environment.get? pathVariable = world.environment.get? pathVariable
  /-- other variables stay as the body left them -/
  others : ∀ other, other ≠ pathVariable →
    after.environment.get? other = last.environment.get? other
  files : after.files =
    if scope.owned then (last.files.remove scope.directory true).2 else last.files
  /-- a directory that was made for the scope is gone, if its removal reports no fault -/
  gone : scope.owned = true → last.files.Rooted → ¬last.files.Spares scope.directory →
    (last.files.remove scope.directory true).1 = .ok () → ¬after.files.HasAt scope.directory

/-- A call releases its scope and ends as its body did, if the body left every scope that
it entered.  Otherwise the scope stays entered, and the call fails for that reason. -/
theorem within_of_errand
    (entering : (enter options).perform world manager = (.ok scope, entered, inside))
    (performed : (body scope).perform entered (inside, state) = (outcome, last, left, final))
    (errand : Errand scope (entered, inside) opened (last, left)) :
    ∃ result after kept,
      (within options body).perform world (manager, state) = (result, after, kept, final) ∧
      (opened = [] → result = outcome ∧ kept = manager ∧
        Releases scope world last after manager.pathVariable) ∧
      (opened ≠ [] → result = .error (.scope (.notInnermost scope.directory)) ∧
        after = last ∧ kept = left ∧ kept.depth = manager.depth + 1 + opened.length) := by
  have entry := entered_of_enter entering
  have stacked : Stacked scope (entered, inside) opened (last, left) :=
    stacked_of_errand entry errand
  have standing : left = { manager with active := opened ++ scope :: manager.active } := by
    have kept := stacked.manager
    rwa [entry.active] at kept
  rw [perform_within entering performed]
  cases opened with
  | nil =>
      rcases perform_leave scope last left with ⟨after, kept, leaving, step⟩ | ⟨outside, _⟩
      · rw [leaving]
        refine ⟨outcome, after, kept, rfl, fun _ => ⟨rfl, ?_, ?_⟩, fun some => absurd rfl some⟩
        · obtain ⟨_, _, innermost, outer, active, _, rfl⟩ := step
          rw [standing] at active ⊢
          cases active
          rfl
        · have watched : left.pathVariable = manager.pathVariable := by rw [standing]
          have restored := watched ▸ step.environment
          constructor
          · rw [restored, get?_setVariable, if_pos rfl, entry.previous]
          · intro other different
            rw [restored, get?_setVariable, if_neg different]
          · exact files_of_leave leaving
          · intro owned rooted unspared removed
            rw [files_of_leave leaving, if_pos owned]
            exact FileTree.not_hasAt_of_remove_eq_ok rooted unspared removed
      · refine absurd rfl (outside scope ?_)
        rw [standing]
        rfl
  | cons top rest =>
      rcases perform_leave scope last left with ⟨after, kept, leaving, step⟩ | ⟨_, leaving⟩
      · obtain ⟨_, _, innermost, outer, active, same, _⟩ := step
        rw [standing] at active
        cases active
        exact absurd same (stacked.further top List.mem_cons_self)
      · rw [leaving]
        refine ⟨_, last, left, rfl, (fun none => (by cases none)), fun _ => ⟨rfl, rfl, rfl, ?_⟩⟩
        rw [standing]
        simp only [depth, List.length_append, List.length_cons]
        omega

end Within

/-- A body that makes a call inside a further scope, and then fails. -/
def failingVisit (_ : Scope) : Action (ScopeManager × Unit) Unit := do
  within .none fun _ => pure ()
  throw (.raised "tired")

theorem errand_failingVisit {outcome : Except Failure Unit} {final : Unit}
    (entry : Entered world manager around start.1 start.2)
    (performed :
      (failingVisit scope).perform start.1 (start.2, ()) = (outcome, last, left, final)) :
    ∃ further, Errand around start further (last, left) := by
  rcases nested : (within .none fun _ => pure ()).perform start.1 (start.2, ()) with
    ⟨result, after, kept, ending⟩
  have inner : ∃ further, Errand around start further (after, kept) := by
    refine errand_within entry .begin ?_ nested
    intro _ _ _ _ _ _ _ begun idle
    cases idle
    exact ⟨_, begun⟩
  rw [failingVisit, Action.perform_bind, nested] at performed
  cases result with
  | error failure =>
      cases performed
      exact inner
  | ok _ =>
      cases performed
      exact inner

/-- What the body leaves when it is performed in the first scope at home. -/
def afterVisit : World × ScopeManager × Unit :=
  ((failingVisit outerScope).perform inOuter.1 (inOuter.2, ())).2

theorem within_of_errand_home :
    ∃ after kept, (within .none failingVisit).perform homeWorld (.idle "PFILES" "", ()) =
        (.error (.raised "tired"), after, kept, ()) ∧
      kept = .idle "PFILES" "" ∧ after.environment.get? "PFILES" = some "own;shared" ∧
      ¬after.files.HasAt "pfiles-000000" := by
  have entering : (enter .none).perform homeWorld (.idle "PFILES" "") =
      (.ok outerScope, inOuter) := Action.perform_eq (by decide +kernel)
  have performed : (failingVisit outerScope).perform inOuter.1 (inOuter.2, ()) =
      (.error (.raised "tired"), afterVisit) := Action.perform_eq (by decide +kernel)
  have deep : afterVisit.2.1.depth = inOuter.2.depth := by decide +kernel
  have rooted : afterVisit.1.files.Rooted := FileTree.rooted_of_keys (by decide +kernel)
  have unspared : ¬afterVisit.1.files.Spares "pfiles-000000" := by
    simp only [FileTree.Spares]
    decide +kernel
  have removed : (afterVisit.1.files.remove "pfiles-000000" true).1 = .ok () := by
    decide +kernel
  generalize inOuter = outer, afterVisit = visited at *
  obtain ⟨entered, inside⟩ := outer
  obtain ⟨last, left, final⟩ := visited
  have entry := entered_of_enter entering
  obtain ⟨opened, errand⟩ : ∃ opened, Errand outerScope (entered, inside) opened (last, left) :=
    errand_failingVisit entry performed
  -- the depth tells that nothing is left open
  have split := congrArg depth (stacked_of_errand entry errand).manager
  simp only [depth, List.length_append] at split deep
  obtain rfl : opened = [] := List.length_eq_zero_iff.mp (by omega)
  obtain ⟨result, after, kept, calls, releases, -⟩ :=
    within_of_errand entering performed errand
  obtain ⟨same, unchanged, released⟩ := releases rfl
  rw [same] at calls
  refine ⟨after, kept, calls, unchanged, ?_, released.gone rfl rooted unspared removed⟩
  exact released.value.trans (by decide +kernel)

/-- A body that enters a further scope and does not leave it. -/
def openVisit (_ : Scope) : Action (ScopeManager × Unit) Unit := do
  let _ ← Action.onFirst (enter .none)

def afterCall : World × ScopeManager × Unit :=
  ((within .none openVisit).perform homeWorld (.idle "PFILES" "", ())).2

/-- A body that forgets a scope succeeds, but the call does not: both scopes stay entered,
the variable keeps the value of the inner one, and both directories stay. -/
theorem openVisit_not_released :
    Errand outerScope inOuter [innerScope] inInner ∧
      ((openVisit outerScope).perform inOuter.1 (inOuter.2, ())).1 = .ok () ∧
      ((within .none openVisit).perform homeWorld (.idle "PFILES" "", ())).1 =
        .error (.scope (.notInnermost "pfiles-000000")) ∧
      afterCall.2.1.depth = 2 ∧
      homeWorld.environment.get? "PFILES" = some "own;shared" ∧
      afterCall.1.environment.get? "PFILES" = some "pfiles-000002;shared" ∧
      afterCall.1.files.exists? "pfiles-000000" = .ok true := by
  have entering : (enter .none).perform inOuter.1 inOuter.2 = (.ok innerScope, inInner) :=
    Action.perform_eq (by decide +kernel)
  refine ⟨.enter .begin entering, ?_⟩
  decide +kernel

end ToolParams.ScopeManager
