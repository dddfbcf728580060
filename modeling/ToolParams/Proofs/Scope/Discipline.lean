import Mathlib.Data.List.Nodup
import ToolParams.Proofs.Scope.Entering
import ToolParams.Proofs.SearchPath

/-!
# The discipline of scopes

Whatever calls are made on a manager, and however they end, the scopes entered and not
left form a stack.  Each holds the value that the search path variable had below it, so
the variable has the value of the innermost one, or its first value when none is left.
-/

namespace ToolParams.ScopeManager

/-- What happened on a manager up to a moment, as the scopes that were entered and those
that were left, the latest first.  Calls come one after another; between them files may
change and fresh names may be given out, but nobody else changes variables. -/
inductive History (start : World) (pathVariable scratch : String) :
    List Scope → List Scope → World × ScopeManager → Prop where
  | idle : History start pathVariable scratch [] [] (start, .idle pathVariable scratch)
  | meanwhile {entered left : List Scope} {moment later : World × ScopeManager} :
      History start pathVariable scratch entered left moment →
      Steady moment later →
      History start pathVariable scratch entered left later
  | enter {entered left : List Scope} {moment next : World × ScopeManager}
      {options : ScopeOptions} {scope : Scope} :
      History start pathVariable scratch entered left moment →
      (enter options).perform moment.1 moment.2 = (.ok scope, next) →
      History start pathVariable scratch (scope :: entered) left next
  | enterInVain {entered left : List Scope} {moment next : World × ScopeManager}
      {options : ScopeOptions} {failure : Failure} :
      History start pathVariable scratch entered left moment →
      (enter options).perform moment.1 moment.2 = (.error failure, next) →
      History start pathVariable scratch entered left next
  | leave {entered left : List Scope} {moment next : World × ScopeManager} {scope : Scope} :
      History start pathVariable scratch entered left moment →
      (scope ∈ entered ∨ scope.id ∉ entered.map Scope.id) →
      (leave scope).perform moment.1 moment.2 = (.ok (), next) →
      History start pathVariable scratch entered (scope :: left) next
  | leaveInVain {entered left : List Scope} {moment next : World × ScopeManager}
      {scope : Scope} {failure : Failure} :
      History start pathVariable scratch entered left moment →
      (leave scope).perform moment.1 moment.2 = (.error failure, next) →
      History start pathVariable scratch entered left next

/-- The scopes that were entered and not left. -/
def opened (entered left : List Scope) : List Scope :=
  entered.filter (· ∉ left)

theorem opened_cons {entered left : List Scope} {scope : Scope} (notLeft : scope ∉ left) :
    opened (scope :: entered) left = scope :: opened entered left :=
  List.filter_cons_of_pos (decide_eq_true notLeft)

theorem opened_left {entered left outer : List Scope} {scope : Scope}
    (distinct : entered.Nodup) (isOpened : opened entered left = scope :: outer) :
    opened entered (scope :: left) = outer := by
  have split : opened entered (scope :: left) = (opened entered left).filter (· ≠ scope) := by
    rw [opened, opened, List.filter_filter]
    congr 1
    funext other
    simp [not_or]
  have notOuter : scope ∉ outer :=
    (List.nodup_cons.mp (isOpened ▸ distinct.filter _ : (scope :: outer).Nodup)).1
  rw [split, isOpened, List.filter_cons_of_neg (by simp), List.filter_eq_self]
  exact fun other member => decide_eq_true fun same => notOuter (same ▸ member)

def valueOn (initial : Option String) : List Scope → Option String
  | [] => initial
  | innermost :: _ => some innermost.searchPath

/-- Each scope holds the value that the variable had before it. -/
def Chained (initial : Option String) : List Scope → Prop
  | [] => True
  | innermost :: outer => innermost.previous = valueOn initial outer ∧ Chained initial outer

/-- What holds of the variables and of the scopes at every point of a history. -/
structure Nested (start : World) (pathVariable : String) (entered left : List Scope)
    (world : World) (manager : ScopeManager) : Prop where
  watched : manager.pathVariable = pathVariable
  active : manager.active = opened entered left
  balance : manager.depth + left.length = entered.length
  chained : Chained (start.environment.get? pathVariable) manager.active
  value : world.environment.get? pathVariable =
    valueOn (start.environment.get? pathVariable) manager.active
  others : ∀ other, other ≠ pathVariable →
    world.environment.get? other = start.environment.get? other
  distinct : (entered.map Scope.id).Nodup
  given : ∀ scope ∈ entered, scope.id < world.namesGiven
  known : ∀ scope ∈ left, scope ∈ entered
  installed : ∀ scope ∈ entered, scope.environment.get? pathVariable = some scope.searchPath

namespace Nested

variable {start world after : World} {pathVariable : String} {entered left : List Scope}
  {manager final : ScopeManager} {scope : Scope}

theorem idle (start : World) (pathVariable scratch : String) :
    Nested start pathVariable [] [] start (.idle pathVariable scratch) where
  watched := rfl
  active := rfl
  balance := rfl
  chained := trivial
  value := rfl
  others := fun _ _ => rfl
  distinct := .nil
  given := fun _ member => absurd member List.not_mem_nil
  known := fun _ member => absurd member List.not_mem_nil
  installed := fun _ member => absurd member List.not_mem_nil

theorem steady (nested : Nested start pathVariable entered left world manager)
    (steady : Steady (world, manager) (after, final)) :
    Nested start pathVariable entered left after final := by
  obtain ⟨environment, names, same⟩ := steady
  dsimp only at environment names same
  subst same
  exact {
    nested with
    value := environment ▸ nested.value
    others := environment ▸ nested.others
    given := fun scope member => Nat.lt_of_lt_of_le (nested.given scope member) names }

theorem eq_of_id (nested : Nested start pathVariable entered left world manager)
    {other : Scope} (isEntered : scope ∈ entered) (otherEntered : other ∈ entered)
    (same : scope.id = other.id) : scope = other :=
  List.inj_on_of_nodup_map nested.distinct isEntered otherEntered same

theorem enter (nested : Nested start pathVariable entered left world manager)
    (step : Entered world manager scope after final) :
    Nested start pathVariable (scope :: entered) left after final := by
  obtain ⟨⟨unused, given⟩, previous, environment, forTools, rfl⟩ := step
  have isNew : scope.id ∉ entered.map Scope.id := by
    intro member
    obtain ⟨other, isEntered, same⟩ := List.mem_map.mp member
    have := nested.given other isEntered
    omega
  have notLeft : scope ∉ left := fun member =>
    isNew (List.mem_map_of_mem (nested.known scope member))
  rw [nested.watched] at previous environment
  constructor
  · exact nested.watched
  · dsimp only
    rw [opened_cons notLeft, nested.active]
  · have := nested.balance
    simp only [depth, List.length_cons] at this ⊢
    omega
  · exact ⟨previous.trans nested.value, nested.chained⟩
  · rw [environment, OrderedMap.get?_insert, if_pos rfl]
    rfl
  · intro other different
    rw [environment, OrderedMap.get?_insert, if_neg different.symm]
    exact nested.others other different
  · exact List.nodup_cons.mpr ⟨isNew, nested.distinct⟩
  · intro other member
    rcases List.mem_cons.mp member with rfl | before
    · exact given
    · have := nested.given other before
      omega
  · exact fun other member => List.mem_cons_of_mem _ (nested.known other member)
  · intro other member
    rcases List.mem_cons.mp member with rfl | before
    · rw [forTools, environment, OrderedMap.get?_insert, if_pos rfl]
    · exact nested.installed other before

theorem entered_of_active (nested : Nested start pathVariable entered left world manager)
    (isActive : scope ∈ manager.active) : scope ∈ entered := by
  rw [nested.active] at isActive
  exact (List.mem_filter.mp isActive).1

theorem eq_innermost (nested : Nested start pathVariable entered left world manager)
    {innermost : Scope} {outer : List Scope} (active : manager.active = innermost :: outer)
    (genuine : scope ∈ entered ∨ scope.id ∉ entered.map Scope.id)
    (same : innermost.id = scope.id) : scope = innermost := by
  have isEntered : innermost ∈ entered :=
    nested.entered_of_active (active ▸ List.mem_cons_self)
  rcases genuine with known | stranger
  · exact nested.eq_of_id known isEntered same.symm
  · exact absurd (same ▸ List.mem_map_of_mem isEntered) stranger

theorem leave (nested : Nested start pathVariable entered left world manager)
    (genuine : scope ∈ entered ∨ scope.id ∉ entered.map Scope.id)
    (step : Left world manager scope after final) :
    Nested start pathVariable entered (scope :: left) after final := by
  obtain ⟨names, restored, innermost, outer, active, same, rfl⟩ := step
  obtain rfl := nested.eq_innermost active genuine same
  obtain ⟨previous, chained⟩ := active ▸ nested.chained
  rw [nested.watched] at restored
  have isOpened : opened entered left = scope :: outer := nested.active ▸ active
  constructor
  · exact nested.watched
  · exact (opened_left (List.Nodup.of_map _ nested.distinct) isOpened).symm
  · have := nested.balance
    simp only [depth, active, List.length_cons] at this ⊢
    omega
  · exact chained
  · rw [restored, get?_setVariable, if_pos rfl, previous]
  · intro other different
    rw [restored, get?_setVariable, if_neg different]
    exact nested.others other different
  · exact nested.distinct
  · exact fun other member => Nat.lt_of_lt_of_le (nested.given other member) names
  · intro other member
    rcases List.mem_cons.mp member with rfl | before
    · exact nested.entered_of_active (active ▸ List.mem_cons_self)
    · exact nested.known other before
  · exact nested.installed

end Nested

variable {start : World} {pathVariable scratch : String} {entered left : List Scope}
  {moment : World × ScopeManager}

/-- The invariant of scopes holds at every point of a history. -/
theorem nested_of_history
    (history : History start pathVariable scratch entered left moment) :
    Nested start pathVariable entered left moment.1 moment.2 := by
  induction history with
  | idle => exact .idle start pathVariable scratch
  | meanwhile _ steady nested => exact nested.steady steady
  | @enter _ _ moment _ options _ _ performed nested =>
      rcases perform_enter options moment.1 moment.2 with
        ⟨scope, after, final, other, step⟩ | ⟨failure, after, final, other, steady⟩
      · cases performed.symm.trans other
        exact nested.enter step
      · cases performed.symm.trans other
  | @enterInVain _ _ moment _ options _ _ performed nested =>
      rcases perform_enter options moment.1 moment.2 with
        ⟨scope, after, final, other, step⟩ | ⟨failure, after, final, other, steady⟩
      · cases performed.symm.trans other
      · cases performed.symm.trans other
        exact nested.steady steady
  | @leave _ _ moment _ scope _ genuine performed nested =>
      rcases perform_leave scope moment.1 moment.2 with
        ⟨after, final, other, step⟩ | ⟨outside, other⟩
      · cases performed.symm.trans other
        exact nested.leave genuine step
      · cases performed.symm.trans other
  | @leaveInVain _ _ moment _ scope _ _ performed nested =>
      rcases perform_leave scope moment.1 moment.2 with
        ⟨after, final, other, step⟩ | ⟨outside, other⟩
      · cases performed.symm.trans other
      · cases performed.symm.trans other
        exact nested

/-- What holds of the variables and of the calls at every point of a history. -/
structure Disciplined (start : World) (pathVariable : String) (entered left : List Scope)
    (world : World) (manager : ScopeManager) : Prop where
  /-- the scopes that are entered are those that were not left, and each was left once -/
  active : manager.active = opened entered left
  depth : manager.depth + left.length = entered.length
  /-- the variable has the value that the innermost scope gave it, or its first value -/
  value : world.environment.get? pathVariable =
    match manager.active.head? with
    | some innermost => innermost.environment.get? pathVariable
    | none => start.environment.get? pathVariable
  /-- no other variable changes -/
  others : ∀ other, other ≠ pathVariable →
    world.environment.get? other = start.environment.get? other
  /-- entering puts the directory of the scope in front of the system directories -/
  enters : ∀ options scope after final,
    (enter options).perform world manager = (.ok scope, after, final) →
      final.active = scope :: manager.active ∧ scope.environment = after.environment ∧
      after.environment.get? pathVariable = some (SearchPath.write
        { user := [scope.directory]
          system := (SearchPath.ofVariable (world.environment.get? pathVariable)).system })
  /-- a scope that cannot be entered changes neither the variables nor the scopes -/
  refuses : ∀ options failure after final,
    (enter options).perform world manager = (.error failure, after, final) →
      after.environment = world.environment ∧ final = manager
  /-- exactly the innermost scope can be left -/
  leaves : ∀ scope, scope ∈ entered ∨ scope.id ∉ entered.map Scope.id →
    (((leave scope).perform world manager).1 = .ok () ↔ manager.active.head? = some scope)
  /-- a scope that cannot be left changes neither the variables nor the scopes -/
  stays : ∀ scope failure after final,
    (leave scope).perform world manager = (.error failure, after, final) →
      after.environment = world.environment ∧ final = manager
  /-- the system directories are those of the first value -/
  system : (∀ scope ∈ manager.active, ';' ∉ scope.directory.toList) →
    (SearchPath.ofVariable (world.environment.get? pathVariable)).system =
      (SearchPath.ofVariable (start.environment.get? pathVariable)).system

/-- Each scope keeps the system directories of the value below it. -/
theorem system_valueOn {initial : Option String} {scopes : List Scope}
    (chained : Chained initial scopes)
    (apart : ∀ scope ∈ scopes, ';' ∉ scope.directory.toList) :
    (SearchPath.ofVariable (valueOn initial scopes)).system =
      (SearchPath.ofVariable initial).system := by
  induction scopes with
  | nil => rfl
  | cons innermost outer induction =>
      obtain ⟨previous, chained⟩ := chained
      calc (SearchPath.ofVariable (valueOn initial (innermost :: outer))).system
          = (SearchPath.ofVariable innermost.previous).system :=
            SearchPath.system_read_write (apart innermost List.mem_cons_self) _
        _ = (SearchPath.ofVariable (valueOn initial outer)).system := by rw [previous]
        _ = (SearchPath.ofVariable initial).system :=
            induction chained fun scope member => apart scope (List.mem_cons_of_mem _ member)

/-- Scopes nest, however they are entered and left. -/
theorem disciplined_of_history
    (history : History start pathVariable scratch entered left moment) :
    Disciplined start pathVariable entered left moment.1 moment.2 := by
  have nested := nested_of_history history
  constructor
  case active => exact nested.active
  case depth => exact nested.balance
  case value =>
    rw [nested.value]
    cases active : moment.2.active with
    | nil => rfl
    | cons innermost outer =>
        have isEntered := nested.entered_of_active (active ▸ List.mem_cons_self)
        exact (nested.installed innermost isEntered).symm
  case others => exact nested.others
  case enters =>
    intro options scope after final performed
    rcases perform_enter options moment.1 moment.2 with
      ⟨scope, after, final, other, step⟩ | ⟨failure, after, final, other, steady⟩
    · cases performed.symm.trans other
      obtain ⟨_, previous, environment, forTools, rfl⟩ := step
      rw [nested.watched] at environment previous
      refine ⟨rfl, forTools, ?_⟩
      rw [environment, OrderedMap.get?_insert, if_pos rfl, Scope.searchPath, previous]
    · cases performed.symm.trans other
  case refuses =>
    intro options failure after final performed
    rcases perform_enter options moment.1 moment.2 with
      ⟨scope, after, final, other, step⟩ | ⟨failure, after, final, other, steady⟩
    · cases performed.symm.trans other
    · cases performed.symm.trans other
      exact ⟨steady.environment, steady.state⟩
  case leaves =>
    intro scope genuine
    rcases perform_leave scope moment.1 moment.2 with
      ⟨after, final, performed, step⟩ | ⟨outside, performed⟩
    · obtain ⟨_, _, innermost, outer, active, same, _⟩ := step
      rw [performed, active, nested.eq_innermost active genuine same]
      simp
    · rw [performed]
      refine ⟨fun succeeds => (by cases succeeds), fun isFirst => ?_⟩
      exact absurd rfl (outside scope isFirst)
  case stays =>
    intro scope failure after final performed
    rcases perform_leave scope moment.1 moment.2 with
      ⟨after, final, other, step⟩ | ⟨outside, other⟩
    · cases performed.symm.trans other
    · cases performed.symm.trans other
      exact ⟨rfl, rfl⟩
  case system =>
    intro apart
    rw [nested.value]
    exact system_valueOn nested.chained apart

/-- Variables with a private directory in the search path. -/
def homeWorld : World :=
  { World.empty with environment := .ofList [("PFILES", "own;shared"), ("HOME", "own")] }

/-- The first scope entered at home. -/
def outerScope : Scope where
  id := 1
  directory := "pfiles-000000"
  environment := .ofList [("PFILES", "pfiles-000000;shared"), ("HOME", "own")]
  previous := some "own;shared"
  copied := []
  owned := true

/-- A scope entered inside the first one. -/
def innerScope : Scope where
  id := 3
  directory := "pfiles-000002"
  environment := .ofList [("PFILES", "pfiles-000002;shared"), ("HOME", "own")]
  previous := some "pfiles-000000;shared"
  copied := []
  owned := true

/-- The moments of a session at home: the first scope is entered, then the second, the
first cannot be left, and the second is left. -/
def inOuter : World × ScopeManager :=
  ((enter .none).perform homeWorld (.idle "PFILES" "")).2

def inInner : World × ScopeManager := ((enter .none).perform inOuter.1 inOuter.2).2

def stillInner : World × ScopeManager := ((leave outerScope).perform inInner.1 inInner.2).2

def outOfInner : World × ScopeManager :=
  ((leave innerScope).perform stillInner.1 stillInner.2).2

theorem history_home :
    History homeWorld "PFILES" "" [innerScope, outerScope] [innerScope] outOfInner := by
  have first : (enter .none).perform homeWorld (.idle "PFILES" "") =
      (.ok outerScope, inOuter) := Action.perform_eq (by decide +kernel)
  have second : (enter .none).perform inOuter.1 inOuter.2 = (.ok innerScope, inInner) :=
    Action.perform_eq (by decide +kernel)
  have third : (leave outerScope).perform inInner.1 inInner.2 =
      (.error (.scope (.notInnermost "pfiles-000000")), stillInner) :=
    Action.perform_eq (by decide +kernel)
  have fourth : (leave innerScope).perform stillInner.1 stillInner.2 = (.ok (), outOfInner) :=
    Action.perform_eq (by decide +kernel)
  have inside : History homeWorld "PFILES" "" [innerScope, outerScope] [] stillInner :=
    .leaveInVain (.enter (.enter .idle first) second) third
  exact .leave inside (.inl List.mem_cons_self) fourth

theorem disciplined_home :
    Disciplined homeWorld "PFILES" [innerScope, outerScope] [innerScope] outOfInner.1
        outOfInner.2 ∧
      outOfInner.1.environment.get? "PFILES" = some "pfiles-000000;shared" :=
  ⟨disciplined_of_history history_home, by decide +kernel⟩

end ToolParams.ScopeManager
