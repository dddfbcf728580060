import ToolParams.Proofs.Scope.Populating

/-!
# Entering and leaving a scope

Making the directory of a scope and filling it leaves the variables and the scopes that
are entered as they are, however far it gets.  Only when all of it succeeded is the
search path variable set and the scope put on top; only the scope on top can be left.
-/

namespace ToolParams

/-- A later moment with the same variables and the same state.  Files, the journal and
the tools started may differ, and fresh names may have been given out. -/
structure Steady {σ : Type} (before after : World × σ) : Prop where
  environment : after.1.environment = before.1.environment
  names : before.1.namesGiven ≤ after.1.namesGiven
  state : after.2 = before.2

namespace Steady

variable {σ : Type}

theorem refl (point : World × σ) : Steady point point := ⟨rfl, Nat.le_refl _, rfl⟩

theorem trans {first second third : World × σ} (earlier : Steady first second)
    (later : Steady second third) : Steady first third :=
  ⟨later.environment.trans earlier.environment, Nat.le_trans earlier.names later.names,
    later.state.trans earlier.state⟩

end Steady

namespace Action

/-- Every performance leaves the variables and the state as they are. -/
abbrev KeepsSteady {σ α : Type} (action : Action σ α) : Prop := Within Steady action

namespace KeepsSteady

variable {σ α β : Type}

theorem pure (value : α) : KeepsSteady (Pure.pure value : Action σ α) :=
  Within.pure Steady.refl value

theorem bind {action : Action σ α} {next : α → Action σ β} (first : KeepsSteady action)
    (later : ∀ value, KeepsSteady (next value)) : KeepsSteady (action >>= next) :=
  Within.bind (fun earlier further => earlier.trans further) first later

theorem freshNumber : KeepsSteady (Action.freshNumber : Action σ Nat) :=
  fun _ _ => ⟨rfl, Nat.le_succ _, rfl⟩

theorem look (wrap : FileFault → Failure) (query : FileTree → Except FileFault α) :
    KeepsSteady (Action.look wrap query : Action σ α) :=
  Within.look Steady.refl wrap query

theorem alter (wrap : FileFault → Failure) (step : FileTree → Except FileFault FileTree) :
    KeepsSteady (Action.alter wrap step : Action σ Unit) := by
  intro world state
  rw [perform_alter]
  split
  · exact ⟨rfl, Nat.le_refl _, rfl⟩
  · exact .refl _

theorem advance (wrap : FileFault → Failure)
    (step : FileTree → Except FileFault Unit × FileTree) :
    KeepsSteady (Action.advance wrap step : Action σ Unit) := by
  intro world state
  rw [perform_advance]
  exact ⟨rfl, Nat.le_refl _, rfl⟩

end KeepsSteady

end Action

open ToolParams.Action (KeepsSteady)

namespace ScopeManager

section Filling

variable {σ : Type}

theorem keepsSteady_copyInto (source directory : String) :
    KeepsSteady (copyInto source directory : Action σ Unit) :=
  .bind (.advance _ _) fun _ => .bind (.look _ _) fun _ => .alter _ _

theorem keepsSteady_populate (manager : ScopeManager) (options : ScopeOptions)
    (searched : Option String) (directory : String) :
    KeepsSteady (populate manager options searched directory : Action σ (List String)) := by
  have admits : Admits (σ := σ) Steady (fun _ => True) directory :=
    { refl := Steady.refl
      trans := fun earlier later => earlier.trans later
      note := fun _ _ _ => ⟨rfl, Nat.le_refl _, rfl⟩
      copy := fun _ _ _ => keepsSteady_copyInto _ directory }
  exact admits.populate (fun _ _ => trivial) (fun _ _ => trivial) manager searched

theorem keepsSteady_makeDirectory (manager : ScopeManager) (options : ScopeOptions) :
    KeepsSteady (makeDirectory manager options : Action σ (String × Bool)) := by
  unfold makeDirectory
  dsimp only
  split
  · exact .bind (.look _ _) fun _ => .bind (.advance _ _) fun _ => .pure _
  · exact .bind .freshNumber fun _ => .bind (.alter _ _) fun _ => .pure _

theorem perform_removeDirectory (directory : String) (world : World) (state : σ) :
    ∃ after, (removeDirectory directory).perform world state = (.ok (), after, state) ∧
      Steady (world, state) (after, state) ∧
      (world.withFiles (world.files.remove directory true).2).SameFiles after := by
  simp only [removeDirectory, Action.perform_bind, Action.perform_outcome,
    Action.perform_advance]
  cases (world.files.remove directory true).1 with
  | ok _ => exact ⟨_, rfl, ⟨rfl, Nat.le_refl _, rfl⟩, rfl, rfl⟩
  | error fault => exact ⟨_, rfl, ⟨rfl, Nat.le_refl _, rfl⟩, rfl, rfl⟩

end Filling

end ScopeManager

/-- What the search path variable is set to in a scope: its directory, and behind it the
system directories of the former value. -/
def Scope.searchPath (scope : Scope) : String :=
  SearchPath.write
    { user := [scope.directory], system := (SearchPath.ofVariable scope.previous).system }

namespace ScopeManager

theorem get?_setVariable (environment : Environment) (name other : String)
    (value : Option String) :
    (setVariable environment name value).get? other =
      if other = name then value else environment.get? other := by
  cases value with
  | none => exact OrderedMap.get?_erase environment name other
  | some value =>
      rw [setVariable, OrderedMap.get?_insert]
      simp only [eq_comm]

variable {scope : Scope} {world : World} {manager : ScopeManager}

/-- What entering a scope changes: the variable, and the scopes that are entered. -/
structure Entered (world : World) (manager : ScopeManager) (scope : Scope) (after : World)
    (final : ScopeManager) : Prop where
  fresh : world.namesGiven ≤ scope.id ∧ scope.id < after.namesGiven
  previous : scope.previous = world.environment.get? manager.pathVariable
  environment : after.environment =
    world.environment.insert manager.pathVariable scope.searchPath
  forTools : scope.environment = after.environment
  active : final = { manager with active := scope :: manager.active }

theorem perform_enter (options : ScopeOptions) (world : World) (manager : ScopeManager) :
    (∃ scope after final, (enter options).perform world manager = (.ok scope, after, final) ∧
      Entered world manager scope after final) ∨
    (∃ failure after final,
      (enter options).perform world manager = (.error failure, after, final) ∧
        Steady (world, manager) (after, final)) := by
  simp only [enter, Action.perform_bind, Action.perform_state, Action.perform_world]
  have making := keepsSteady_makeDirectory manager options world manager
  generalize (makeDirectory manager options).perform world manager = performed at making ⊢
  rcases performed with ⟨failure | ⟨directory, owned⟩, made, inMaking⟩
  · exact .inr ⟨_, _, _, rfl, making⟩
  · dsimp only
    rw [Action.perform_outcome]
    generalize world.environment.get? manager.pathVariable = value
    have filling := keepsSteady_populate manager options value directory made inMaking
    generalize (populate manager options value directory).perform made inMaking = performed
      at filling ⊢
    have steady := making.trans filling
    rcases performed with ⟨failure | copied, filled, inFilling⟩
    · right
      cases owned with
      | false => exact ⟨_, _, _, rfl, steady⟩
      | true =>
          obtain ⟨removed, performed, removing, _⟩ :=
            perform_removeDirectory directory filled inFilling
          simp only [if_true, Action.perform_bind, performed, Action.perform_throw]
          exact ⟨_, _, _, rfl, steady.trans removing⟩
    · refine .inl ⟨_, _, _, rfl, ?_⟩
      constructor
      · exact ⟨steady.names, Nat.lt_succ_self _⟩
      · exact congrArg (OrderedMap.get? · manager.pathVariable) steady.environment
      · exact congrArg (OrderedMap.insert · manager.pathVariable _) steady.environment
      · rfl
      · rfl

/-- What leaving the innermost scope changes: the variable has its former value, and the
scope is no longer entered. -/
structure Left (world : World) (manager : ScopeManager) (scope : Scope) (after : World)
    (final : ScopeManager) : Prop where
  names : world.namesGiven ≤ after.namesGiven
  environment : after.environment =
    setVariable world.environment manager.pathVariable scope.previous
  active : ∃ innermost outer, manager.active = innermost :: outer ∧
    innermost.id = scope.id ∧ final = { manager with active := outer }

/-- A scope is left if it is the innermost; otherwise nothing happens. -/
theorem perform_leave (scope : Scope) (world : World) (manager : ScopeManager) :
    (∃ after final, (leave scope).perform world manager = (.ok (), after, final) ∧
      Left world manager scope after final) ∨
    ((∀ innermost ∈ manager.active.head?, innermost.id ≠ scope.id) ∧
      (leave scope).perform world manager =
        (.error (.scope (.notInnermost scope.directory)), world, manager)) := by
  simp only [leave, Action.perform_bind, Action.perform_state]
  cases active : manager.active with
  | nil => exact .inr ⟨fun _ none => absurd none (Option.not_mem_none _), rfl⟩
  | cons innermost outer =>
      dsimp only
      by_cases same : innermost.id = scope.id
      · left
        rw [if_neg (not_not_intro same)]
        have atTop : ∃ top rest, manager.active = top :: rest ∧ top.id = scope.id ∧
            { manager with active := outer } = { manager with active := rest } :=
          ⟨innermost, outer, active, same, rfl⟩
        cases scope.owned with
        | false => exact ⟨_, _, rfl, Nat.le_refl _, rfl, atTop⟩
        | true =>
            obtain ⟨removed, performed, steady, _⟩ :=
              perform_removeDirectory scope.directory
                { world with
                  environment :=
                    setVariable world.environment manager.pathVariable scope.previous }
                { manager with active := outer }
            simp only [Action.perform_putState, Action.perform_change, if_true,
              Action.perform_bind, performed, Action.perform_note]
            exact ⟨_, _, rfl, steady.names, steady.environment, atTop⟩
      · right
        rw [if_pos same]
        refine ⟨?_, rfl⟩
        intro other isFirst
        exact Option.some.inj isFirst ▸ same

/-- How entering a scope ends: without a directory, with one that could not be filled, or
with a filled one. -/
inductive Run (options : ScopeOptions) (world : World) (manager : ScopeManager) :
    Except Failure Scope → World → Prop where
  | unmade {failure : Failure} {after : World} {final : ScopeManager} :
      (makeDirectory manager options).perform world manager = (.error failure, after, final) →
      Run options world manager (.error failure) after
  | unfilled {directory : String} {owned : Bool} {failure : Failure}
      {made filled after : World} {state final : ScopeManager} :
      (makeDirectory manager options).perform world manager =
        (.ok (directory, owned), made, state) →
      (populate manager options (world.environment.get? manager.pathVariable)
        directory).perform made state = (.error failure, filled, final) →
      (if owned then filled.withFiles (filled.files.remove directory true).2
        else filled).SameFiles after →
      Run options world manager (.error (populationFailure directory failure)) after
  | filled {directory : String} {owned : Bool} {copied : List String} {scope : Scope}
      {made filled after : World} {state final : ScopeManager} :
      (makeDirectory manager options).perform world manager =
        (.ok (directory, owned), made, state) →
      (populate manager options (world.environment.get? manager.pathVariable)
        directory).perform made state = (.ok copied, filled, final) →
      scope.directory = directory →
      scope.owned = owned →
      scope.copied = copied →
      filled.SameFiles after →
      Run options world manager (.ok scope) after

theorem run_of_enter {options : ScopeOptions} {outcome : Except Failure Scope} {after : World}
    {final : ScopeManager}
    (entering : (enter options).perform world manager = (outcome, after, final)) :
    Run options world manager outcome after := by
  simp only [enter, Action.perform_bind, Action.perform_state, Action.perform_world] at entering
  rcases making : (makeDirectory manager options).perform world manager with
    ⟨failure | ⟨directory, owned⟩, made, state⟩
  · rw [making] at entering
    cases entering
    exact .unmade making
  · rw [making] at entering
    dsimp only at entering
    rw [Action.perform_outcome] at entering
    rcases filling : (populate manager options (world.environment.get? manager.pathVariable)
      directory).perform made state with ⟨failure | copied, filled, last⟩
    · rw [filling] at entering
      cases owned with
      | false =>
          cases entering
          exact .unfilled making filling ⟨rfl, rfl⟩
      | true =>
          obtain ⟨removed, performed, _, files⟩ := perform_removeDirectory directory filled last
          simp only [if_true, Action.perform_bind, performed, Action.perform_throw] at entering
          cases entering
          exact .unfilled making filling files
    · rw [filling] at entering
      cases entering
      exact .filled making filling rfl rfl rfl ⟨rfl, rfl⟩

/-- The failure of a scope whose directory cannot be filled. -/
theorem fst_enter_of_unfilled {options : ScopeOptions} {directory : String} {owned : Bool}
    {failure : Failure} {made : World × ScopeManager}
    (making : (makeDirectory manager options).perform world manager =
      (.ok (directory, owned), made))
    (filling : ((populate manager options (world.environment.get? manager.pathVariable)
      directory).perform made.1 made.2).1 = .error failure) :
    ((enter options).perform world manager).1 = .error (populationFailure directory failure) := by
  rcases entering : (enter options).perform world manager with ⟨outcome, after, last⟩
  cases run_of_enter entering with
  | unmade performed => cases making.symm.trans performed
  | unfilled performed populated _ =>
      cases making.symm.trans performed
      rw [populated] at filling
      cases filling
      rfl
  | filled performed populated _ _ _ _ =>
      cases making.symm.trans performed
      rw [populated] at filling
      cases filling

theorem entered_of_enter {options : ScopeOptions} {after : World} {final : ScopeManager}
    (entering : (enter options).perform world manager = (.ok scope, after, final)) :
    Entered world manager scope after final := by
  rcases perform_enter options world manager with
    ⟨_, _, _, performed, step⟩ | ⟨_, _, _, performed, _⟩
  · cases entering.symm.trans performed
    exact step
  · cases entering.symm.trans performed

theorem steady_of_enter {options : ScopeOptions} {failure : Failure} {after : World}
    {final : ScopeManager}
    (entering : (enter options).perform world manager = (.error failure, after, final)) :
    Steady (world, manager) (after, final) := by
  rcases perform_enter options world manager with
    ⟨_, _, _, performed, _⟩ | ⟨_, _, _, performed, steady⟩
  · cases entering.symm.trans performed
  · cases entering.symm.trans performed
    exact steady

theorem left_of_leave {after : World} {final : ScopeManager}
    (leaving : (leave scope).perform world manager = (.ok (), after, final)) :
    Left world manager scope after final := by
  rcases perform_leave scope world manager with ⟨_, _, performed, step⟩ | ⟨_, performed⟩
  · cases leaving.symm.trans performed
    exact step
  · cases leaving.symm.trans performed

theorem same_of_leave {failure : Failure} {after : World} {final : ScopeManager}
    (leaving : (leave scope).perform world manager = (.error failure, after, final)) :
    failure = .scope (.notInnermost scope.directory) ∧ after = world ∧ final = manager := by
  rcases perform_leave scope world manager with ⟨_, _, performed, _⟩ | ⟨_, performed⟩
  · cases leaving.symm.trans performed
  · cases leaving.symm.trans performed
    exact ⟨rfl, rfl, rfl⟩

/-- Leaving a scope removes its directory if that was made for it, and no other file. -/
theorem files_of_leave {after : World} {final : ScopeManager}
    (leaving : (leave scope).perform world manager = (.ok (), after, final)) :
    after.files =
      if scope.owned then (world.files.remove scope.directory true).2 else world.files := by
  simp only [leave, Action.perform_bind, Action.perform_state] at leaving
  cases active : manager.active with
  | nil =>
      rw [active] at leaving
      cases leaving
  | cons innermost outer =>
      simp only [active] at leaving
      by_cases same : innermost.id = scope.id
      · rw [if_neg (not_not_intro same)] at leaving
        cases owned : scope.owned with
        | false =>
            rw [owned] at leaving
            cases leaving
            rfl
        | true =>
            rw [owned] at leaving
            obtain ⟨removed, performed, _, files⟩ := perform_removeDirectory scope.directory
              { world with
                environment := setVariable world.environment manager.pathVariable scope.previous }
              { manager with active := outer }
            simp only [Action.perform_putState, Action.perform_change, if_true,
              Action.perform_bind, performed, Action.perform_note] at leaving
            cases leaving
            exact files.files
      · rw [if_pos same] at leaving
        cases leaving

end ScopeManager

end ToolParams
