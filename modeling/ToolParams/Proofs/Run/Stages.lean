import Mathlib.Tactic.Choose
import ToolParams.Proofs.Files.Clearing
import ToolParams.Proofs.ParameterFile.Comparing
import ToolParams.Proofs.ParameterFile.Writing
import ToolParams.Run

/-!
# The stages of a run

Binding arguments is work on the store.  Once they are bound and the parameter file is
written, the tool is started exactly once; the run succeeds exactly when the tool does
and its file can be read back.  Whatever happens, the files of the run are removed
at the end, and a run that fails puts the store back.
-/

namespace ToolParams.Runner

open ToolParams.Action (Within)
open Store (Worked)

theorem worked_bindInOrder (declarations : List Declaration) (inputs : List Input) :
    Within Worked (bindInOrder declarations inputs) := by
  induction declarations generalizing inputs with
  | nil => exact Worked.pure _
  | cons declaration rest induction =>
      cases inputs with
      | nil => exact Worked.pure _
      | cons input others =>
          exact Worked.bind (Store.worked_assign _ _) fun _ => induction others

theorem worked_bindByName (pairs : List (String × Input)) :
    Within Worked (bindByName pairs) := by
  induction pairs with
  | nil => exact Worked.pure _
  | cons pair rest induction => exact Worked.bind (Store.worked_assign _ _) fun _ => induction

theorem worked_bindArguments (options : RunOptions) :
    Within Worked (bindArguments options) := by
  unfold bindArguments
  refine Worked.bind (fun _ _ => .refl _) fun store => ?_
  have binding : Within Worked (do
      bindInOrder store.declarations options.arguments
      bindByName (OrderedMap.members options.parameters)) :=
    Worked.bind (worked_bindInOrder _ _) fun _ => worked_bindByName _
  dsimp only
  split
  · exact Worked.bind (Worked.throw _) fun _ => binding
  · exact binding

/-- What the tool of a run is started with. -/
def requestOf (options : RunOptions) (command file : String)
    (overflow : ParameterFile.Overflow) (environment : Environment) (store : Store) :
    LaunchRequest :=
  { command
    arguments := programArguments store.schema.kind file (handedOver store overflow)
    environment := options.environment.getD environment
    directory := options.directory
    abort := options.abort }

/-- The tool was started once.  The run succeeds exactly when the tool does and its file
can be read back, and the store is then what was read. -/
structure Operated (launcher : Launcher) (request : LaunchRequest) (file : String)
    (overflow : ParameterFile.Overflow) (before : World) (store : Store)
    (result : Except Failure RunResult) (after : World) (final : Store) : Prop where
  launches : after.launches = before.launches ++ [⟨request, before.files⟩]
  files : after.files = (launcher request before.files).2
  assigned : store.Assigned final
  succeeds_iff : (∃ value, result = .ok value) ↔ ∃ completion reached,
    (launcher request before.files).1 = .ok completion ∧ isSuccess completion.code = true ∧
      ParameterFile.readFrom after.files file overflow store = .ok reached
  reached : ∀ value, result = .ok value →
    ParameterFile.readFrom after.files file overflow store = .ok final

theorem perform_launch {σ : Type} (launcher : Launcher) (request : LaunchRequest)
    (world : World) (state : σ) :
    (launch launcher request).perform world state =
      (.ok (launcher request world.files).1,
        World.withFiles { world with launches := world.launches ++ [⟨request, world.files⟩] }
          (launcher request world.files).2, state) := rfl

theorem perform_enter {σ : Type} (tool : String) (source target : RunStage) (world : World)
    (state : σ) :
    ∃ noted, world.Noted noted ∧
      (enter tool source target).perform world state = (.ok (), noted, state) :=
  ⟨_, .note .., rfl⟩

theorem perform_operate (launcher : Launcher) (options : RunOptions) (command file : String)
    (overflow : ParameterFile.Overflow) (world : World) (store : Store) :
    ∃ result after final,
      (operate launcher options command file overflow).perform world store =
          (result, after, final) ∧
        Operated launcher (requestOf options command file overflow world.environment store)
          file overflow world store result after final := by
  obtain ⟨request, isRequest⟩ :
      ∃ request, requestOf options command file overflow world.environment store = request :=
    ⟨_, rfl⟩
  rw [isRequest]
  unfold requestOf at isRequest
  unfold operate
  simp only [Action.perform_bind, Action.perform_state, enter, Action.perform_note,
    Action.perform_world, isRequest, perform_launch]
  rcases launched : launcher request world.files with ⟨ended, left⟩
  cases ended with
  | error message =>
      refine ⟨_, _, _, rfl, ?_⟩
      exact
        { launches := rfl
          files := by simp [launched]
          assigned := .refl
          succeeds_iff := by simp [launched]
          reached := by intro value succeeded; cases succeeded }
  | ok completion =>
      by_cases success : isSuccess completion.code = true
      case neg =>
        simp only [success, Bool.not_false, if_true, Action.perform_bind, Action.perform_note,
          Action.perform_throw]
        refine ⟨_, _, _, rfl, ?_⟩
        exact
          { launches := rfl
            files := by simp [launched]
            assigned := .refl
            succeeds_iff := by simp [launched, success]
            reached := by intro value succeeded; cases succeeded }
      case pos =>
        choose noted quiet performed using
          fun world => ParameterFile.perform_read file overflow world store
        have kept (world : World) : (noted world).files = world.files := (quiet world).files
        simp only [success, Bool.not_true, Bool.false_eq_true, if_false, Action.perform_bind,
          Action.perform_note, performed, World.withFiles_files]
        cases ended : ParameterFile.readFrom left file overflow store with
        | error failure =>
            refine ⟨_, _, _, rfl, ?_⟩
            exact
              { launches := (quiet _).launches
                files := by simp [kept, launched]
                assigned := .refl
                succeeds_iff := by simp [kept, launched, ended]
                reached := by intro value succeeded; cases succeeded }
        | ok final =>
            refine ⟨_, _, _, rfl, ?_⟩
            exact
              { launches := (quiet _).launches
                files := by simp [kept, launched]
                assigned := ParameterFile.assigned_readFrom ended
                succeeds_iff := by simp [kept, launched, success, ended]
                reached := by simp [kept, ended] }

/-- New entries in the journal before the tool is started make no difference. -/
theorem Operated.of_noted {launcher : Launcher} {request : LaunchRequest} {file : String}
    {overflow : ParameterFile.Overflow} {before noted after : World} {store final : Store}
    {result : Except Failure RunResult} (quiet : before.Noted noted)
    (operated : Operated launcher request file overflow noted store result after final) :
    Operated launcher request file overflow before store result after final := by
  obtain ⟨launches, files, assigned, succeeds_iff, reached⟩ := operated
  rw [quiet.files] at launches files succeeds_iff
  rw [quiet.launches] at launches
  exact ⟨launches, files, assigned, succeeds_iff, reached⟩

/-- The tool is started exactly when the store was written; then all its values have
texts, so that the comparison before the start cannot fail. -/
theorem perform_afterWriting (runner : Runner) (launcher : Launcher) (options : RunOptions)
    (command file : String) {written : Except Failure Unit} (overflow : ParameterFile.Overflow)
    (world : World) {store : Store}
    (texted : written = .ok () →
      ∀ declaration ∈ store.declarations, ParameterFile.HasText store declaration) :
    ∃ result after final,
      (runner.afterWriting launcher options command file written overflow).perform world store =
          (result, after, final) ∧
        ((∃ failure, written = .error failure ∧ result = .error failure ∧ after = world ∧
            final = store) ∨
          (written = .ok () ∧
            Operated launcher (requestOf options command file overflow world.environment store)
              file overflow world store result after final)) := by
  unfold afterWriting
  cases written with
  | error failure => exact ⟨_, _, _, rfl, .inl ⟨failure, rfl, rfl, rfl, rfl⟩⟩
  | ok _ =>
      obtain ⟨first, entered, performedFirst⟩ :=
        perform_enter store.tool .bound .written world store
      have operating {noted : World} (quiet : world.Noted noted) :
          ∃ result after final,
            (operate launcher options command file overflow).perform noted store =
                (result, after, final) ∧
              Operated launcher (requestOf options command file overflow world.environment store)
                file overflow world store result after final := by
        obtain ⟨result, after, final, performed, operated⟩ :=
          perform_operate launcher options command file overflow noted store
        rw [quiet.environment] at operated
        exact ⟨result, after, final, performed, operated.of_noted quiet⟩
      simp only [Action.perform_bind, Action.perform_yield, Action.perform_state, performedFirst]
      by_cases verifies : runner.verify = true
      · obtain ⟨_, second, compared, verified⟩ :=
          ParameterFile.watches_verify file overflow (texted rfl) first store
        obtain ⟨result, after, final, performed, operated⟩ := operating (entered.trans compared)
        simp only [verifies, if_true, Action.perform_bind, verified]
        exact ⟨result, after, final, performed, .inr ⟨trivial, operated⟩⟩
      · obtain ⟨result, after, final, performed, operated⟩ := operating entered
        simp only [verifies]
        exact ⟨result, after, final, performed, .inr ⟨trivial, operated⟩⟩

theorem perform_removeAll {σ : Type} (paths : List String) (world : World) (state : σ) :
    ∃ after, (removeAll paths).perform world state = (.ok (), after, state) ∧
      after.files = world.files.removeEach paths ∧ world.Edited after := by
  induction paths generalizing world with
  | nil => exact ⟨world, rfl, rfl, ⟨rfl, rfl⟩⟩
  | cons path rest induction =>
      unfold removeAll
      simp only [Action.perform_bind, Action.perform_outcome, Action.perform_advance]
      cases removed : (world.files.remove path false).1 with
      | ok _ =>
          obtain ⟨after, performed, files, edited⟩ :=
            induction (world.withFiles (world.files.remove path false).2)
          exact ⟨after, performed, files, ⟨edited.environment, edited.launches⟩⟩
      | error fault =>
          obtain ⟨after, performed, files, edited⟩ :=
            induction
              (World.withFiles
                { world with
                  journal := world.journal ++ [⟨.warn, "runner.cleanup_failed",
                    [("path", .text path), ("error", .text (Failure.file fault).message)]⟩] }
                (world.files.remove path false).2)
          exact ⟨after, performed, files, ⟨edited.environment, edited.launches⟩⟩

theorem perform_run_of_parametersOnly (runner : Runner) (launcher : Launcher)
    (options : RunOptions) (world : World) {store : Store}
    (only : store.schema.kind = .parametersOnly) :
    (runner.run launcher options).perform world store =
      (.error (.schema (.notRunnable store.schema.name)), world, store) := by
  simp [run, only]

theorem perform_run_of_unbound (runner : Runner) (launcher : Launcher)
    {options : RunOptions} {world : World} {store : Store} {failure : Failure}
    (runs : store.schema.kind ≠ .parametersOnly)
    (unbound : ((bindArguments options).perform world store).1 = .error failure) :
    ∃ noted, world.Noted noted ∧
      (runner.run launcher options).perform world store = (.error failure, noted, store) := by
  have worked := worked_bindArguments options world store
  rcases performed : (bindArguments options).perform world store with ⟨outcome, noted, final⟩
  rw [performed] at unbound worked
  cases unbound
  refine ⟨noted, worked.1, ?_⟩
  unfold run
  simp [runs, Store.perform_orRestore (worked_bindArguments options), performed]

/-- How a run goes on when its arguments are bound: the store is written, the tool is
started if that succeeds, and in any case the files of the run are removed. -/
structure Course (runner : Runner) (launcher : Launcher) (options : RunOptions) (world : World)
    (bound : Store) (result : Except Failure RunResult) (after : World) (final : Store)
    (file : String) (written : Except Failure Unit) (overflow : ParameterFile.Overflow)
    (saved worked : World) : Prop where
  wrote : ∃ start : World, start.files = world.files ∧
    (ParameterFile.write runner.limit bound file).perform start .empty = (written, saved, overflow)
  saving : ParameterFile.Saved runner.limit bound file world written saved overflow
  working : (∃ failure, written = .error failure ∧ result = .error failure ∧ worked = saved ∧
      final = bound) ∨
    (written = .ok () ∧
      Operated launcher
        (requestOf options (runner.command bound.schema) file overflow world.environment bound)
        file overflow saved bound result worked final)
  launches : after.launches = worked.launches
  files : after.files = worked.files.removeEach (file :: overflow.values)

/-- New entries and given names make no difference to the writing of a store. -/
theorem perform_run_of_bound (runner : Runner) (launcher : Launcher) {options : RunOptions}
    {world noted : World} {store bound : Store} (runs : store.schema.kind ≠ .parametersOnly)
    (binds : (bindArguments options).perform world store = (.ok (), noted, bound)) :
    ∃ result after final written overflow saved worked,
      (runner.run launcher options).perform world store =
          (result, after, match result with | .ok _ => final | .error _ => store) ∧
        Course runner launcher options world bound result after final
          (runner.parameterFile store.schema world.namesGiven) written overflow saved worked := by
  have binding := worked_bindArguments options world store
  rw [binds] at binding
  have sameSchema := binding.2.schema_eq
  obtain ⟨first, entered, performedFirst⟩ :=
    perform_enter store.schema.name .idle .bound noted bound
  have quiet := binding.1.trans entered
  obtain ⟨file, isFile⟩ : ∃ file, runner.parameterFile store.schema world.namesGiven = file :=
    ⟨_, rfl⟩
  rw [isFile]
  have isFirst : runner.parameterFile store.schema first.namesGiven = file := by
    rw [quiet.namesGiven, isFile]
  obtain ⟨written, saved, overflow, performedWrite, saving⟩ :=
    ParameterFile.perform_write runner.limit bound file
      { first with namesGiven := first.namesGiven + 1 }
  have wrote : ∃ start : World, start.files = world.files ∧
      (ParameterFile.write runner.limit bound file).perform start .empty =
        (written, saved, overflow) :=
    ⟨{ first with namesGiven := first.namesGiven + 1 }, quiet.files, performedWrite⟩
  obtain ⟨result, worked, final, performedWork, working⟩ :=
    runner.perform_afterWriting launcher options (runner.command store.schema) file overflow
      saved (fun succeeded => by
        obtain ⟨_, content, _, named, _⟩ := saving.complete succeeded
        exact ParameterFile.hasText_of_fileText? named)
  have savingHere : ParameterFile.Saved runner.limit bound file world written saved overflow :=
    saving.of_files ⟨quiet.environment, quiet.launches⟩ quiet.files
  have finalSchema : final.schema = store.schema := by
    rcases working with ⟨_, _, _, _, rfl⟩ | ⟨_, operated⟩
    · exact sameSchema
    · exact operated.assigned.schema_eq.trans sameSchema
  rw [savingHere.edited.environment, ← sameSchema] at working
  cases result with
  | ok value =>
      obtain ⟨after, removed, files, edited⟩ :=
        perform_removeAll (file :: overflow.values) worked final
      refine ⟨.ok value, after, final, written, overflow, saved, worked, ?_,
        ⟨wrote, savingHere, working, edited.launches, files⟩⟩
      unfold run
      simp only [Action.perform_bind, Action.perform_state, runs, if_false,
        Store.perform_orRestore (worked_bindArguments options), binds, performedFirst,
        Action.perform_freshNumber, Action.perform_outcomeOn, isFirst, performedWrite,
        Action.perform_outcome, performedWork, removed, Action.perform_yield]
  | error failure =>
      obtain ⟨failed, leaving, performedLast⟩ :=
        perform_enter store.schema.name (failedIn written) .failed worked final
      obtain ⟨after, removed, files, edited⟩ :=
        perform_removeAll (file :: overflow.values) failed store
      rw [leaving.files] at files
      refine ⟨.error failure, after, final, written, overflow, saved, worked, ?_,
        ⟨wrote, savingHere, working, edited.launches.trans leaving.launches, files⟩⟩
      unfold run
      simp only [Action.perform_bind, Action.perform_state, runs, if_false,
        Store.perform_orRestore (worked_bindArguments options), binds, performedFirst,
        Action.perform_freshNumber, Action.perform_outcomeOn, isFirst, performedWrite,
        Action.perform_outcome, performedWork, performedLast, Action.perform_putState,
        Store.snapshot, Store.restore_values finalSchema, removed, Action.perform_yield]

end ToolParams.Runner
