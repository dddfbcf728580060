import ToolParams.Proofs.Run.Stages

/-!
# Runs are all or nothing

A run that fails leaves the store as it was, at whatever point it failed.  The tool is
started at most once, on a complete parameter file, and no file of the run is left
behind when the run ends.
-/

namespace ToolParams

open FileTree (Written)

/-- Nothing is left at some paths, and every other place is as it was. -/
structure FileTree.Cleared (before : FileTree) (paths : List String) (after : FileTree) :
    Prop where
  gone : ∀ path ∈ paths, ¬after.HasAt path
  kept : ∀ place, (∀ path ∈ paths, before.locate path .itself ≠ .ok place) →
    after.node? place = before.node? place

namespace FileTree

variable {tree after : FileTree} {paths : List String}

theorem cleared_removeEach (removable : ∀ path ∈ paths, tree.Removable path) :
    tree.Cleared paths (tree.removeEach paths) := by
  constructor
  · rintro path member ⟨place, node, located, held⟩
    have reached := (sameRoutes_removeEach removable).locate_iff.mp located
    rw [(node?_removeEach removable place).1 ⟨path, member, reached⟩] at held
    cases held
  · intro place elsewhere
    exact (node?_removeEach removable place).2 elsewhere

theorem cleared_of_written (unused : ∀ path ∈ paths, tree.Unused path)
    (written : Written paths tree after)
    (alike : ∀ path ∈ paths, ∀ other ∈ paths,
      withoutNull "path" other = .ok () → withoutNull "path" path = .ok ()) :
    tree.Cleared paths (after.removeEach paths) := by
  have removable := removable_of_written unused written alike
  constructor
  · exact (cleared_removeEach removable).gone
  · intro place _
    exact node?_removeEach_of_written unused written alike place

theorem Cleared.mono {more : List String} (cleared : tree.Cleared paths after)
    (routes : SameRoutes tree after) (covered : ∀ path ∈ paths, path ∈ more)
    (unused : ∀ path ∈ more, tree.Unused path) : tree.Cleared more after := by
  constructor
  · rintro path member ⟨place, node, located, held⟩
    have reached := routes.locate_iff.mp located
    by_cases among : ∃ other ∈ paths, tree.locate other .itself = .ok place
    · obtain ⟨other, written, same⟩ := among
      exact cleared.gone other written ⟨place, node, routes.locate same, held⟩
    · rw [cleared.kept place fun other written same => among ⟨other, written, same⟩,
        unused path member place reached place (List.prefix_refl place)] at held
      cases held
  · intro place elsewhere
    exact cleared.kept place fun path member => elsewhere path (covered path member)

theorem Cleared.congr {more : List String} (cleared : tree.Cleared paths after)
    (same : ∀ path, path ∈ paths ↔ path ∈ more) : tree.Cleared more after :=
  { gone := fun path member => cleared.gone path ((same path).mpr member)
    kept := fun place elsewhere =>
      cleared.kept place fun path member => elsewhere path ((same path).mp member) }

end FileTree

namespace Runner

/-- How a run whose arguments are bound treats files.  `bound` is the store with the
arguments of the run. -/
structure Tidy (runner : Runner) (launcher : Launcher) (world : World) (bound : Store)
    (file : String) (after : World) : Prop where
  /-- without a start of the tool, nothing is left at the paths of the run -/
  unstarted : after.launches = world.launches →
    (∀ path ∈ ParameterFile.outputs runner.limit bound file, world.files.Unused path) →
      world.files.Cleared (ParameterFile.outputs runner.limit bound file) after.files
  /-- when the tool is started the parameter file is complete, and written last -/
  complete : ∀ launched, after.launches = world.launches ++ [launched] →
    ∃ content earlier, ParameterFile.fileText? runner.limit bound file = some content ∧
      Written (ParameterFile.stacksOf runner.limit bound file bound.declarations) world.files
        earlier ∧
      earlier.write file content = .ok launched.files
  /-- what the tool leaves at the paths of the run is removed, and nothing else -/
  started : ∀ launched, after.launches = world.launches ++ [launched] →
    let left := (launcher launched.request launched.files).2
    (∀ path ∈ ParameterFile.outputs runner.limit bound file,
      left.IsPlainAt path ∧ (left.remove path false).1 = .ok ()) →
        left.Cleared (ParameterFile.outputs runner.limit bound file) after.files

/-- What a run makes of the store and of the files. -/
structure AllOrNothing (runner : Runner) (launcher : Launcher) (options : RunOptions)
    (world : World) (store : Store) (result : Except Failure RunResult) (after : World)
    (final : Store) : Prop where
  /-- a run that fails leaves the store as it was -/
  restored : ∀ failure, result = .error failure → final = store
  /-- a run succeeds only if the tool was started and ended with code 0 -/
  succeeded : ∀ value, result = .ok value →
    ∃ launched completion, after.launches = world.launches ++ [launched] ∧
      (launcher launched.request launched.files).1 = .ok completion ∧
      isSuccess completion.code = true
  /-- a run that cannot be begun fails and touches nothing -/
  refused : (store.schema.kind = .parametersOnly ∨
      ∃ failure, ((bindArguments options).perform world store).1 = .error failure) →
    (∃ failure, result = .error failure) ∧ after.files = world.files ∧
      after.launches = world.launches
  /-- the tool is started at most once -/
  once : after.launches = world.launches ∨
    ∃ launched, after.launches = world.launches ++ [launched]
  /-- a run that is begun leaves none of its files behind -/
  tidy : ∀ noted bound, store.schema.kind ≠ .parametersOnly →
    (bindArguments options).perform world store = (.ok (), noted, bound) →
      Tidy runner launcher world bound (runner.parameterFile store.schema world.namesGiven) after

section Course

variable {runner : Runner} {launcher : Launcher} {options : RunOptions} {world saved worked after
  : World} {bound final : Store} {result : Except Failure RunResult} {file : String}
  {written : Except Failure Unit} {overflow : ParameterFile.Overflow}

theorem withoutNull_of_stackPath {name : String}
    (noNull : FileTree.withoutNull "path" (ParameterFile.stackPath file name) = .ok ()) :
    FileTree.withoutNull "path" file = .ok () := by
  have chars : (ParameterFile.stackPath file name).toList =
      file.toList ++ ('.' :: name.toList ++ ".stk".toList) := by
    simp [ParameterFile.stackPath, toString]
  unfold FileTree.withoutNull Text.has at *
  rw [chars] at noNull
  by_cases holds : file.toList.contains '\x00' = true
  · simp only [List.contains_iff_mem] at holds
    simp [holds] at noNull
  · rw [if_neg holds]

theorem alike_of_saved {limit : Number}
    (saving : ParameterFile.Saved limit bound file world written saved overflow) :
    ∀ path ∈ file :: overflow.values, ∀ other ∈ file :: overflow.values,
      FileTree.withoutNull "path" other = .ok () →
        FileTree.withoutNull "path" path = .ok () := by
  intro path member other among noNull
  rcases List.mem_cons.mp member with rfl | stack
  · rcases List.mem_cons.mp among with rfl | stack
    · exact noNull
    · obtain ⟨entry, held, rfl⟩ := List.mem_map.mp stack
      exact withoutNull_of_stackPath (saving.stacked entry held ▸ noNull)
  · exact saving.nameable path stack

theorem Course.once
    (course : Course runner launcher options world bound result after final file written overflow
      saved worked) :
    (after.launches = world.launches ∧ (∃ failure, result = .error failure) ∧ worked = saved) ∨
      ∃ launched, after.launches = world.launches ++ [launched] ∧
        written = .ok () ∧ launched.files = saved.files ∧
        worked.files = (launcher launched.request launched.files).2 ∧
        ∀ value, result = .ok value → ∃ completion,
          (launcher launched.request launched.files).1 = .ok completion ∧
            isSuccess completion.code = true := by
  have launches := course.launches
  rcases course.working with ⟨failure, _, failed, rfl, _⟩ | ⟨succeeded, operated⟩
  · exact .inl ⟨launches.trans course.saving.edited.launches, ⟨failure, failed⟩, rfl⟩
  · refine .inr ⟨⟨_, saved.files⟩, ?_, succeeded, rfl, operated.files, ?_⟩
    · rw [launches, operated.launches, course.saving.edited.launches]
      rfl
    · intro value isOk
      obtain ⟨completion, _, ended, success, _⟩ := operated.succeeds_iff.mp ⟨value, isOk⟩
      exact ⟨completion, ended, success⟩

theorem Course.tidy
    (course : Course runner launcher options world bound result after final file written overflow
      saved worked) : Tidy runner launcher world bound file after := by
  have saving := course.saving
  have within : ∀ path ∈ file :: overflow.values,
      path ∈ ParameterFile.outputs runner.limit bound file := by
    intro path member
    rcases List.mem_cons.mp member with rfl | stack
    · exact List.mem_cons_self
    · exact List.mem_cons_of_mem _ (saving.among path stack)
  constructor
  case unstarted =>
    intro idle unused
    rcases course.once with ⟨_, _, rfl⟩ | ⟨launched, started, _⟩
    · have unusedHere : ∀ path ∈ file :: overflow.values, world.files.Unused path :=
        fun path member => unused path (within path member)
      have alike := alike_of_saved saving
      have removable := FileTree.removable_of_written unusedHere saving.written alike
      have cleared := FileTree.cleared_of_written unusedHere saving.written alike
      rw [course.files]
      exact cleared.mono
        (saving.written.sameRoutes.trans (FileTree.sameRoutes_removeEach removable)) within unused
    · simp [started] at idle
  case complete =>
    intro launched started
    rcases course.once with ⟨idle, _⟩ | ⟨other, same, succeeded, files, _⟩
    · simp [idle] at started
    · have isOther : other = launched := by simpa [same] using started
      obtain ⟨_, content, earlier, named, stackFiles, writes⟩ := saving.complete succeeded
      exact ⟨content, earlier, named, stackFiles.mono saving.among, isOther ▸ files ▸ writes⟩
  case started =>
    intro launched started left plain
    rcases course.once with ⟨idle, _⟩ | ⟨other, same, succeeded, _, files, _⟩
    · simp [idle] at started
    · have isOther : other = launched := by simpa [same] using started
      have isLeft : worked.files = left := by rw [files, isOther]
      obtain ⟨complete, _⟩ := saving.complete succeeded
      rw [course.files, isLeft]
      refine (FileTree.cleared_removeEach fun path member => ?_).congr fun path => ⟨within path, ?_⟩
      · obtain ⟨bare, removed⟩ := plain path (within path member)
        exact FileTree.removable_of_remove_eq_ok bare removed
      · intro member
        rcases List.mem_cons.mp member with rfl | stack
        · exact List.mem_cons_self
        · exact List.mem_cons_of_mem _ (complete path stack)

end Course

/-- A run is all or nothing. -/
theorem run_allOrNothing (runner : Runner) (launcher : Launcher) (options : RunOptions)
    (world : World) (store : Store) :
    AllOrNothing runner launcher options world store
      ((runner.run launcher options).perform world store).1
      ((runner.run launcher options).perform world store).2.1
      ((runner.run launcher options).perform world store).2.2 := by
  by_cases only : store.schema.kind = .parametersOnly
  · rw [perform_run_of_parametersOnly runner launcher options world only]
    exact
      { restored := fun _ _ => rfl
        succeeded := by intro value succeeded; cases succeeded
        refused := fun _ => ⟨⟨_, rfl⟩, rfl, rfl⟩
        once := .inl rfl
        tidy := fun _ _ runs => absurd only runs }
  rcases binds : (bindArguments options).perform world store with ⟨failure | _, noted, bound⟩
  · obtain ⟨quietly, quiet, performed⟩ :=
      perform_run_of_unbound runner launcher only (by rw [binds])
    rw [performed]
    exact
      { restored := fun _ _ => rfl
        succeeded := by intro value succeeded; cases succeeded
        refused := fun _ => ⟨⟨_, rfl⟩, quiet.files, quiet.launches⟩
        once := .inl quiet.launches
        tidy := by intro other reached _ bindsToo; rw [binds] at bindsToo; cases bindsToo }
  · obtain ⟨result, after, final, written, overflow, saved, worked, performed, course⟩ :=
      perform_run_of_bound runner launcher only binds
    rw [performed]
    constructor
    case restored =>
      rintro failure rfl
      rfl
    case succeeded =>
      intro value isOk
      rcases course.once with ⟨_, ⟨failure, failed⟩, _⟩ | ⟨launched, started, _, _, _, ended⟩
      · cases failed.symm.trans isOk
      · obtain ⟨completion, stopped, success⟩ := ended value isOk
        exact ⟨launched, completion, started, stopped, success⟩
    case refused =>
      rintro (refused | ⟨failure, unbound⟩)
      · exact absurd refused only
      · rw [binds] at unbound
        cases unbound
    case once => exact course.once.imp And.left fun ⟨launched, started, _⟩ => ⟨launched, started⟩
    case tidy =>
      intro other reached _ bindsToo
      rw [binds] at bindsToo
      cases bindsToo
      exact course.tidy

end Runner

end ToolParams
