import ToolParams.Proofs.Files.Filling
import ToolParams.Proofs.Scope.Entering

/-!
# Scopes with a directory of their own

A scope for which no directory is named gets a new one.  All that entering it does to files
is done in that directory, and when the scope cannot be entered, or is left, the directory
goes with everything in it: no trace of the scope is left.
-/

namespace ToolParams

namespace FileTree

variable {tree other : FileTree} {path : String} {top place : Place}

/-- A place that is neither what a path leads to nor below it. -/
def IsOutside (tree : FileTree) (path : String) (place : Place) : Prop :=
  ∀ top, tree.locate path .itself = .ok top → ¬top <+: place

/-- Trees with the same nodes outside of what a path leads to. -/
structure SameOutside (tree : FileTree) (path : String) (other : FileTree) : Prop where
  here : other.here = tree.here
  nodes : ∀ place, tree.IsOutside path place → other.node? place = tree.node? place

/-- Trees with the same nodes everywhere. -/
structure Same (tree other : FileTree) : Prop where
  here : other.here = tree.here
  nodes : ∀ place, other.node? place = tree.node? place

theorem Same.outside (same : Same tree other) (path : String) : SameOutside tree path other :=
  ⟨same.here, fun place _ => same.nodes place⟩

/-- A new directory is vacant, and stands where nothing was. -/
structure Made (tree : FileTree) (path : String) (top : Place) (made : FileTree) : Prop where
  located : tree.locate path .itself = .ok top
  bare : ∀ place, top <+: place → tree.node? place = none
  vacant : Vacant made top
  rooted : made.Rooted
  here : made.here = tree.here
  outside : ∀ place, ¬top <+: place → made.node? place = tree.node? place

theorem made_of_makeFresh {beginning ending : String} {made : FileTree} (rooted : tree.Rooted)
    (makes : tree.makeFresh beginning ending = .ok made) :
    withoutNull "prefix" beginning = .ok () ∧
      ∃ top, Made tree (beginning ++ ending) top made := by
  obtain ⟨_, noNull, makes⟩ := Outcome.bind_eq_ok_iff.mp makes
  obtain ⟨top, located, added⟩ :=
    Outcome.bind_eq_ok_iff.mp (Outcome.mapError_eq_ok_iff.mp makes)
  refine ⟨noNull, top, ?_⟩
  unfold add at added
  split_ifs at added with occupied free
  have nothing : tree.node? top = none := by simpa using occupied
  cases added
  have vacant := vacant_place rooted nothing free privateMode rfl rfl rfl
  constructor
  · exact located
  · intro place below
    by_cases same : place = top
    · rw [same, nothing]
    · exact bare_of_route? rooted (by rw [route?, nothing]) place below same
  · exact vacant
  · exact rooted_place rooted nothing free privateMode
  · rfl
  · intro place apart
    rw [node?_place vacant.nonroot, if_neg]
    rintro rfl
    exact apart (List.prefix_refl place)

namespace Made

variable {made later : FileTree}

theorem isOutside_iff (made : Made tree path top other) (place : Place) :
    tree.IsOutside path place ↔ ¬top <+: place := by
  constructor
  · exact fun outside => outside top made.located
  · intro apart other located
    cases made.located.symm.trans located
    exact apart

theorem fewer (made : Made tree path top other) (same : SameOutside tree path later) :
    Fewer later tree := by
  refine ⟨same.here.symm, fun place node held => ?_⟩
  rw [same.nodes place ((made.isOutside_iff place).mpr fun below => ?_), held]
  rw [made.bare place below] at held
  cases held

theorem locate (made : Made tree path top other) (same : SameOutside tree path later) :
    later.locate path .itself = .ok top :=
  (made.fewer same).locate made.located fun _ => .inl rfl

/-- Without the directory everything is as it was before the directory was made. -/
theorem same_prune (made : Made tree path top other) (same : SameOutside tree path later) :
    Same tree (later.prune top) where
  here := same.here
  nodes := by
    intro place
    by_cases below : top <+: place
    · rw [node?_prune_below made.vacant.nonroot below, made.bare place below]
    · rw [← same.nodes place ((made.isOutside_iff place).mpr below)]
      exact node?_prune_apart below

end Made

end FileTree

open FileTree

theorem FreshName.isDigit_of_mem_short {number : Nat} {character : Char}
    (member : character ∈ (FreshName.short number).toList) : character.isDigit = true := by
  rw [FreshName.short, String.toList_ofList, FreshName.paddedDigits, List.mem_append] at member
  rcases member with padding | digit
  · rw [List.eq_of_mem_replicate padding]
    decide
  · exact Nat.isDigit_of_mem_toDigits (by decide) (by decide) digit

namespace ScopeManager

variable {manager inside : ScopeManager} {world after : World} {options : ScopeOptions}
  {outcome : Except Failure Scope} {directory : String} {base tree later : FileTree}
  {top : Place}

def freshDirectory (manager : ScopeManager) (world : World) : String :=
  Path.join manager.scratch "pfiles-" ++ FreshName.short world.namesGiven

/-- The world that copying a parameter file leaves: with the copy, and perhaps with another mode
for it. -/
theorem world_of_copyInto {σ : Type} (source directory : String) (world : World) (state : σ)
    {copied : FileTree}
    (copies : (world.files.copy source (Path.join directory (Path.baseName source))).2 = copied) :
    ((copyInto source directory).perform world state).2.1 = world.withFiles copied ∨
      ∃ mode files, copied.setMode (Path.join directory (Path.baseName source)) mode = .ok files ∧
        ((copyInto source directory).perform world state).2.1 =
          (world.withFiles copied).withFiles files := by
  simp only [copyInto, Action.perform_bind, Action.perform_advance, Action.perform_look,
    Action.perform_alter, copies]
  cases (world.files.copy source (Path.join directory (Path.baseName source))).1 with
  | error fault => exact .inl rfl
  | ok _ =>
      dsimp only [Outcome.mapError_ok, World.withFiles_files]
      cases copied.mode (Path.join directory (Path.baseName source)) with
      | error fault => exact .inl rfl
      | ok mode =>
          dsimp only [Outcome.mapError_ok, World.withFiles_files]
          cases sets : copied.setMode (Path.join directory (Path.baseName source))
            (copyMode mode) with
          | error fault => exact .inl rfl
          | ok files => exact .inr ⟨_, files, sets, rfl⟩

/-- A later world whose files have changed in a directory and nowhere else, and which no change
made otherwise. -/
def FillsIn (base : FileTree) (top : Place) (before after : World) : Prop :=
  Filled base top after.files ∧ before.Passes (Filled base top) after

/-- Copying into a directory that is ready for it changes files in it and nothing else. -/
theorem fillsIn_of_copyInto {σ : Type} (ready : Ready base directory top)
    (filled : Filled base top world.files) (folder tool : String) (state : σ) :
    FillsIn base top world ((copyInto (Path.join folder (ParameterFile.fileName tool))
      directory).perform world state).2.1 := by
  obtain ⟨last, noSlash, named⟩ := ParameterFile.exists_baseName tool
  have isName := ParameterFile.isName_fileName noSlash
  have left := world_of_copyInto (Path.join folder (ParameterFile.fileName tool)) directory
    world state rfl
  rw [ParameterFile.baseName_join, named] at left
  generalize Path.join folder (ParameterFile.fileName tool) = source at left ⊢
  generalize ((copyInto source directory).perform world state).2.1 = reached at left ⊢
  have copied : Filled base top
      (world.files.copy source (Path.join directory (ParameterFile.fileName last))).2 := by
    rcases touches_copy (filled.rooted ready.vacant ready.rooted) source
      (Path.join directory (ParameterFile.fileName last)) with same | ⟨goal, located, touches⟩
    · rw [same]
      exact filled
    · rw [ready.place_eq filled isName located] at touches
      exact filled.touch touches
  rcases left with rfl | ⟨mode, files, sets, rfl⟩
  · exact ⟨copied, .withFiles world copied⟩
  · obtain ⟨place, located, touches⟩ :=
      touches_setMode (copied.rooted ready.vacant ready.rooted) sets
    have inside := ready.place_eq copied isName located
    subst inside
    have moded : Filled base top files := copied.touch (touches (copied.files _))
    exact ⟨moded, (World.Passes.withFiles world copied).trans (.withFiles _ moded)⟩

/-- Filling a directory that is ready for it changes files in it and nothing else. -/
theorem fillsIn_of_populate {σ : Type} (ready : Ready base directory top) (world : World)
    (filled : Filled base top world.files) (manager : ScopeManager) (options : ScopeOptions)
    (searched : Option String) (state : σ) :
    FillsIn base top world
      ((populate manager options searched directory).perform world state).2.1 := by
  have admits : Admits (σ := σ) (fun before after => Filled base top before.1.files →
      FillsIn base top before.1 after.1) (fun _ => True) directory :=
    { refl := fun _ filled => ⟨filled, .of_same rfl⟩
      trans := by
        intro start middle last earlier further filled
        obtain ⟨midway, first⟩ := earlier filled
        obtain ⟨reached, second⟩ := further midway
        exact ⟨reached, first.trans second⟩
      note := fun _ _ _ filled => ⟨filled, .of_same rfl⟩
      copy := fun folder tool _ _ state filled =>
        fillsIn_of_copyInto ready filled folder tool state }
  exact admits.populate (fun _ _ => trivial) (fun _ _ => trivial) manager searched world state
    filled

section Fresh

theorem isName_fresh (number : Nat) : Path.IsName ("pfiles-" ++ FreshName.short number) := by
  have long : 7 ≤ ("pfiles-" ++ FreshName.short number).toList.length := by simp
  constructor
  · intro same
    simp [same] at long
  · intro same
    simp [same] at long
  · intro same
    simp [same] at long
  · rw [String.toList_append, List.mem_append, not_or]
    exact ⟨by decide, fun slash => absurd (FreshName.isDigit_of_mem_short slash) (by decide)⟩

theorem isName_beginning : Path.IsName "pfiles-" :=
  ⟨by decide, by decide, by decide, by decide⟩

theorem noSlash_short (number : Nat) : '/' ∉ (FreshName.short number).toList :=
  fun slash => absurd (FreshName.isDigit_of_mem_short slash) (by decide)

theorem steps_freshDirectory (manager : ScopeManager) (world : World) :
    Path.steps (freshDirectory manager world) =
      Path.lead manager.scratch ++ ["pfiles-" ++ FreshName.short world.namesGiven] :=
  Path.steps_append_of_noSlash (Path.steps_join isName_beginning manager.scratch)
    (noSlash_short world.namesGiven)

/-- The new directory is ready for its scope. -/
theorem ready_of_made
    (made : Made tree (freshDirectory manager world) top base)
    (noNull : withoutNull "prefix" (Path.join manager.scratch "pfiles-") = .ok ()) :
    Ready base (freshDirectory manager world) top := by
  have isName := isName_fresh world.namesGiven
  have split := steps_freshDirectory manager world
  have named := Path.baseName_of_steps split isName.filled
  have located : base.locate (freshDirectory manager world) .itself = .ok top := by
    refine made.locate ⟨made.here, fun place outside => ?_⟩
    exact made.outside place ((made.isOutside_iff place).mp outside)
  constructor
  · exact made.rooted
  · exact made.vacant
  · unfold IsStraight
    rw [split]
    exact congrArg Path.moves
      (Path.lead_join isName_beginning (noSlash_short _) isName manager.scratch)
  · exact located
  · have noDigit : '\x00' ∉ (FreshName.short world.namesGiven).toList :=
      fun null => absurd (FreshName.isDigit_of_mem_short null) (by decide)
    have noBeginning : '\x00' ∉ (Path.join manager.scratch "pfiles-").toList := by
      unfold withoutNull at noNull
      split at noNull
      · cases noNull
      · rename_i free
        simpa [Text.has] using free
    unfold withoutNull freshDirectory
    rw [if_neg]
    simp [Text.has, noDigit, noBeginning]
  · rw [← Bool.not_eq_true, isSlashedLink_iff]
    rintro ⟨ends, _⟩
    have last := Path.last_eq_empty_of_endsWith ends
    rw [split, List.getLast?_concat, Option.some.injEq] at last
    exact isName.filled last
  · rw [named]
    exact isName.notDot
  · rw [named]
    exact isName.notDots

theorem perform_makeDirectory_fresh (manager : ScopeManager)
    (unnamed : options.directory.filter (· ≠ "") = none) (world : World) (state : ScopeManager) :
    (makeDirectory manager options).perform world state =
      match world.files.makeFresh (Path.join manager.scratch "pfiles-")
        (FreshName.short world.namesGiven) with
      | .ok files =>
          (.ok (freshDirectory manager world, true),
            World.withFiles { world with namesGiven := world.namesGiven + 1 } files, state)
      | .error fault =>
          (.error (.scope (.cannotCreate (options.directory.getD manager.scratch) fault)),
            { world with namesGiven := world.namesGiven + 1 }, state) := by
  unfold makeDirectory
  simp only [unnamed, Action.perform_bind, Action.perform_freshNumber, Action.perform_alter]
  cases world.files.makeFresh (Path.join manager.scratch "pfiles-")
    (FreshName.short world.namesGiven) with
  | error fault => rfl
  | ok files => rfl

theorem sameOutside_of_filled (made : Made tree directory top base)
    (filled : Filled base top later) : SameOutside tree directory later where
  here := filled.here.trans made.here
  nodes := by
    intro place outside
    have apart := (made.isOutside_iff place).mp outside
    rw [← made.outside place apart, filled.outside place]
    rintro name rfl
    exact apart (List.prefix_append _ _)

/-- What entering a scope with a directory of its own does to files. -/
structure Traceless (manager : ScopeManager) (world : World) (outcome : Except Failure Scope)
    (after : World) : Prop where
  /-- whatever is done, no change to the files meanwhile is one outside of the directory -/
  during : world.Passes (world.files.SameOutside (freshDirectory manager world)) after
  /-- nor in the end -/
  outside : world.files.SameOutside (freshDirectory manager world) after.files
  /-- a scope that cannot be entered leaves no files -/
  refused : ∀ failure, outcome = .error failure → world.files.Same after.files
  /-- the directory of a scope is new, and goes with it -/
  fresh : ∀ scope, outcome = .ok scope → scope.directory = freshDirectory manager world ∧
    scope.owned = true ∧ world.files.Unused scope.directory
  /-- whatever was written inside the directory meanwhile, leaving the scope leaves no files,
  if it can remove the directory -/
  left : ∀ scope later outer next, outcome = .ok scope →
    world.files.SameOutside scope.directory later.files → later.files.Rooted →
    (later.files.remove scope.directory true).1 = .ok () →
    (leave scope).perform later outer = (.ok (), next) → world.files.Same next.1.files

theorem same_of_remove (made : Made tree directory top base)
    (ready : Ready base directory top) (same : SameOutside tree directory later)
    (rooted : later.Rooted) (unslashed : Text.endsWith directory "/" = false)
    (removed : (later.remove directory true).1 = .ok ()) :
    Same tree (later.remove directory true).2 := by
  have located := made.locate same
  have unspared : ¬later.Spares directory := by
    rintro (dots | slashed | root)
    · exact ready.notDots dots
    · rw [(isSlashedLink_iff.mp slashed).1] at unslashed
      cases unslashed
    · exact made.vacant.nonroot (Except.ok.inj (located.symm.trans root))
  rw [remove_eq_prune_of_ok rooted unspared located removed]
  exact made.same_prune same

theorem unslashed_freshDirectory (manager : ScopeManager) (world : World) :
    Text.endsWith (freshDirectory manager world) "/" = false := by
  rw [← Bool.not_eq_true]
  intro ends
  have last := Path.last_eq_empty_of_endsWith ends
  rw [steps_freshDirectory, List.getLast?_concat, Option.some.injEq] at last
  exact (isName_fresh world.namesGiven).filled last

/-- How entering a scope with a directory of its own ends: without the directory, with one
that could not be filled and is removed again, or with a filled one. -/
inductive FreshRun (options : ScopeOptions) (world : World) (manager : ScopeManager) :
    Except Failure Scope → World → Prop where
  | unmade {failure : Failure} {after : World} :
      world.SameFiles after →
      FreshRun options world manager (.error failure) after
  | unfilled {files : FileTree} {top : Place} {failure : Failure} {filled after : World}
      {final : ScopeManager} :
      world.files.makeFresh (Path.join manager.scratch "pfiles-")
        (FreshName.short world.namesGiven) = .ok files →
      Made world.files (freshDirectory manager world) top files →
      Ready files (freshDirectory manager world) top →
      (populate manager options (world.environment.get? manager.pathVariable)
        (freshDirectory manager world)).perform
          (World.withFiles { world with namesGiven := world.namesGiven + 1 } files) manager =
        (.error failure, filled, final) →
      (filled.withFiles (filled.files.remove (freshDirectory manager world) true).2).SameFiles
        after →
      FreshRun options world manager
        (.error (populationFailure (freshDirectory manager world) failure)) after
  | filled {files : FileTree} {top : Place} {scope : Scope} {filled after : World}
      {final : ScopeManager} :
      world.files.makeFresh (Path.join manager.scratch "pfiles-")
        (FreshName.short world.namesGiven) = .ok files →
      Made world.files (freshDirectory manager world) top files →
      Ready files (freshDirectory manager world) top →
      (populate manager options (world.environment.get? manager.pathVariable)
        (freshDirectory manager world)).perform
          (World.withFiles { world with namesGiven := world.namesGiven + 1 } files) manager =
        (.ok scope.copied, filled, final) →
      scope.directory = freshDirectory manager world →
      scope.owned = true →
      filled.SameFiles after →
      FreshRun options world manager (.ok scope) after

theorem freshRun_of_enter {final : ScopeManager} (rooted : world.files.Rooted)
    (unnamed : options.directory.filter (· ≠ "") = none)
    (entering : (enter options).perform world manager = (outcome, after, final)) :
    FreshRun options world manager outcome after := by
  have making := perform_makeDirectory_fresh manager unnamed world manager
  cases makes : world.files.makeFresh (Path.join manager.scratch "pfiles-")
      (FreshName.short world.namesGiven) with
  | error fault =>
      rw [makes] at making
      cases run_of_enter entering with
      | unmade performed =>
          cases making.symm.trans performed
          exact .unmade ⟨rfl, rfl⟩
      | unfilled performed _ _ => cases making.symm.trans performed
      | filled performed _ _ _ _ _ => cases making.symm.trans performed
  | ok files =>
      rw [makes] at making
      obtain ⟨noNull, top, made⟩ := made_of_makeFresh rooted makes
      have ready := ready_of_made made noNull
      cases run_of_enter entering with
      | unmade performed => cases making.symm.trans performed
      | unfilled performed populated removed =>
          cases making.symm.trans performed
          exact .unfilled makes made ready populated removed
      | filled performed populated isDirectory isOwned isCopied kept =>
          cases making.symm.trans performed
          subst isCopied
          exact .filled makes made ready populated isDirectory isOwned kept

/-- The new directory is made and filled, and nothing changes outside of it meanwhile. -/
theorem passes_of_populate {files : FileTree} {result : Except Failure (List String)}
    {filled : World} {final : ScopeManager}
    (made : Made world.files (freshDirectory manager world) top files)
    (ready : Ready files (freshDirectory manager world) top)
    (populated : (populate manager options (world.environment.get? manager.pathVariable)
      (freshDirectory manager world)).perform
        (World.withFiles { world with namesGiven := world.namesGiven + 1 } files) manager =
      (result, filled, final)) :
    Filled files top filled.files ∧
      world.Passes (world.files.SameOutside (freshDirectory manager world)) filled := by
  obtain ⟨isFilled, passes⟩ := fillsIn_of_populate ready
    (World.withFiles { world with namesGiven := world.namesGiven + 1 } files)
    made.vacant.filled manager options (world.environment.get? manager.pathVariable) manager
  rw [populated] at isFilled passes
  have first : world.Passes (world.files.SameOutside (freshDirectory manager world))
      (World.withFiles { world with namesGiven := world.namesGiven + 1 } files) :=
    .withFiles { world with namesGiven := world.namesGiven + 1 }
      (sameOutside_of_filled made made.vacant.filled)
  exact ⟨isFilled, first.trans (passes.mono fun _ filled => sameOutside_of_filled made filled)⟩

/-- A scope with a directory of its own leaves no trace outside of it: not while it is entered,
and none at all when it cannot be entered or is left. -/
theorem traceless_of_enter {next : World × ScopeManager} (rooted : world.files.Rooted)
    (unnamed : options.directory.filter (· ≠ "") = none)
    (entering : (enter options).perform world manager = (outcome, next)) :
    Traceless manager world outcome next.1 := by
  cases freshRun_of_enter rooted unnamed entering with
  | unmade kept =>
      have same : Same world.files next.1.files :=
        ⟨by rw [kept.files], fun _ => by rw [kept.files]⟩
      exact ⟨.of_same kept.trees, same.outside _, fun _ _ => same,
        fun _ entered => (by cases entered), fun _ _ _ _ entered => (by cases entered)⟩
  | @unfilled _ _ _ populated _ _ _ made ready fills removed =>
      obtain ⟨filled, passes⟩ := passes_of_populate made ready fills
      have pruned : next.1.files = _ :=
        removed.files.trans (congrArg Prod.snd (ready.remove_eq filled))
      have same : Same world.files next.1.files :=
        pruned ▸ made.same_prune (sameOutside_of_filled made filled)
      refine ⟨?_, same.outside _, fun _ _ => same, fun _ entered => (by cases entered),
        fun _ _ _ _ entered => (by cases entered)⟩
      rw [removed.files] at same
      have last := World.Passes.withFiles populated (same.outside (freshDirectory manager world))
      exact (passes.trans last).trans (.of_same removed.trees)
  | filled _ made ready fills isDirectory isOwned kept =>
      obtain ⟨filled, passes⟩ := passes_of_populate made ready fills
      rw [← kept.files] at filled
      constructor
      · exact passes.trans (.of_same kept.trees)
      · exact sameOutside_of_filled made filled
      · intro _ failed
        cases failed
      · intro scope entered
        cases entered
        refine ⟨isDirectory, isOwned, fun place located below later => ?_⟩
        rw [isDirectory] at located
        cases made.located.symm.trans located
        exact made.bare below later
      · intro scope later outer next entered same rooted removed leaving
        cases entered
        rw [isDirectory] at same removed
        have files := files_of_leave leaving
        rw [isOwned, if_pos rfl, isDirectory] at files
        rw [files]
        exact same_of_remove made ready same rooted
          (unslashed_freshDirectory manager world) removed

/-- A directory with the parameter file of one tool, and a place for new directories. -/
def shelf : World :=
  { World.empty with
    files := { nodes := .ofList [(["lib"], .directory 0o755),
                 (["lib", "a.par"], .file "x,i,h,1,,,\n" 0o444), (["tmp"], .directory 0o755)]
               here := [] }
    environment := .ofList [("PFILES", "lib")] }

theorem rooted_shelf : shelf.files.Rooted := by
  apply rooted_of_keys
  decide

/-- A scope with a copy of the file on the shelf. -/
def copyScope : Scope where
  id := 1
  directory := "tmp/pfiles-000000"
  environment := .ofList [("PFILES", "tmp/pfiles-000000;lib")]
  previous := some "lib"
  copied := ["a"]
  owned := true

def inCopy : World × ScopeManager :=
  ((enter { ScopeOptions.none with seeds := ["a"] }).perform shelf (idle "PFILES" "tmp")).2

/-- Something else is written into its directory. -/
def scribbled : World :=
  { inCopy.1 with
    files := inCopy.1.files.place ["tmp", "pfiles-000000", "log"] (.file "text" 0o600) }

/-- A scope with files of two tools, of which the second is missing. -/
def pair : ScopeOptions := { ScopeOptions.none with seeds := ["a", "b"] }

/-- The directory for these files is made. -/
def begun : World × ScopeManager :=
  ((makeDirectory (idle "PFILES" "tmp") pair).perform shelf (idle "PFILES" "tmp")).2

theorem fst_enter_pair : ((enter pair).perform shelf (idle "PFILES" "tmp")).1 =
    .error (.scope (.missingSeed "b" "PFILES" "lib")) := by
  have making : (makeDirectory (idle "PFILES" "tmp") pair).perform shelf (idle "PFILES" "tmp") =
      (.ok ("tmp/pfiles-000000", true), begun) := Action.perform_eq (by decide +kernel)
  have filling : ((populate (idle "PFILES" "tmp") pair
      (shelf.environment.get? (idle "PFILES" "tmp").pathVariable)
        "tmp/pfiles-000000").perform begun.1 begun.2).1 =
      .error (.scope (.missingSeed "b" "PFILES" "lib")) := by decide +kernel
  exact fst_enter_of_unfilled making filling

/-- A tool is missing after the file of another one was copied; and a scope is left after
something else was written into its directory. -/
theorem traceless_shelf :
    shelf.files.Same ((enter pair).perform shelf (idle "PFILES" "tmp")).2.1.files ∧
      shelf.files.Same ((leave copyScope).perform scribbled inCopy.2).2.1.files := by
  have refused :=
    traceless_of_enter rooted_shelf (by rfl) (Action.perform_eq fst_enter_pair)
  have entering : (enter { ScopeOptions.none with seeds := ["a"] }).perform shelf
      (idle "PFILES" "tmp") = (.ok copyScope, inCopy) :=
    Action.perform_eq (by decide +kernel)
  have entered := traceless_of_enter rooted_shelf (by rfl) entering
  have inside : shelf.files.SameOutside copyScope.directory scribbled.files := by
    refine ⟨by decide +kernel, fun place outside => ?_⟩
    have apart : ¬["tmp", "pfiles-000000"] <+: place := outside _ (by decide +kernel)
    rw [scribbled, node?_place (by decide), if_neg]
    · exact entered.outside.nodes place outside
    · rintro rfl
      exact apart (by decide)
  have rooted : scribbled.files.Rooted := by
    apply rooted_of_keys
    decide +kernel
  have removed : scribbled.files.remove copyScope.directory true =
      (.ok (), scribbled.files.prune ["tmp", "pfiles-000000"]) := by
    apply remove_of_unobstructed <;> decide +kernel
  have leaving : ((leave copyScope).perform scribbled inCopy.2).1 = .ok () := by
    rcases perform_leave copyScope scribbled inCopy.2 with
      ⟨_, _, performed, _⟩ | ⟨outside, _⟩
    · rw [performed]
    · exact absurd rfl (outside copyScope (by decide +kernel))
  refine ⟨refused.refused _ rfl, ?_⟩
  exact entered.left copyScope scribbled _ _ rfl inside rooted (congrArg Prod.fst removed)
    (Action.perform_eq leaving)

end Fresh

end ScopeManager

end ToolParams
