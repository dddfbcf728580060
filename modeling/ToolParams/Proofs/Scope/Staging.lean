import ToolParams.Proofs.Scope.Copying
import ToolParams.Proofs.Scope.Finding
import ToolParams.Proofs.Scope.Traces

/-!
# Parameter files in the new directory of a scope

While the directory of a scope is filled, the directories of the search path have the files
that they had, and the new directory has copies of the files that were wanted so far, each
of the first one along the search path.
-/

namespace ToolParams.ScopeManager

open FileTree

variable {manager : ScopeManager} {world : World} {options : ScopeOptions}
  {tree base stage : FileTree} {fresh folder tool name : String} {top : Place}
  {path : SearchPath} {folders copied : List String} {σ : Type}

/-- A path that leads nowhere does not lead into a new directory either, nor anywhere else
because of it. -/
def StaysAside (tree made : FileTree) (fresh folder : String) : Prop :=
  (∀ node, tree.lookup folder ≠ .ok node) →
    ∀ place, made.locate folder .followed = .ok place →
      tree.locate folder .followed = .ok place ∧ made.IsOutside fresh place

/-- The name of the new directory is not that of a parameter file. -/
theorem ne_fileName_of_made (made : Made tree (freshDirectory manager world) top base)
    (position : Place) (tool : String) : top ≠ position ++ [ParameterFile.fileName tool] := by
  rintro rfl
  obtain ⟨_, _, walked⟩ := locate_eq_ok_iff.mp made.located
  rw [steps_freshDirectory] at walked
  obtain ⟨middle, left, _, second⟩ :=
    exists_of_locateFrom_append (List.cons_ne_nil _ _) walked
  obtain ⟨_, _, reached⟩ := of_locateFrom_name (isName_fresh world.namesGiven) second
  have same := reached.resolve_right fun ⟨itself, _⟩ => itself rfl
  have named : ParameterFile.fileName tool = "pfiles-" ++ FreshName.short world.namesGiven :=
    List.singleton_injective (List.append_inj' same rfl).2
  have dot : '.' ∈ ("pfiles-" ++ FreshName.short world.namesGiven).toList := by
    rw [← named]
    simp [ParameterFile.fileName, ParameterFile.ending]
  rw [String.toList_append, List.mem_append] at dot
  rcases dot with inFront | digit
  · exact absurd inFront (by decide)
  · exact absurd (FreshName.isDigit_of_mem_short digit) (by decide)

/-- A tree while the new directory of a scope is filled with parameter files. -/
structure Staged (tree : FileTree) (fresh : String) (top : Place) (base stage : FileTree) :
    Prop where
  made : Made tree fresh top base
  ready : Ready base fresh top
  filled : Filled base top stage
  unlike : ∀ position tool, top ≠ position ++ [ParameterFile.fileName tool]

namespace Staged

variable (staged : Staged tree fresh top base stage)

include staged

theorem node?_apart {place : Place} (apart : ¬top <+: place) :
    stage.node? place = tree.node? place := by
  rw [staged.filled.outside, staged.made.outside _ apart]
  rintro name rfl
  exact apart (List.prefix_append top [name])

theorem apart_fileName {place : Place} (apart : ¬top <+: place) (tool : String) :
    ¬top <+: place ++ [ParameterFile.fileName tool] := by
  intro below
  rcases List.prefix_concat_iff.mp below with whole | before
  · exact staged.unlike _ _ whole
  · exact apart before

theorem apart_of_node? {place : Place} (held : tree.node? place ≠ none) : ¬top <+: place :=
  fun below => held (staged.made.bare place below)

/-- What a path leads to it leads to still. -/
theorem locate {place : Place} (located : tree.locate folder .followed = .ok place)
    (held : tree.node? place ≠ none) : stage.locate folder .followed = .ok place :=
  (staged.made.fewer (sameOutside_of_filled staged.made staged.filled)).locate located
    fun nothing => absurd nothing held

/-- A directory of the search path is where it was. -/
theorem of_locate (aside : StaysAside tree base fresh folder) {place : Place}
    (located : stage.locate folder .followed = .ok place) :
    tree.locate folder .followed = .ok place ∧ ¬top <+: place := by
  by_cases found : ∃ node, tree.lookup folder = .ok node
  · obtain ⟨node, found⟩ := found
    obtain ⟨other, before, held⟩ := lookup_eq_ok_iff.mp found
    have stands : tree.node? other ≠ none := held ▸ Option.some_ne_none node
    cases located.symm.trans (staged.locate before stands)
    exact ⟨before, staged.apart_of_node? stands⟩
  · rw [not_exists] at found
    have leads := (staged.filled.sameRoutes staged.ready.vacant).locate_iff.mp located
    obtain ⟨before, outside⟩ := aside found place leads
    exact ⟨before, outside top staged.ready.located⟩

/-- A directory of the search path has the parameter files that it had. -/
theorem child?_eq (aside : StaysAside tree base fresh folder) (tool : String) :
    stage.child? folder (ParameterFile.fileName tool) =
      tree.child? folder (ParameterFile.fileName tool) := by
  apply Option.ext
  intro node
  rw [child?_eq_some_iff, child?_eq_some_iff]
  constructor
  · rintro ⟨place, located, ⟨mode, directory, isOpen⟩, held⟩
    obtain ⟨before, apart⟩ := staged.of_locate aside located
    rw [staged.node?_apart apart] at directory
    rw [staged.node?_apart (staged.apart_fileName apart tool)] at held
    exact ⟨place, before, ⟨mode, directory, isOpen⟩, held⟩
  · rintro ⟨place, located, ⟨mode, directory, isOpen⟩, held⟩
    have stands : tree.node? place ≠ none := directory ▸ Option.some_ne_none _
    have apart := staged.apart_of_node? stands
    rw [← staged.node?_apart apart] at directory
    rw [← staged.node?_apart (staged.apart_fileName apart tool)] at held
    exact ⟨place, staged.locate located stands, ⟨mode, directory, isOpen⟩, held⟩

theorem source (source : IsSource tree folder) (aside : StaysAside tree base fresh folder) :
    IsSource stage folder := by
  constructor
  · exact source.straight
  · exact source.fits
  · intro node found
    obtain ⟨place, located, held⟩ := lookup_eq_ok_iff.mp found
    obtain ⟨before, apart⟩ := staged.of_locate aside located
    rw [staged.node?_apart apart] at held
    exact source.stands node (lookup_eq_ok_iff.mpr ⟨place, before, held⟩)
  · intro place name node located ends held
    obtain ⟨before, apart⟩ := staged.of_locate aside located
    have named := ParameterFile.fileName_toolOf ends
    rw [← named, staged.node?_apart (staged.apart_fileName apart _), named] at held
    exact source.files place name node before ends held

theorem child?_fresh (name : String) : stage.child? fresh name = stage.node? (top ++ [name]) := by
  have routes := staged.filled.sameRoutes staged.ready.vacant
  obtain ⟨mode, directory, isOpen⟩ := staged.ready.opens
  have searchable : stage.isSearchable top = true :=
    isSearchable_iff.mpr ⟨mode, routes.directory.mpr directory, isOpen⟩
  rw [child?, routes.locate staged.ready.followed]
  simp only [searchable, if_true]

end Staged

theorem Staged.place_eq (staged : Staged tree fresh top base stage) (noSlash : '/' ∉ tool.toList)
    {goal : Place} {ending : Ending}
    (located : stage.locate (Path.join fresh (ParameterFile.fileName tool)) ending = .ok goal) :
    goal = top ++ [ParameterFile.fileName tool] :=
  staged.ready.place_eq staged.filled (ParameterFile.isName_fileName noSlash) located

theorem Staged.locate_ne_notFound (staged : Staged tree fresh top base stage)
    (noSlash : '/' ∉ tool.toList) (ending : Ending) :
    stage.locate (Path.join fresh (ParameterFile.fileName tool)) ending ≠ .error .notFound := by
  have routes := staged.filled.sameRoutes staged.ready.vacant
  obtain ⟨mode, directory, isOpen⟩ := staged.ready.opens
  have unlinked (target : String) :
      stage.node? (top ++ [ParameterFile.fileName tool]) ≠ some (.link target) := by
    rw [Ne, node?_eq_link_iff, staged.filled.files]
    exact fun linked => by cases linked
  rcases locate_join_cases (ParameterFile.isName_fileName noSlash) staged.ready.straight
    (routes.locate staged.ready.followed) ⟨mode, routes.directory.mpr directory, isOpen⟩
    unlinked ending with located | tooLong
  · rw [located]
    exact fun missing => by cases missing
  · rw [tooLong]
    exact fun missing => by cases missing

/-- How copying the parameter file of a tool from a directory to a place ends. -/
inductive Fetches (tree : FileTree) (folder tool : String) (top : Place) :
    Except Failure Unit → FileTree → Prop where
  | fetched {content : String} {mode : Nat} {after : FileTree} :
      tree.child? folder (ParameterFile.fileName tool) = some (.file content mode) →
      (∀ name, after.node? (top ++ [name]) =
        if name = ParameterFile.fileName tool then some (.file content (copyMode mode))
        else tree.node? (top ++ [name])) →
      Fetches tree folder tool top (.ok ()) after
  | vanished {fault : FileFault} :
      fault.code = FileCause.notFound.code →
      tree.child? folder (ParameterFile.fileName tool) = none →
      Fetches tree folder tool top (.error (.file fault)) tree
  | failed {fault : FileFault} {after : FileTree} :
      fault.code ≠ FileCause.notFound.code →
      Fetches tree folder tool top (.error (.file fault)) after

/-- A parameter file that is copied into the new directory comes from the directory that has
it, and the copy can be read and written. -/
theorem fetches_of_copyInto (staged : Staged tree fresh top base world.files)
    (source : IsSource world.files folder) (filled : folder ≠ "") (noSlash : '/' ∉ tool.toList)
    (state : σ) :
    ∃ outcome files trees,
      (copyInto (Path.join folder (ParameterFile.fileName tool)) fresh).perform world state =
        (outcome, { world with files, trees }, state) ∧
      Staged tree fresh top base files ∧ Fetches world.files folder tool top outcome files := by
  have rooted := staged.filled.rooted staged.ready.vacant staged.ready.rooted
  have isName := ParameterFile.isName_fileName noSlash
  obtain ⟨outcome, files, trees, performed, copies⟩ :=
    perform_copyInto rooted (Path.join folder (ParameterFile.fileName tool)) fresh state
  rw [ParameterFile.baseName_join, ParameterFile.baseName_fileName noSlash] at copies
  refine ⟨outcome, files, trees, performed, ?_⟩
  cases copies with
  | @refused fault missing =>
      refine ⟨staged, ?_⟩
      by_cases isMissing : fault.code = FileCause.notFound.code
      · refine .vanished isMissing (source.child?_of_missing noSlash ?_)
        exact (missing isMissing).resolve_right (staged.locate_ne_notFound noSlash .writable)
      · exact .failed isMissing
  | broken located touches =>
      rw [staged.place_eq noSlash located] at touches
      refine ⟨{ staged with filled := staged.filled.touch touches }, .failed ?_⟩
      simp [FileFault.code, FileCause.code]
  | done leads held located touches isCopy =>
      cases staged.place_eq noSlash located
      refine ⟨{ staged with filled := staged.filled.touch touches }, ?_⟩
      refine .fetched (source.child?_of_locate noSlash filled leads held) fun name => ?_
      by_cases same : name = ParameterFile.fileName tool
      · rw [if_pos same, same, isCopy]
      · rw [if_neg same]
        refine touches.others _ fun alike => same ?_
        exact List.singleton_injective (List.append_inj' alike rfl).2

/-- What becomes of a file that is copied. -/
def asCopy : Node → Node
  | .file content mode => .file content (copyMode mode)
  | other => other

/-- In the new directory are the files of the tools that were copied so far, each with the
content that the first of some directories has for it. -/
structure Overlay (tree : FileTree) (folders : List String) (top : Place)
    (copied : List String) (stage : FileTree) : Prop where
  found : ∀ tool ∈ copied, tree.firstChild? folders (ParameterFile.fileName tool) ≠ none
  entries : ∀ name, stage.node? (top ++ [name]) =
    if name ∈ copied.map ParameterFile.fileName then (tree.firstChild? folders name).map asCopy
    else none

theorem Overlay.begin (vacant : Vacant base top) : Overlay tree folders top [] base where
  found := fun _ member => absurd member List.not_mem_nil
  entries := fun name => by simp [vacant.bare_name name]

theorem Overlay.fetch {content : String} {mode : Nat} {after : FileTree}
    (overlay : Overlay tree folders top copied stage)
    (first : tree.firstChild? folders (ParameterFile.fileName tool) = some (.file content mode))
    (fetched : ∀ name, after.node? (top ++ [name]) =
      if name = ParameterFile.fileName tool then some (.file content (copyMode mode))
      else stage.node? (top ++ [name])) :
    Overlay tree folders top (copied ++ [tool]) after where
  found := by
    intro other member
    rcases List.mem_append.mp member with before | last
    · exact overlay.found other before
    · rw [List.mem_singleton.mp last, first]
      exact Option.some_ne_none _
  entries := by
    intro name
    rw [fetched, overlay.entries]
    by_cases same : name = ParameterFile.fileName tool
    · subst same
      simp [first, asCopy]
    · simp [same]

/-- The directories of a search path can be searched before and after the new directory is
there. -/
def AreSources (tree base : FileTree) (fresh : String) (folders : List String) : Prop :=
  ∀ folder ∈ folders, folder ≠ "" ∧ IsSource tree folder ∧ StaysAside tree base fresh folder

namespace AreSources

theorem atStage (sources : AreSources tree base fresh folders)
    (staged : Staged tree fresh top base stage) :
    ∀ folder ∈ folders, folder ≠ "" ∧ IsSource stage folder := by
  intro folder member
  obtain ⟨filled, source, aside⟩ := sources folder member
  exact ⟨filled, staged.source source aside⟩

theorem firstChild?_eq (sources : AreSources tree base fresh folders)
    (staged : Staged tree fresh top base stage) (tool : String) :
    stage.firstChild? folders (ParameterFile.fileName tool) =
      tree.firstChild? folders (ParameterFile.fileName tool) := by
  induction folders with
  | nil => rfl
  | cons folder rest induction =>
      obtain ⟨_, _, aside⟩ := sources folder List.mem_cons_self
      have later := induction fun other member => sources other (List.mem_cons_of_mem _ member)
      unfold firstChild? at later ⊢
      rw [List.findSome?_cons, List.findSome?_cons, staged.child?_eq aside, later]

end AreSources

/-- Copying the files of seeds overlays them. -/
theorem overlay_of_copySeeds {searched : Option String} {seeds : List String} {state : σ}
    {next : World × σ} (sources : AreSources tree base fresh (path.user ++ path.system))
    (staged : Staged tree fresh top base world.files)
    (overlay : Overlay tree (path.user ++ path.system) top copied world.files)
    (noSlash : ∀ seed ∈ seeds, '/' ∉ seed.toList)
    (performed : (copySeeds manager searched path fresh seeds).perform world state =
      (.ok (), next)) :
    Staged tree fresh top base next.1.files ∧
      Overlay tree (path.user ++ path.system) top (copied ++ seeds) next.1.files := by
  induction seeds generalizing copied world with
  | nil =>
      cases performed
      rw [List.append_nil]
      exact ⟨staged, overlay⟩
  | cons seed rest induction =>
      simp only [copySeeds, Action.perform_bind, Action.perform_look] at performed
      cases found : find? world.files seed (path.user ++ path.system) with
      | error fault =>
          rw [found] at performed
          cases performed
      | ok result =>
          have isSeed := noSlash seed List.mem_cons_self
          obtain ⟨_, present⟩ := firstChild?_of_find? (sources.atStage staged) isSeed found
          rw [found] at performed
          cases result with
          | none => cases performed
          | some file =>
              obtain ⟨folder, member, rfl, _, first⟩ := present file rfl
              obtain ⟨filled, source⟩ := sources.atStage staged folder member
              obtain ⟨outcome, files, trees, copies, reached, fetches⟩ :=
                fetches_of_copyInto staged source filled isSeed state
              simp only [Outcome.mapError_ok, Action.perform_bind, copies] at performed
              cases fetches with
              | fetched held fetched =>
                  rw [sources.firstChild?_eq staged, held] at first
                  have larger := induction reached (overlay.fetch first fetched)
                    (fun other later => noSlash other (List.mem_cons_of_mem _ later)) performed
                  rwa [List.append_assoc] at larger
              | vanished _ _ => cases performed
              | failed _ => cases performed

end ToolParams.ScopeManager
