import ToolParams.Proofs.Scope.Staging
import ToolParams.Proofs.SearchPath

/-!
# What the directory of a scope holds

The directory of a scope gets the files of the seeds, each from the first directory of the
search path that has it, and on demand the private files that have no counterpart in the
system.  Together with the system directories it has every file that could be found before.
-/

namespace ToolParams.ScopeManager

open FileTree

variable {manager : ScopeManager} {world : World} {options : ScopeOptions}
  {tree base stage : FileTree} {fresh folder tool name : String} {top : Place}
  {path : SearchPath} {copied : List String} {σ : Type}

/-- If a directory has the parameter file of a tool, it was copied, or the system has one. -/
def Settles (tree : FileTree) (system : List String) (folder : String) (copied : List String)
    (tool : String) : Prop :=
  tree.child? folder (ParameterFile.fileName tool) ≠ none →
    tool ∈ copied ∨ tree.firstChild? system (ParameterFile.fileName tool) ≠ none

/-- The private files of some directories were copied, unless the system has files of their
names, and no others. -/
structure Gathered (tree : FileTree) (fresh : String) (top : Place) (base : FileTree)
    (path : SearchPath) (seeds done copied : List String) (stage : FileTree) : Prop where
  staged : Staged tree fresh top base stage
  overlay : Overlay tree (path.user ++ path.system) top copied stage
  others : ∃ others, copied = seeds ++ others ∧ others.Nodup ∧ ∀ tool ∈ others, tool ∉ seeds ∧
    (∃ folder ∈ path.user, tree.child? folder (ParameterFile.fileName tool) ≠ none) ∧
    tree.firstChild? path.system (ParameterFile.fileName tool) = none
  settled : ∀ folder ∈ done, ∀ tool, Settles tree path.system folder copied tool

theorem mem_user_of_split {done rest : List String}
    (split : path.user = done ++ folder :: rest) : folder ∈ path.user := by
  rw [split]
  exact List.mem_append_right _ List.mem_cons_self

/-- One more private file is copied. -/
theorem Gathered.fetch {seeds done rest : List String} {content : String} {mode : Nat}
    {after : FileTree} (gathered : Gathered tree fresh top base path seeds done copied stage)
    (split : path.user = done ++ folder :: rest) (isNew : tool ∉ copied)
    (unshared : tree.firstChild? path.system (ParameterFile.fileName tool) = none)
    (held : tree.child? folder (ParameterFile.fileName tool) = some (.file content mode))
    (reached : Staged tree fresh top base after)
    (fetched : ∀ name, after.node? (top ++ [name]) =
      if name = ParameterFile.fileName tool then some (.file content (copyMode mode))
      else stage.node? (top ++ [name])) :
    Gathered tree fresh top base path seeds done (copied ++ [tool]) after where
  staged := reached
  overlay := by
    refine gathered.overlay.fetch ?_ fetched
    -- a file in an earlier private directory would have been copied, or not be wanted at all
    have before : tree.firstChild? done (ParameterFile.fileName tool) = none := by
      refine List.findSome?_eq_none_iff.mpr fun other member => ?_
      by_contra has
      rcases gathered.settled other member tool has with isCopied | inSystem
      · exact isNew isCopied
      · exact inSystem unshared
    unfold firstChild? at before ⊢
    simp [split, before, held]
  others := by
    obtain ⟨others, rfl, nodup, all⟩ := gathered.others
    rw [List.mem_append, not_or] at isNew
    refine ⟨others ++ [tool], List.append_assoc .., ?_, fun other member => ?_⟩
    · exact List.nodup_append_comm.mp (List.nodup_cons.mpr ⟨isNew.2, nodup⟩)
    · rcases List.mem_append.mp member with earlier | last
      · exact all other earlier
      · rw [List.mem_singleton.mp last]
        have isUser := mem_user_of_split split
        exact ⟨isNew.1, ⟨folder, isUser, held ▸ Option.some_ne_none _⟩, unshared⟩
  settled := by
    intro other member tool has
    exact (gathered.settled other member tool has).imp_left (List.mem_append_left _)

theorem Gathered.settle {seeds done : List String}
    (gathered : Gathered tree fresh top base path seeds done copied stage)
    (settled : ∀ tool, Settles tree path.system folder copied tool) :
    Gathered tree fresh top base path seeds (done ++ [folder]) copied stage :=
  { gathered with
    settled := by
      intro other member
      rcases List.mem_append.mp member with before | last
      · exact gathered.settled other before
      · exact List.mem_singleton.mp last ▸ settled }

/-- What becomes of the file of a tool in a private directory: it was copied before, the
system has one, it is copied now, or it has vanished. -/
inductive Considers (system : List String) (folder fresh : String) (copied : List String)
    (tool : String) (start : World × σ) : List String → World × σ → Prop where
  | known : tool ∈ copied → Considers system folder fresh copied tool start copied start
  | shared {file : String} :
      find? start.1.files tool system = .ok (some file) →
      Considers system folder fresh copied tool start copied start
  | fetched {after : World × σ} :
      tool ∉ copied →
      find? start.1.files tool system = .ok none →
      (copyInto (Path.join folder (ParameterFile.fileName tool)) fresh).perform start.1 start.2 =
        (.ok (), after) →
      Considers system folder fresh copied tool start (copied ++ [tool]) after
  | vanished {fault : FileFault} {after noted : World × σ} :
      (copyInto (Path.join folder (ParameterFile.fileName tool)) fresh).perform start.1 start.2 =
        (.error (.file fault), after) →
      fault.code = FileCause.notFound.code →
      noted.1.files = after.1.files →
      Considers system folder fresh copied tool start copied noted

/-- Copying private files considers the first one and then copies the others. -/
theorem considers_of_copyUserFiles {system names all : List String} {state : σ}
    {next : World × σ} (performed : (copyUserFiles system folder fresh copied
      (ParameterFile.fileName tool :: names)).perform world state = (.ok all, next)) :
    ∃ more moment, Considers system folder fresh copied tool (world, state) more moment ∧
      (copyUserFiles system folder fresh more names).perform moment.1 moment.2 =
        (.ok all, next) := by
  unfold copyUserFiles at performed
  rw [ParameterFile.toolOf_fileName] at performed
  dsimp only at performed
  by_cases isCopied : tool ∈ copied
  · rw [if_pos isCopied] at performed
    exact ⟨copied, (world, state), .known isCopied, performed⟩
  · rw [if_neg isCopied, Action.perform_bind, Action.perform_look] at performed
    cases found : find? world.files tool system with
    | error fault =>
        rw [found] at performed
        cases performed
    | ok result =>
        rw [found] at performed
        cases result with
        | some file => exact ⟨copied, (world, state), .shared found, performed⟩
        | none =>
            simp only [Outcome.mapError_ok, Action.perform_bind, Action.perform_outcome]
              at performed
            rcases copies : (copyInto (Path.join folder (ParameterFile.fileName tool))
              fresh).perform world state with ⟨failure | ⟨⟨⟩⟩, after⟩
            · rw [copies] at performed
              cases failure with
              | file fault =>
                  dsimp only at performed
                  split_ifs at performed with missing
                  · rw [Action.perform_bind, Action.perform_note] at performed
                    refine ⟨copied, (_, after.2), .vanished copies missing ?_, performed⟩
                    rfl
                  · cases performed
              | _ => cases performed
            · rw [copies] at performed
              exact ⟨copied ++ [tool], after, .fetched isCopied found copies, performed⟩

theorem Settles.mono {system more : List String}
    (settles : Settles tree system folder copied tool) (covered : copied ⊆ more) :
    Settles tree system folder more tool :=
  fun has => (settles has).imp_left fun isCopied => covered isCopied

/-- Considering a private file gathers it. -/
theorem Gathered.consider {seeds done rest more : List String} {start moment : World × σ}
    (sources : AreSources tree base fresh (path.user ++ path.system))
    (split : path.user = done ++ folder :: rest) (noSlash : '/' ∉ tool.toList)
    (gathered : Gathered tree fresh top base path seeds done copied start.1.files)
    (considers : Considers path.system folder fresh copied tool start more moment) :
    Gathered tree fresh top base path seeds done more moment.1.files ∧ copied ⊆ more ∧
      Settles tree path.system folder more tool := by
  have staged := gathered.staged
  have system : AreSources tree base fresh path.system :=
    fun other member => sources other (List.mem_append_right _ member)
  have isOurs : folder ∈ path.user ++ path.system :=
    List.mem_append_left _ (mem_user_of_split split)
  obtain ⟨filled, source⟩ := sources.atStage staged folder isOurs
  obtain ⟨_, _, aside⟩ := sources folder isOurs
  obtain ⟨outcome, files, trees, copies, reached, fetches⟩ :=
    fetches_of_copyInto staged source filled noSlash start.2
  cases considers with
  | known isCopied => exact ⟨gathered, List.Subset.refl _, fun _ => .inl isCopied⟩
  | shared found =>
      obtain ⟨other, _, _, has, first⟩ :=
        (firstChild?_of_find? (system.atStage staged) noSlash found).2 _ rfl
      rw [system.firstChild?_eq staged] at first
      refine ⟨gathered, List.Subset.refl _, fun _ => .inr ?_⟩
      rw [first]
      exact Option.isSome_iff_ne_none.mp has
  | fetched isNew found performed =>
      have unshared := (firstChild?_of_find? (system.atStage staged) noSlash found).1 rfl
      rw [system.firstChild?_eq staged] at unshared
      rw [performed] at copies
      cases copies
      cases fetches with
      | fetched held fetched =>
          rw [staged.child?_eq aside] at held
          exact ⟨gathered.fetch split isNew unshared held reached fetched,
            List.subset_append_left _ _,
            fun _ => .inl (List.mem_append_right _ List.mem_cons_self)⟩
  | vanished performed missing noted =>
      rw [performed] at copies
      cases copies
      cases fetches with
      | vanished _ lacks =>
          rw [staged.child?_eq aside] at lacks
          exact ⟨noted ▸ gathered, List.Subset.refl _, fun has => absurd lacks has⟩
      | failed other => exact absurd missing other

/-- Copying the private files of a directory gathers them. -/
theorem gathered_of_copyUserFiles {seeds done rest names all : List String} {state : σ}
    {next : World × σ} (sources : AreSources tree base fresh (path.user ++ path.system))
    (split : path.user = done ++ folder :: rest)
    (named : ∀ name ∈ names, ∃ tool, name = ParameterFile.fileName tool ∧ '/' ∉ tool.toList)
    (gathered : Gathered tree fresh top base path seeds done copied world.files)
    (performed : (copyUserFiles path.system folder fresh copied names).perform world state =
      (.ok all, next)) :
    Gathered tree fresh top base path seeds done all next.1.files ∧ copied ⊆ all ∧
      ∀ tool, ParameterFile.fileName tool ∈ names →
        Settles tree path.system folder all tool := by
  -- `Gathered` is the invariant; a file that was considered stays settled as more are copied
  induction names generalizing copied world state with
  | nil =>
      cases performed
      exact ⟨gathered, List.Subset.refl _, fun _ member => absurd member List.not_mem_nil⟩
  | cons name names induction =>
      obtain ⟨tool, rfl, noSlash⟩ := named name List.mem_cons_self
      obtain ⟨more, moment, considers, later⟩ := considers_of_copyUserFiles performed
      obtain ⟨midway, kept, settles⟩ := gathered.consider sources split noSlash considers
      obtain ⟨reached, covered, settled⟩ := induction
        (fun other member => named other (List.mem_cons_of_mem _ member)) midway later
      refine ⟨reached, List.Subset.trans kept covered, fun other member => ?_⟩
      rcases List.mem_cons.mp member with same | after
      · exact ParameterFile.eq_of_fileName same ▸ settles.mono covered
      · exact settled other after

/-- Copying the private files of all directories gathers them. -/
theorem gathered_of_copyUserDirectories {seeds done rest all : List String} {state : σ}
    {next : World × σ} (sources : AreSources tree base fresh (path.user ++ path.system))
    (split : path.user = done ++ rest)
    (gathered : Gathered tree fresh top base path seeds done copied world.files)
    (performed : (copyUserDirectories path.system fresh copied rest).perform world state =
      (.ok all, next)) :
    Gathered tree fresh top base path seeds path.user all next.1.files := by
  induction rest generalizing done copied world state with
  | nil =>
      cases performed
      rw [List.append_nil] at split
      exact split ▸ gathered
  | cons folder rest induction =>
      have splitLater : path.user = (done ++ [folder]) ++ rest := by
        rw [split, List.append_assoc, List.singleton_append]
      have isOurs : folder ∈ path.user ++ path.system :=
        List.mem_append_left _ (mem_user_of_split split)
      obtain ⟨_, _, aside⟩ := sources folder isOurs
      simp only [copyUserDirectories, Action.perform_bind, Action.perform_world] at performed
      cases listed : world.files.names folder with
      | ok names =>
          simp only [listed, Action.perform_bind] at performed
          rcases copies : (copyUserFiles path.system folder fresh copied
            (ParameterFile.select names)).perform world state with ⟨failure | more, middle, last⟩
          · rw [copies] at performed
            cases performed
          · rw [copies] at performed
            obtain ⟨_, source⟩ := sources.atStage gathered.staged folder isOurs
            obtain ⟨reached, _, settled⟩ := gathered_of_copyUserFiles sources split
              (fun _ => source.exists_tool_of_mem_select listed) gathered copies
            refine induction splitLater (reached.settle fun tool has => ?_) performed
            refine settled tool (mem_select_of_child? listed ?_) has
            rwa [gathered.staged.child?_eq aside]
      | error fault =>
          simp only [listed] at performed
          split_ifs at performed with missing
          · simp only [Action.perform_bind, Action.perform_note] at performed
            refine induction splitLater ?_ performed
            refine gathered.settle fun tool has => absurd ?_ has
            rw [← gathered.staged.child?_eq aside]
            exact child?_of_names_error listed missing _
          · cases performed

def searchPath (manager : ScopeManager) (world : World) : SearchPath :=
  .ofVariable (world.environment.get? manager.pathVariable)

def Offers (path : SearchPath) (tree : FileTree) (tool : String) : Prop :=
  ∃ folder ∈ path.user ++ path.system,
    tree.child? folder (ParameterFile.fileName tool) ≠ none

def Finds (path : SearchPath) (tree : FileTree) (tool : String) : Prop :=
  ∃ file, find? tree tool (path.user ++ path.system) = .ok (some file)

def Misses (path : SearchPath) (tree : FileTree) (tool : String) : Prop :=
  find? tree tool (path.user ++ path.system) = .ok none

/-- A private directory has the parameter file of a tool, and no system directory has one. -/
def IsPrivate (path : SearchPath) (tree : FileTree) (tool : String) : Prop :=
  (∃ folder ∈ path.user, tree.child? folder (ParameterFile.fileName tool) ≠ none) ∧
    ∀ folder ∈ path.system, tree.child? folder (ParameterFile.fileName tool) = none

/-- What filling the new directory gathers. -/
theorem gathered_of_populate {searched : Option String} {state : σ} {all : List String}
    {next : World × σ} (sources : AreSources tree base fresh
      ((SearchPath.ofVariable searched).user ++ (SearchPath.ofVariable searched).system))
    (staged : Staged tree fresh top base world.files) (empty : world.files = base)
    (noSlash : ∀ seed ∈ options.seeds, '/' ∉ seed.toList)
    (performed : (populate manager options searched fresh).perform world state =
      (.ok all, next)) :
    ∃ done, Gathered tree fresh top base (.ofVariable searched) options.seeds done all
        next.1.files ∧
      (options.copyUser = true → done = (SearchPath.ofVariable searched).user) ∧
      (options.copyUser = false → all = options.seeds) := by
  simp only [populate, Action.perform_bind] at performed
  rcases copies : (copySeeds manager searched (.ofVariable searched) fresh
    options.seeds).perform world state with ⟨failure | ⟨⟨⟩⟩, middle, last⟩
  · rw [copies] at performed
    cases performed
  · rw [copies] at performed
    have begun : Overlay tree
        ((SearchPath.ofVariable searched).user ++ (SearchPath.ofVariable searched).system) top []
        world.files := empty ▸ .begin staged.ready.vacant
    obtain ⟨reached, overlay⟩ := overlay_of_copySeeds sources staged begun noSlash copies
    have gathered : Gathered tree fresh top base (.ofVariable searched) options.seeds []
        options.seeds middle.files :=
      { staged := reached
        overlay := overlay
        others := ⟨[], (List.append_nil _).symm, .nil, fun _ none => (by cases none)⟩
        settled := fun _ none => (by cases none) }
    cases copyUser : options.copyUser with
    | true =>
        simp only [copyUser, if_true] at performed
        refine ⟨_, gathered_of_copyUserDirectories sources rfl gathered performed, fun _ => rfl, ?_⟩
        intro no
        cases no
    | false =>
        simp only [copyUser] at performed
        cases performed
        exact ⟨[], gathered, fun no => (by cases no), fun _ => rfl⟩

namespace Gathered

variable {seeds done all : List String}
  (gathered : Gathered tree fresh top base path seeds done all stage)

include gathered

theorem child?_ne_none_iff :
    stage.child? fresh (ParameterFile.fileName tool) ≠ none ↔ tool ∈ all := by
  rw [gathered.staged.child?_fresh, gathered.overlay.entries]
  constructor
  · intro held
    split_ifs at held with member
    · obtain ⟨other, isCopied, same⟩ := List.mem_map.mp member
      exact ParameterFile.eq_of_fileName same ▸ isCopied
    · exact absurd rfl held
  · intro isCopied
    rw [if_pos (List.mem_map_of_mem isCopied), Ne, Option.map_eq_none_iff]
    exact gathered.overlay.found tool isCopied

theorem exists_fileName (held : stage.child? fresh name ≠ none) :
    ∃ tool ∈ all, name = ParameterFile.fileName tool := by
  rw [gathered.staged.child?_fresh, gathered.overlay.entries] at held
  split_ifs at held with member
  · obtain ⟨tool, isCopied, same⟩ := List.mem_map.mp member
    exact ⟨tool, isCopied, same.symm⟩
  · exact absurd rfl held

theorem content {node : Node} (sources : AreSources tree base fresh (path.user ++ path.system))
    (held : stage.child? fresh (ParameterFile.fileName tool) = some node) :
    ∃ content mode,
      tree.firstChild? (path.user ++ path.system) (ParameterFile.fileName tool) =
        some (.file content mode) ∧ node = .file content (copyMode mode) := by
  rw [gathered.staged.child?_fresh, gathered.overlay.entries] at held
  split_ifs at held with member
  obtain ⟨source, first, isCopy⟩ := Option.map_eq_some_iff.mp held
  obtain ⟨folder, member, has⟩ := List.exists_of_findSome?_eq_some first
  obtain ⟨_, isSource, _⟩ := sources folder member
  obtain ⟨place, located, _, stands⟩ := child?_eq_some_iff.mp has
  obtain ⟨_, content, mode, rfl⟩ :=
    isSource.files place _ _ located (ParameterFile.endsWith_fileName tool) stands
  exact ⟨content, mode, first, isCopy.symm⟩

/-- When all private directories are done, the tools that were copied are the seeds and those
with a private file. -/
theorem mem_others_iff {others : List String} (split : all = seeds ++ others)
    (isDone : done = path.user) (tool : String) :
    tool ∈ others ↔ tool ∉ seeds ∧ IsPrivate path tree tool := by
  obtain ⟨rest, same, _, isOther⟩ := gathered.others
  cases List.append_cancel_left (split.symm.trans same)
  constructor
  · intro member
    obtain ⟨isNew, someUser, noSystem⟩ := isOther tool member
    exact ⟨isNew, someUser, List.findSome?_eq_none_iff.mp noSystem⟩
  · rintro ⟨isNew, ⟨folder, member, has⟩, noSystem⟩
    rcases gathered.settled folder (isDone ▸ member) tool has with isCopied | inSystem
    · rw [split, List.mem_append] at isCopied
      exact isCopied.resolve_left isNew
    · exact absurd (List.findSome?_eq_none_iff.mpr noSystem) inSystem

end Gathered

/-- The variable of a scope that was entered has its directory and the former system
directories. -/
theorem searchPath_of_entered {scope : Scope} {after : World} {final : ScopeManager}
    (entered : Entered world manager scope after final)
    (isDirectory : SearchPath.IsDirectory scope.directory)
    (apart : ';' ∉ scope.directory.toList) :
    manager.searchPath after =
      { user := [scope.directory], system := (manager.searchPath world).system } := by
  have value : after.environment.get? manager.pathVariable = some scope.searchPath := by
    rw [entered.environment, OrderedMap.get?_insert, if_pos rfl]
  have same : scope.previous = world.environment.get? manager.pathVariable := entered.previous
  unfold searchPath
  rw [value, SearchPath.ofVariable, Option.getD_some, Scope.searchPath, same]
  have user := SearchPath.user_read_write isDirectory apart
    (SearchPath.ofVariable (world.environment.get? manager.pathVariable)).system
  have system := SearchPath.system_read_write apart
    (world.environment.get? manager.pathVariable)
  exact congrArg₂ SearchPath.mk user system

/-- With the private files no tool loses its file. -/
theorem Gathered.offers {seeds all : List String}
    (gathered : Gathered tree fresh top base path seeds path.user all stage)
    (sources : AreSources tree base fresh (path.user ++ path.system))
    (offers : Offers path tree tool) :
    Offers { user := [fresh], system := path.system } stage tool := by
  have inSystem {folder : String} (member : folder ∈ path.system)
      (has : tree.child? folder (ParameterFile.fileName tool) ≠ none) :
      Offers { user := [fresh], system := path.system } stage tool := by
    obtain ⟨_, _, aside⟩ := sources folder (List.mem_append_right _ member)
    refine ⟨folder, List.mem_append_right _ member, ?_⟩
    rwa [gathered.staged.child?_eq aside]
  obtain ⟨folder, member, has⟩ := offers
  rcases List.mem_append.mp member with isUser | isSystem
  · rcases gathered.settled folder isUser tool has with isCopied | someSystem
    · exact ⟨fresh, List.mem_cons_self, gathered.child?_ne_none_iff.mpr isCopied⟩
    · obtain ⟨node, first⟩ := Option.ne_none_iff_exists'.mp someSystem
      obtain ⟨other, isSystem, held⟩ := List.exists_of_findSome?_eq_some first
      exact inSystem isSystem (held ▸ Option.some_ne_none node)
  · exact inSystem isSystem has

theorem offers_of_finds (sources : ∀ folder ∈ path.user ++ path.system,
    folder ≠ "" ∧ IsSource tree folder) (noSlash : '/' ∉ tool.toList)
    (finds : Finds path tree tool) : Offers path tree tool := by
  obtain ⟨file, found⟩ := finds
  obtain ⟨folder, member, _, has, _⟩ :=
    (firstChild?_of_find? sources noSlash found).2 file rfl
  exact ⟨folder, member, Option.isSome_iff_ne_none.mp has⟩

theorem not_misses_of_offers (sources : ∀ folder ∈ path.user ++ path.system,
    folder ≠ "" ∧ IsSource tree folder) (noSlash : '/' ∉ tool.toList)
    (offers : Offers path tree tool) : ¬Misses path tree tool := by
  intro misses
  obtain ⟨folder, member, has⟩ := offers
  have nothing := (firstChild?_of_find? sources noSlash misses).1 rfl
  exact has (List.findSome?_eq_none_iff.mp nothing folder member)

/-- The new directory is one in which files can be looked for. -/
theorem Gathered.source {seeds done all : List String}
    (gathered : Gathered tree fresh top base path seeds done all stage)
    (sources : AreSources tree base fresh (path.user ++ path.system)) :
    IsSource stage fresh := by
  have ready := gathered.staged.ready
  have routes := gathered.staged.filled.sameRoutes ready.vacant
  have located := routes.locate ready.followed
  obtain ⟨_, fits, _⟩ := locate_eq_ok_iff.mp located
  constructor
  · exact ready.straight
  · exact fits
  · intro node found
    obtain ⟨place, leads, held⟩ := lookup_eq_ok_iff.mp found
    cases located.symm.trans leads
    obtain ⟨mode, directory, _⟩ := ready.vacant.directory
    exact ⟨mode, Option.some.inj (held.symm.trans (routes.directory.mpr directory))⟩
  · intro place name node leads ends held
    cases located.symm.trans leads
    have has : stage.child? fresh name = some node :=
      (gathered.staged.child?_fresh name).trans held
    obtain ⟨tool, _, rfl⟩ := gathered.exists_fileName (has ▸ Option.some_ne_none node)
    obtain ⟨content, mode, first, isCopy⟩ := gathered.content sources has
    obtain ⟨folder, member, has⟩ := List.exists_of_findSome?_eq_some first
    obtain ⟨_, isSource, _⟩ := sources folder member
    obtain ⟨other, before, _, stands⟩ := child?_eq_some_iff.mp has
    obtain ⟨free, _⟩ := isSource.files other _ _ before ends stands
    exact ⟨free, content, copyMode mode, isCopy⟩

/-- What a new directory holds when its scope is entered. -/
structure Overlaid (manager : ScopeManager) (options : ScopeOptions) (world : World)
    (scope : Scope) (after : World) : Prop where
  /-- the tools that were copied are the seeds, and then every other one once -/
  copied : ∃ others, scope.copied = options.seeds ++ others ∧ others.Nodup ∧ ∀ tool,
    tool ∈ others ↔ tool ∉ options.seeds ∧ options.copyUser = true ∧
      IsPrivate (manager.searchPath world) world.files tool
  /-- the directory has their files -/
  holds : ∀ tool,
    after.files.child? scope.directory (ParameterFile.fileName tool) ≠ none ↔
      tool ∈ options.seeds ∨
        options.copyUser = true ∧ IsPrivate (manager.searchPath world) world.files tool
  /-- and nothing else -/
  only : ∀ name, after.files.child? scope.directory name ≠ none →
    ∃ tool ∈ scope.copied, name = ParameterFile.fileName tool
  /-- each is a copy of the first one along the search path -/
  content : ∀ tool node,
    after.files.child? scope.directory (ParameterFile.fileName tool) = some node →
      ∃ content mode,
        world.files.firstChild?
          ((manager.searchPath world).user ++ (manager.searchPath world).system)
          (ParameterFile.fileName tool) = some (.file content mode) ∧
        node = .file content (copyMode mode)
  /-- with the private files no tool loses its file, if the search path can be written -/
  still : options.copyUser = true → SearchPath.IsDirectory scope.directory →
    ';' ∉ scope.directory.toList → ∀ tool,
      Offers (manager.searchPath world) world.files tool →
        Offers (manager.searchPath after) after.files tool
  /-- and no search that found a file before misses it now -/
  findable : options.copyUser = true → SearchPath.IsDirectory scope.directory →
    ';' ∉ scope.directory.toList → ∀ tool, '/' ∉ tool.toList →
      Finds (manager.searchPath world) world.files tool →
        ¬Misses (manager.searchPath after) after.files tool

/-- A scope whose new directory was filled is overlaid. -/
theorem overlaid_of_gathered {scope : Scope} {after : World} {final : ScopeManager}
    {done : List String}
    (sources : AreSources world.files base scope.directory
      ((manager.searchPath world).user ++ (manager.searchPath world).system))
    (entered : Entered world manager scope after final)
    (gathered : Gathered world.files scope.directory top base (manager.searchPath world)
      options.seeds done scope.copied after.files)
    (whole : options.copyUser = true → done = (manager.searchPath world).user)
    (part : options.copyUser = false → scope.copied = options.seeds) :
    Overlaid manager options world scope after := by
  obtain ⟨others, split, nodup, _⟩ := gathered.others
  have areOthers (tool : String) : tool ∈ others ↔ tool ∉ options.seeds ∧
      options.copyUser = true ∧ IsPrivate (manager.searchPath world) world.files tool := by
    cases copyUser : options.copyUser with
    | true =>
        rw [gathered.mem_others_iff split (whole copyUser)]
        simp
    | false =>
        have alone := part copyUser
        rw [split, List.append_right_eq_self] at alone
        simp [alone]
  constructor
  · exact ⟨others, split, nodup, areOthers⟩
  · intro tool
    rw [gathered.child?_ne_none_iff, split, List.mem_append, areOthers]
    tauto
  · exact fun name held => gathered.exists_fileName held
  · exact fun tool node held => gathered.content sources held
  · intro copyUser isDirectory apart tool offers
    rw [searchPath_of_entered entered isDirectory apart]
    exact (whole copyUser ▸ gathered).offers sources offers
  · intro copyUser isDirectory apart tool noSlash finds
    rw [searchPath_of_entered entered isDirectory apart]
    have before := offers_of_finds
      (fun folder member => (sources folder member).imp_right And.left) noSlash finds
    refine not_misses_of_offers (fun folder member => ?_) noSlash
      ((whole copyUser ▸ gathered).offers sources before)
    rcases List.mem_cons.mp member with isNew | isSystem
    · exact isNew ▸ ⟨isDirectory.filled, gathered.source sources⟩
    · exact sources.atStage gathered.staged folder (List.mem_append_right _ isSystem)

/-- What the new directory of a scope that is entered holds: the files of the seeds, and on
demand the private files without a counterpart in the system.  The paths of the search
directories have two dots only in front, as files are looked for at normalised paths, and a
missing one does not lead into the new directory. -/
theorem overlaid_of_enter {scope : Scope} {next : World × ScopeManager}
    (rooted : world.files.Rooted) (unnamed : options.directory.filter (· ≠ "") = none)
    (noSlash : ∀ seed ∈ options.seeds, '/' ∉ seed.toList)
    (sources : ∀ folder ∈ (manager.searchPath world).user ++ (manager.searchPath world).system,
      IsSource world.files folder)
    (aside : ∀ folder ∈ (manager.searchPath world).user ++ (manager.searchPath world).system,
      ∀ files, world.files.makeFresh (Path.join manager.scratch "pfiles-")
        (FreshName.short world.namesGiven) = .ok files →
          StaysAside world.files files (freshDirectory manager world) folder)
    (entering : (enter options).perform world manager = (.ok scope, next)) :
    Overlaid manager options world scope next.1 := by
  obtain ⟨after, final⟩ := next
  have entered := entered_of_enter entering
  cases freshRun_of_enter rooted unnamed entering with
  | @filled files top _ _ _ _ makes made ready populated isDirectory _ kept =>
      have areSources : AreSources world.files files (freshDirectory manager world)
          ((manager.searchPath world).user ++ (manager.searchPath world).system) := by
        refine fun folder member => ⟨?_, sources folder member, aside folder member _ makes⟩
        rcases List.mem_append.mp member with isUser | isSystem
        · exact (SearchPath.isDirectory_of_mem_user isUser).filled
        · exact (SearchPath.isDirectory_of_mem_system isSystem).filled
      have staged : Staged world.files (freshDirectory manager world) top files files :=
        ⟨made, ready, made.vacant.filled, ne_fileName_of_made made⟩
      obtain ⟨done, gathered, whole, part⟩ :=
        gathered_of_populate areSources staged rfl noSlash populated
      rw [← kept.files, ← isDirectory] at gathered
      rw [← isDirectory] at areSources
      exact overlaid_of_gathered areSources entered gathered whole part

/-- A private directory and one of the system, with the parameter file of one tool each. -/
def pantry : World :=
  { World.empty with
    files := { nodes := .ofList [(["user"], .directory 0o755),
                 (["user", "b.par"], .file "y,i,h,2,,,\n" 0o444), (["lib"], .directory 0o755),
                 (["lib", "a.par"], .file "x,i,h,1,,,\n" 0o444), (["tmp"], .directory 0o755)]
               here := [] }
    environment := .ofList [("PFILES", "user;lib")] }

theorem rooted_pantry : pantry.files.Rooted := by
  apply rooted_of_keys
  decide

/-- The directories in the pantry can be searched. -/
theorem isSource_pantry (member : folder ∈ ["user", "lib"]) :
    IsSource pantry.files folder ∧ ∃ node, pantry.files.lookup folder = .ok node := by
  have user : pantry.files.children ["user"] = [["user", "b.par"]] := by decide
  have lib : pantry.files.children ["lib"] = [["lib", "a.par"]] := by decide
  rcases List.mem_pair.mp member with rfl | rfl
  · constructor
    · have located : pantry.files.locate "user" .followed = .ok ["user"] := by decide +kernel
      refine isSource_of_children (isStraight_of_not_mem (by decide)) located rfl ?_
      simp only [user, List.forall_mem_singleton]
      exact ⟨by decide, _, _, rfl⟩
    · exact ⟨.directory 0o755, by decide +kernel⟩
  · constructor
    · have located : pantry.files.locate "lib" .followed = .ok ["lib"] := by decide +kernel
      refine isSource_of_children (isStraight_of_not_mem (by decide)) located rfl ?_
      simp only [lib, List.forall_mem_singleton]
      exact ⟨by decide, _, _, rfl⟩
    · exact ⟨.directory 0o755, by decide +kernel⟩

/-- A scope with the file of the system and the private files. -/
def mixed : ScopeOptions := { ScopeOptions.none with seeds := ["a"], copyUser := true }

/-- The scope that is entered with them. -/
def mixedScope : Scope where
  id := 1
  directory := "tmp/pfiles-000000"
  environment := .ofList [("PFILES", "tmp/pfiles-000000;lib")]
  previous := some "user;lib"
  copied := ["a", "b"]
  owned := true

/-- The scope gets both files. -/
theorem overlaid_pantry : Overlaid (idle "PFILES" "tmp") mixed pantry mixedScope
    ((enter mixed).perform pantry (idle "PFILES" "tmp")).2.1 := by
  have entering : (enter mixed).perform pantry (idle "PFILES" "tmp") =
      (.ok mixedScope, ((enter mixed).perform pantry (idle "PFILES" "tmp")).2) :=
    Action.perform_eq (by decide +kernel)
  have path : (idle "PFILES" "tmp").searchPath pantry = ⟨["user"], ["lib"]⟩ := by
    decide +kernel
  refine overlaid_of_enter rooted_pantry (by rfl) (by decide) ?_ ?_ entering
  · rw [path]
    exact fun folder member => (isSource_pantry member).1
  · rw [path]
    intro folder member _ _ absent
    obtain ⟨_, node, found⟩ := isSource_pantry member
    exact absurd found (absent node)

/-- A private directory that is reached through the parent of what a link leads to. -/
def crooked : World :=
  { World.empty with
    files := { nodes := .ofList [(["real"], .directory 0o755),
                 (["real", "sub"], .directory 0o755),
                 (["real", "x.par"], .file "x,i,h,1,,,\n" 0o644),
                 (["link"], .link "real/sub"), (["tmp"], .directory 0o755)]
               here := [] }
    environment := .ofList [("PFILES", "link/..;")] }

/-- A scope with the private files. -/
def own : ScopeOptions := { ScopeOptions.none with copyUser := true }

/-- A scope without a file. -/
def bareScope : Scope where
  id := 1
  directory := "tmp/pfiles-000000"
  environment := .ofList [("PFILES", "tmp/pfiles-000000;")]
  previous := some "link/..;"
  copied := []
  owned := true

/-- A directory that a path leads to through the parent of a link is listed, but its files are
looked for elsewhere: the private file that has no counterpart is not copied. -/
theorem not_overlaid_of_enter_crooked :
    (idle "PFILES" "tmp").searchPath crooked = ⟨["link/.."], []⟩ ∧
      crooked.files.lookup "link/.." = .ok (.directory 0o755) ∧
      crooked.files.names "link/.." = .ok ["sub", "x.par"] ∧
      crooked.files.child? "link/.." "x.par" = some (.file "x,i,h,1,,,\n" 0o644) ∧
      ((enter own).perform crooked (idle "PFILES" "tmp")).1 = .ok bareScope ∧
      ¬Overlaid (idle "PFILES" "tmp") own crooked bareScope
        ((enter own).perform crooked (idle "PFILES" "tmp")).2.1 := by
  have path : (idle "PFILES" "tmp").searchPath crooked = ⟨["link/.."], []⟩ := by
    decide +kernel
  have held : crooked.files.child? "link/.." "x.par" = some (.file "x,i,h,1,,,\n" 0o644) := by
    decide +kernel
  refine ⟨path, by decide +kernel, by decide +kernel, held, by decide +kernel, fun overlaid => ?_⟩
  have isPrivate : IsPrivate ((idle "PFILES" "tmp").searchPath crooked) crooked.files "x" := by
    rw [path]
    exact ⟨⟨"link/..", List.mem_singleton_self _, held ▸ Option.some_ne_none _⟩,
      fun _ none => (by cases none)⟩
  obtain ⟨others, copied, _, isOther⟩ := overlaid.copied
  cases copied
  exact absurd ((isOther "x").mpr ⟨by decide, rfl, isPrivate⟩) List.not_mem_nil

end ToolParams.ScopeManager
