import ToolParams.Proofs.Files.Walking
import ToolParams.Proofs.OrderedMap
import ToolParams.Proofs.Scope.Populating

/-!
# Where parameter files are found

A parameter file is looked for in one directory after another.  If what stands at their
paths are directories, and what is named like a parameter file is a file, then the first
directory that has the file is found, and the search says so if none has it.
-/

namespace ToolParams

namespace FileTree

variable {tree : FileTree} {folder name : String} {node : Node}

/-- What has a name in a directory in which names may be looked up. -/
def child? (tree : FileTree) (folder name : String) : Option Node :=
  match tree.locate folder .followed with
  | .ok place => if tree.isSearchable place then tree.node? (place ++ [name]) else none
  | .error _ => none

theorem isSearchable_iff {place : Place} : tree.isSearchable place = true ↔ tree.Opens place := by
  unfold isSearchable directoryMode? Opens
  cases tree.node? place with
  | none => simp
  | some node => cases node <;> simp

theorem child?_eq_some_iff : tree.child? folder name = some node ↔
    ∃ place, tree.locate folder .followed = .ok place ∧ tree.Opens place ∧
      tree.node? (place ++ [name]) = some node := by
  unfold child?
  cases tree.locate folder .followed with
  | error cause => simp
  | ok place =>
      simp only [← isSearchable_iff, Except.ok.injEq, exists_eq_left']
      split_ifs with isOpen <;> simp [isOpen]

/-- A path that leads to a directory or nowhere.  In the directory, what is named like a
parameter file is a file. -/
structure IsSource (tree : FileTree) (folder : String) : Prop where
  straight : IsStraight folder
  fits : folder.utf8ByteSize ≤ longestPath
  stands : ∀ node, tree.lookup folder = .ok node → ∃ mode, node = .directory mode
  files : ∀ place name node, tree.locate folder .followed = .ok place →
    Text.endsWith name ParameterFile.ending = true →
    tree.node? (place ++ [name]) = some node →
    '/' ∉ name.toList ∧ ∃ content mode, node = .file content mode

namespace IsSource

variable (source : IsSource tree folder) {tool : String} (noSlash : '/' ∉ tool.toList)

include source

theorem unlinked {place : Place} (located : tree.locate folder .followed = .ok place)
    (tool target : String) :
    tree.node? (place ++ [ParameterFile.fileName tool]) ≠ some (.link target) := by
  intro linked
  obtain ⟨_, content, mode, isFile⟩ :=
    source.files place _ _ located (ParameterFile.endsWith_fileName tool) linked
  cases isFile

include noSlash

theorem child?_of_locate (filled : folder ≠ "") {place : Place}
    (located : tree.locate (Path.join folder (ParameterFile.fileName tool)) .followed = .ok place)
    (held : tree.node? place = some node) :
    tree.child? folder (ParameterFile.fileName tool) = some node := by
  have isName := ParameterFile.isName_fileName noSlash
  obtain ⟨position, leads, opens, _, reached⟩ :=
    exists_of_locate_join isName source.straight filled source.fits located
  have same := reached.resolve_right fun ⟨target, linked⟩ =>
    source.unlinked leads tool target linked
  exact child?_eq_some_iff.mpr ⟨position, leads, opens, same ▸ held⟩

theorem child?_of_missing
    (missing : tree.lookup (Path.join folder (ParameterFile.fileName tool)) = .error .notFound) :
    tree.child? folder (ParameterFile.fileName tool) = none := by
  rw [Option.eq_none_iff_forall_ne_some]
  intro node held
  obtain ⟨place, located, opens, held⟩ := child?_eq_some_iff.mp held
  have isName := ParameterFile.isName_fileName noSlash
  rcases locate_join_cases isName source.straight located opens
    (source.unlinked located tool) .followed with leads | tooLong
  · rw [lookup_eq_ok_iff.mpr ⟨_, leads, held⟩] at missing
    cases missing
  · rw [lookup, tooLong] at missing
    cases missing

theorem child?_of_exists? (filled : folder ≠ "") {found : Bool}
    (looked : tree.exists? (Path.join folder (ParameterFile.fileName tool)) = .ok found) :
    (tree.child? folder (ParameterFile.fileName tool)).isSome = found := by
  cases found with
  | true =>
      obtain ⟨_, node, looked⟩ := of_exists?_true looked
      obtain ⟨place, located, held⟩ := lookup_eq_ok_iff.mp looked
      rw [source.child?_of_locate noSlash filled located held]
      rfl
  | false =>
      obtain ⟨_, missing⟩ := of_exists?_false looked
      rw [source.child?_of_missing noSlash missing]
      rfl

end IsSource

section Listing

variable {names : List String} {tool : String}

theorem of_names (listed : tree.names folder = .ok names) :
    ∃ place mode, tree.locate folder .followed = .ok place ∧
      tree.node? place = some (.directory mode) ∧
      names = (tree.children place).map (·.getLastD "") := by
  obtain ⟨_, _, listed⟩ := Outcome.bind_eq_ok_iff.mp listed
  cases located : tree.locate folder .followed with
  | error cause =>
      rw [located] at listed
      cases listed
  | ok place =>
      rw [located] at listed
      dsimp only at listed
      cases held : tree.node? place with
      | none =>
          rw [held] at listed
          cases listed
      | some node =>
          rw [held] at listed
          cases node with
          | directory mode =>
              dsimp only at listed
              split_ifs at listed
              cases listed
              exact ⟨place, mode, rfl, held, rfl⟩
          | file content mode => cases listed
          | link target => cases listed

theorem mem_children_iff {place other : Place} :
    other ∈ tree.children place ↔ ∃ name, other = place ++ [name] ∧ tree.node? other ≠ none := by
  have isKey {name : String} : place ++ [name] ∈ tree.nodes.keys ↔
      tree.node? (place ++ [name]) ≠ none := by
    rw [OrderedMap.mem_keys_iff, Option.isSome_iff_ne_none, node?, if_neg (by simp)]
  rw [children, List.mem_filter]
  constructor
  · rintro ⟨member, isChild⟩
    simp only [Bool.and_eq_true, decide_eq_true_eq, List.isPrefixOf_iff_prefix] at isChild
    obtain ⟨⟨rest, rfl⟩, length⟩ := isChild
    rw [List.length_append, Nat.add_left_cancel_iff, List.length_eq_one_iff] at length
    obtain ⟨name, rfl⟩ := length
    exact ⟨name, rfl, isKey.mp member⟩
  · rintro ⟨name, rfl, held⟩
    exact ⟨isKey.mpr held, by simp⟩

theorem mem_select_of_child? (listed : tree.names folder = .ok names)
    (held : tree.child? folder (ParameterFile.fileName tool) ≠ none) :
    ParameterFile.fileName tool ∈ ParameterFile.select names := by
  obtain ⟨place, mode, located, _, rfl⟩ := of_names listed
  obtain ⟨node, held⟩ := Option.ne_none_iff_exists'.mp held
  obtain ⟨other, leads, _, held⟩ := child?_eq_some_iff.mp held
  cases located.symm.trans leads
  unfold ParameterFile.select Text.sortByUnits
  refine List.mem_mergeSort.mpr (List.mem_filter.mpr ⟨?_, ParameterFile.endsWith_fileName tool⟩)
  refine List.mem_map.mpr ⟨place ++ [ParameterFile.fileName tool], ?_, List.getLastD_concat⟩
  exact mem_children_iff.mpr ⟨_, rfl, held ▸ Option.some_ne_none node⟩

/-- What a listing has is named for tools. -/
theorem IsSource.exists_tool_of_mem_select (source : IsSource tree folder)
    (listed : tree.names folder = .ok names) (member : name ∈ ParameterFile.select names) :
    ∃ tool, name = ParameterFile.fileName tool ∧ '/' ∉ tool.toList := by
  obtain ⟨place, mode, located, _, rfl⟩ := of_names listed
  unfold ParameterFile.select Text.sortByUnits at member
  obtain ⟨member, ends⟩ := List.mem_filter.mp (List.mem_mergeSort.mp member)
  obtain ⟨other, isChild, isLast⟩ := List.mem_map.mp member
  obtain ⟨last, rfl, held⟩ := mem_children_iff.mp isChild
  rw [List.getLastD_concat] at isLast
  subst isLast
  obtain ⟨node, held⟩ := Option.ne_none_iff_exists'.mp held
  obtain ⟨noSlash, _⟩ := source.files place last node located ends held
  have whole := ParameterFile.fileName_toolOf ends
  refine ⟨ParameterFile.toolOf last, whole.symm, fun slash => noSlash ?_⟩
  rw [← whole, ParameterFile.fileName, String.toList_append]
  exact List.mem_append_left _ slash

/-- A directory with nothing but files can be searched. -/
theorem isSource_of_children {place : Place} {mode : Nat} (straight : IsStraight folder)
    (located : tree.locate folder .followed = .ok place)
    (directory : tree.node? place = some (.directory mode))
    (files : ∀ child ∈ tree.children place, '/' ∉ (child.getLastD "").toList ∧
      ∃ content mode, tree.node? child = some (.file content mode)) :
    IsSource tree folder where
  straight := straight
  fits := (locate_eq_ok_iff.mp located).2.1
  stands := by
    intro node found
    obtain ⟨other, leads, held⟩ := lookup_eq_ok_iff.mp found
    cases located.symm.trans leads
    exact ⟨mode, Option.some.inj (held.symm.trans directory)⟩
  files := by
    intro other name node leads _ held
    cases located.symm.trans leads
    obtain ⟨noSlash, content, mode, isFile⟩ :=
      files _ (mem_children_iff.mpr ⟨name, rfl, held ▸ Option.some_ne_none node⟩)
    rw [List.getLastD_concat] at noSlash
    exact ⟨noSlash, content, mode, Option.some.inj (held.symm.trans isFile)⟩

/-- A directory that is missing when it is to be listed has nothing. -/
theorem child?_of_names_error {fault : FileFault} (failed : tree.names folder = .error fault)
    (missing : fault.code = FileCause.notFound.code) (name : String) :
    tree.child? folder name = none := by
  rw [Option.eq_none_iff_forall_ne_some]
  intro node held
  obtain ⟨place, located, ⟨mode, directory, _⟩, _⟩ := child?_eq_some_iff.mp held
  unfold names withoutNull at failed
  split_ifs at failed
  · cases failed
    exact absurd missing (by simp [FileFault.code, FileCause.code])
  · rw [located] at failed
    simp only [Outcome.ok_bind, directory] at failed
    split_ifs at failed
    cases failed
    exact absurd missing (by simp [FileFault.code, FileCause.code])

end Listing

def firstChild? (tree : FileTree) (folders : List String) (name : String) : Option Node :=
  folders.findSome? (tree.child? · name)

end FileTree

open FileTree

namespace ScopeManager

variable {tree : FileTree} {tool : String} {folders : List String}

/-- A search that says nothing of a fault finds the file that the first directory has. -/
theorem firstChild?_of_find? {found : Option String}
    (sources : ∀ folder ∈ folders, folder ≠ "" ∧ IsSource tree folder)
    (noSlash : '/' ∉ tool.toList) (searched : find? tree tool folders = .ok found) :
    (found = none → tree.firstChild? folders (ParameterFile.fileName tool) = none) ∧
      ∀ path, found = some path → ∃ folder ∈ folders,
        path = Path.join folder (ParameterFile.fileName tool) ∧
          (tree.child? folder (ParameterFile.fileName tool)).isSome = true ∧
          tree.firstChild? folders (ParameterFile.fileName tool) =
            tree.child? folder (ParameterFile.fileName tool) := by
  induction folders with
  | nil =>
      cases searched
      exact ⟨fun _ => rfl, fun _ none => (by cases none)⟩
  | cons folder rest induction =>
      obtain ⟨filled, source⟩ := sources folder List.mem_cons_self
      obtain ⟨present, looked, searched⟩ := Outcome.bind_eq_ok_iff.mp searched
      have has := source.child?_of_exists? noSlash filled looked
      cases present with
      | true =>
          cases searched
          refine ⟨fun none => (by cases none), ?_⟩
          rintro _ ⟨⟩
          refine ⟨folder, List.mem_cons_self, rfl, has, ?_⟩
          obtain ⟨node, held⟩ := Option.isSome_iff_exists.mp has
          simp [firstChild?, held]
      | false =>
          have lacks := Option.not_isSome_iff_eq_none.mp (Bool.eq_false_iff.mp has)
          obtain ⟨absent, present⟩ :=
            induction (fun other member => sources other (List.mem_cons_of_mem _ member)) searched
          have later : tree.firstChild? (folder :: rest) (ParameterFile.fileName tool) =
              tree.firstChild? rest (ParameterFile.fileName tool) := by
            simp [firstChild?, lacks]
          rw [later]
          refine ⟨absent, fun path isFound => ?_⟩
          obtain ⟨other, member, same, held, first⟩ := present path isFound
          exact ⟨other, List.mem_cons_of_mem _ member, same, held, first⟩

end ScopeManager

end ToolParams
