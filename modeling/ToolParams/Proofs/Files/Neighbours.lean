import ToolParams.Proofs.Files.Separate
import ToolParams.Proofs.Files.Walking

/-!
# Paths that begin alike

A path that leads to no directory has a name of its own in some directory.  A text without
slashes behind the path only makes that name longer, so it names another place in the same
directory, and such paths are separate.  Only links at these places can make them meet.
-/

namespace ToolParams.FileTree

variable {tree : FileTree} {path last tail : String} {front paths : List String}
  {place middle position : Place} {ending : Ending} {links : Nat} {mode : Nat}

def IsLinked (tree : FileTree) (path : String) : Prop :=
  ∃ place target, tree.locate path .itself = .ok place ∧
    tree.node? place = some (.link target)

theorem locate_itself_of_unlinked (unlinked : ¬tree.IsLinked path)
    (located : tree.locate path .writable = .ok place) :
    tree.locate path .itself = .ok place := by
  rcases locate_itself (by decide) located with same | ⟨reached, target, ended, linked⟩
  · exact same
  · exact absurd ⟨reached, target, ended, linked⟩ unlinked

theorem Rooted.directory_dropLast (rooted : tree.Rooted)
    (directory : tree.node? position = some (.directory mode)) :
    ∃ mode, tree.node? position.dropLast = some (.directory mode) := by
  by_cases root : position = []
  · exact ⟨mode, by rwa [root] at directory ⊢⟩
  · exact rooted position root (by simp [directory])

/-- A last step that is no name leads to a directory. -/
theorem directory_of_locateFrom (rooted : tree.Rooted)
    (idle : last = "" ∨ last = "." ∨ last = "..")
    (located : tree.locateFrom ending links position [last] = .ok place) :
    ∃ mode, tree.node? place = some (.directory mode) := by
  have unnamed : ¬(last ≠ "" ∧ last ≠ "." ∧ last ≠ "..") := by
    rwa [not_and_or, not_and_or, not_not, not_not, not_not]
  cases links with
  | zero => cases located
  | succ links =>
      unfold locateFrom at located
      cases walked : tree.advance ending position [last] with
      | error cause =>
          rw [walked] at located
          cases located
      | ok halt =>
          rw [walked] at located
          cases advance_eq_ok_iff.mp walked with
          | stay directory _ walk =>
              cases walk
              cases located
              exact ⟨_, directory⟩
          | ascend directory _ walk =>
              cases walk
              cases located
              exact rooted.directory_dropLast directory
          | name enters _ _ => exact absurd enters.isName unnamed
          | meet enters _ _ => exact absurd enters.isName unnamed
          | enter enters _ _ => exact absurd enters.isName unnamed

/-- The directory of a path, and the name that the path has there. -/
structure Seat (tree : FileTree) (path : String) (front : List String) (middle : Place)
    (last : String) : Prop where
  steps : Path.steps path = front ++ [last]
  isName : Path.IsName last
  located : tree.locateFrom .followed (mostLinks + 1) (origin tree.here path) front = .ok middle

theorem exists_seat (rooted : tree.Rooted) (located : tree.locate path ending = .ok place)
    (noDirectory : ∀ mode, tree.node? place ≠ some (.directory mode)) :
    ∃ front middle last, Seat tree path front middle last := by
  obtain ⟨_, _, walked⟩ := locate_eq_ok_iff.mp located
  obtain ⟨front, last, steps⟩ := List.eq_nil_or_concat _ |>.resolve_left (Path.steps_ne_nil path)
  rw [List.concat_eq_append] at steps
  rw [steps] at walked
  obtain ⟨middle, left, first, second⟩ :=
    exists_of_locateFrom_append (List.cons_ne_nil _ _) walked
  have named : ¬(last = "" ∨ last = "." ∨ last = "..") := by
    intro idle
    obtain ⟨mode, directory⟩ := directory_of_locateFrom rooted idle second
    exact noDirectory mode directory
  rw [not_or, not_or] at named
  have member : last ∈ Path.steps path := by simp [steps]
  have noSlash := Path.noSlash_of_mem_steps member
  exact ⟨front, middle, last, steps, ⟨named.1, named.2.1, named.2.2, noSlash⟩, first⟩

theorem not_begins_dots (isName : Path.IsName last) {whole : String}
    (dots : whole.toList <+: ['.', '.']) : last ++ tail ≠ whole := by
  rintro rfl
  rw [String.toList_append] at dots
  have begins := (List.prefix_append last.toList tail.toList).trans dots
  simp only [List.prefix_cons_iff, List.prefix_nil] at begins
  obtain none | ⟨_, first, rfl | ⟨_, rfl, rfl⟩⟩ := begins
  · exact isName.filled (String.toList_injective none)
  · exact isName.notDot (String.toList_injective first)
  · exact isName.notDots (String.toList_injective first)

theorem isName_append (isName : Path.IsName last) (noSlash : '/' ∉ tail.toList) :
    Path.IsName (last ++ tail) where
  filled := not_begins_dots isName (by decide)
  notDot := not_begins_dots isName (by decide)
  notDots := not_begins_dots isName (by decide)
  noSlash := by
    rw [String.toList_append, List.mem_append]
    exact not_or.mpr ⟨isName.noSlash, noSlash⟩

namespace Seat

theorem place_eq (seat : Seat tree path front middle last) (unlinked : ¬tree.IsLinked path)
    (located : tree.locate path .writable = .ok place) : place = middle ++ [last] := by
  obtain ⟨_, _, walked⟩ := locate_eq_ok_iff.mp (locate_itself_of_unlinked unlinked located)
  rw [seat.steps] at walked
  obtain ⟨reached, left, first, second⟩ :=
    exists_of_locateFrom_append (List.cons_ne_nil _ _) walked
  cases first.symm.trans seat.located
  obtain ⟨_, _, same | ⟨follows, _⟩⟩ := of_locateFrom_name seat.isName second
  · exact same
  · exact absurd rfl follows

theorem append (seat : Seat tree path front middle last) (noSlash : '/' ∉ tail.toList) :
    Seat tree (path ++ tail) front middle (last ++ tail) := by
  have filled := Path.ne_empty_of_steps seat.steps seat.isName
  have sameOrigin : origin tree.here (path ++ tail) = origin tree.here path := by
    unfold origin Path.isAbsolute Text.startsWith
    rw [String.toList_append]
    cases characters : path.toList with
    | nil => exact absurd (String.toList_injective characters) filled
    | cons first rest => simp
  exact
    { steps := Path.steps_append_of_noSlash seat.steps noSlash
      isName := isName_append seat.isName noSlash
      located := sameOrigin ▸ seat.located }

end Seat

/-- Paths that go on without slashes from one that leads to no directory are separate, unless
there are links at them. -/
theorem separate_of_unlinked (rooted : tree.Rooted)
    (located : tree.locate path ending = .ok place)
    (noDirectory : ∀ mode, tree.node? place ≠ some (.directory mode))
    (alike : ∀ other ∈ paths, ∃ tail : String, other = path ++ tail ∧ '/' ∉ tail.toList)
    (unlinked : ∀ other ∈ paths, ¬tree.IsLinked other) : tree.Separate paths := by
  obtain ⟨front, middle, last, seat⟩ := exists_seat rooted located noDirectory
  have placed : ∀ other ∈ paths, ∃ tail : String, other = path ++ tail ∧
      ∀ place, tree.locate other .writable = .ok place → place = middle ++ [last ++ tail] := by
    intro other member
    obtain ⟨tail, rfl, noSlash⟩ := alike other member
    exact ⟨tail, rfl, fun place => (seat.append noSlash).place_eq (unlinked _ member)⟩
  intro first isFirst second isSecond place leads leadsToo
  obtain ⟨tail, rfl, here⟩ := placed first isFirst
  obtain ⟨other, rfl, there⟩ := placed second isSecond
  have same := (here place leads).symm.trans (there place leadsToo)
  simpa using same

end ToolParams.FileTree
