import Mathlib.Data.List.TakeWhile
import ToolParams.Proofs.Text.Trimming
import ToolParams.SearchPath

/-!
# Reading search paths that were written

Reading drops blanks and empty directories, so what it gives is in a normal form, and a
normal form that is written is read as it was.
-/

namespace ToolParams

namespace Text

theorem dropWhile_append_separator {separator : Char} {characters : List Char}
    (without : separator ∉ characters) (rest : List Char) :
    (characters ++ separator :: rest).dropWhile (· != separator) = separator :: rest := by
  rw [List.dropWhile_append_of_pos fun other member => ?_]
  · simp
  · exact bne_iff_ne.mpr fun same => without (same ▸ member)

theorem takeWhile_append_separator {separator : Char} {characters : List Char}
    (without : separator ∉ characters) (rest : List Char) :
    (characters ++ separator :: rest).takeWhile (· != separator) = characters := by
  rw [List.takeWhile_append_of_pos fun other member => ?_]
  · simp
  · exact bne_iff_ne.mpr fun same => without (same ▸ member)

/-- Cutting undoes joining two texts of which the first does not hold the separator. -/
theorem cut?_append {separator : Char} {front : String}
    (without : separator ∉ front.toList) (rest : String) :
    cut? separator (front ++ String.singleton separator ++ rest) = some (front, rest) := by
  have spelled : (front ++ String.singleton separator ++ rest).toList =
      front.toList ++ separator :: rest.toList := by
    simp
  simp only [cut?, spelled, dropWhile_append_separator without,
    takeWhile_append_separator without, String.ofList_toList]

theorem not_mem_of_cut? {separator : Char} {text front rest : String}
    (cut : cut? separator text = some (front, rest)) : separator ∉ front.toList := by
  unfold cut? at cut
  split at cut
  · cases cut
  · cases cut
    rw [String.toList_ofList]
    intro inside
    simpa using List.mem_takeWhile_imp inside

end Text

namespace SearchPath

/-- A directory as it is read: not empty, without blanks around it, and without the
character between directories. -/
abbrev IsDirectory (directory : String) : Prop := Text.IsPart ':' directory

theorem isDirectory_of_mem {part directory : String}
    (member : directory ∈ directories part) : IsDirectory directory :=
  Text.isPart_of_mem member

theorem directories_intercalate {listed : List String}
    (wellFormed : ∀ directory ∈ listed, IsDirectory directory) :
    directories (":".intercalate listed) = listed :=
  Text.parts_intercalate wellFormed

/-- The parts of a search path are found again when no private directory holds the
character between the parts. -/
theorem read_write {path : SearchPath} (apart : ∀ directory ∈ path.user, ';' ∉ directory.toList) :
    read path.write =
      { user := directories (":".intercalate path.user)
        system := directories (":".intercalate path.system) } := by
  have without : ';' ∉ (":".intercalate path.user).toList :=
    Text.not_mem_intercalate (by decide) apart
  have cut : Text.cut? ';' path.write = _ := Text.cut?_append without _
  rw [read, cut]

theorem isDirectory_of_mem_system {text directory : String}
    (member : directory ∈ (read text).system) : IsDirectory directory := by
  unfold read at member
  split at member <;> exact isDirectory_of_mem member

theorem isDirectory_of_mem_user {text directory : String}
    (member : directory ∈ (read text).user) : IsDirectory directory := by
  unfold read at member
  split at member
  · cases member
  · exact isDirectory_of_mem member

theorem not_mem_of_mem_user {text directory : String}
    (member : directory ∈ (read text).user) : ';' ∉ directory.toList := by
  unfold read at member
  split at member
  · cases member
  · rename_i user system cut
    intro inside
    exact Text.not_mem_of_cut? cut (Text.mem_of_mem_parts member inside)

theorem system_read_write {directory : String} (apart : ';' ∉ directory.toList)
    (value : Option String) :
    (read (write { user := [directory], system := (ofVariable value).system })).system =
      (ofVariable value).system := by
  rw [read_write (by simpa using apart)]
  exact directories_intercalate fun _ => isDirectory_of_mem_system

theorem user_read_write {directory : String} (isDirectory : IsDirectory directory)
    (apart : ';' ∉ directory.toList) (system : List String) :
    (read (write { user := [directory], system })).user = [directory] := by
  rw [read_write (by simpa using apart)]
  exact directories_intercalate fun other member => List.mem_singleton.mp member ▸ isDirectory

/-- A search path in normal form: every directory is as it is read, and no private one holds
the character between the parts. -/
structure IsNormal (path : SearchPath) : Prop where
  user : ∀ directory ∈ path.user, IsDirectory directory ∧ ';' ∉ directory.toList
  system : ∀ directory ∈ path.system, IsDirectory directory

theorem isNormal_read (text : String) : (read text).IsNormal where
  user := fun _ member => ⟨isDirectory_of_mem_user member, not_mem_of_mem_user member⟩
  system := fun _ member => isDirectory_of_mem_system member

theorem IsNormal.read_write {path : SearchPath} (normal : path.IsNormal) :
    read path.write = path := by
  have user := directories_intercalate fun directory member => (normal.user directory member).1
  have system := directories_intercalate normal.system
  rw [SearchPath.read_write fun directory member => (normal.user directory member).2, user,
    system]

/-- Whatever a variable holds, its search path is in normal form, and so is read again as it
was when it is written.  No other search paths than those in normal form are. -/
theorem ofVariable_write_eq_iff :
    (∀ value : Option String, (ofVariable value).IsNormal ∧
        ofVariable (some (ofVariable value).write) = ofVariable value) ∧
      ∀ path : SearchPath, ofVariable (some path.write) = path ↔ path.IsNormal := by
  constructor
  · intro value
    have normal := isNormal_read (value.getD "")
    exact ⟨normal, normal.read_write⟩
  · intro path
    constructor
    · intro same
      rw [← same]
      exact isNormal_read path.write
    · exact IsNormal.read_write

end SearchPath

end ToolParams
