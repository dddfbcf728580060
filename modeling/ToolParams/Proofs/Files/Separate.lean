import ToolParams.Proofs.Files.Writing

/-!
# Files at separate paths

Paths are separate when no two of them lead to one place.  Then what was written at one of
them stays there when the others are written.
-/

namespace ToolParams.FileTree

variable {tree after : FileTree} {paths : List String} {path content : String}

/-- No two of the paths lead to one place. -/
def Separate (tree : FileTree) (paths : List String) : Prop :=
  ∀ path ∈ paths, ∀ other ∈ paths, ∀ place,
    tree.locate path .writable = .ok place → tree.locate other .writable = .ok place →
      path = other

theorem separate_singleton (tree : FileTree) (path : String) : tree.Separate [path] := by
  intro first isFirst second isSecond place _ _
  exact (List.mem_singleton.mp isFirst).trans (List.mem_singleton.mp isSecond).symm

theorem separate_pair {other : String}
    (apart : tree.locate path .writable ≠ tree.locate other .writable) :
    tree.Separate [path, other] := by
  intro first isFirst second isSecond place located locatedToo
  have same := located.trans locatedToo.symm
  simp only [List.mem_cons, List.not_mem_nil, or_false] at isFirst isSecond
  rcases isFirst with rfl | rfl <;> rcases isSecond with rfl | rfl
  · rfl
  · exact absurd same apart
  · exact absurd same.symm apart
  · rfl

def Holds (tree : FileTree) (path content : String) : Prop :=
  ∃ place mode, tree.locate path .writable = .ok place ∧
    tree.node? place = some (.file content mode)

theorem Holds.exists_lookup (holds : tree.Holds path content) :
    ∃ place mode, tree.locate path .writable = .ok place ∧
      tree.node? place = some (.file content mode) ∧
        tree.lookup path = .ok (.file content mode) := by
  obtain ⟨place, mode, located, held⟩ := holds
  refine ⟨place, mode, located, held, ?_⟩
  unfold lookup
  rw [locate_followed located, Outcome.ok_bind, held]
  rfl

theorem Holds.eq_of_read {text : String} (holds : tree.Holds path content)
    (reads : tree.read path = .ok text) : text = content := by
  obtain ⟨_, _, _, _, found⟩ := holds.exists_lookup
  unfold FileTree.read at reads
  obtain ⟨_, _, reads⟩ := Outcome.bind_eq_ok_iff.mp reads
  rw [found] at reads
  simp only at reads
  split at reads
  · cases reads
    rfl
  · cases reads

theorem Holds.read_eq (holds : tree.Holds path content)
    (noNull : withoutNull "path" path = .ok ())
    (readable : ∀ place old mode, tree.locate path .writable = .ok place →
      tree.node? place = some (.file old mode) → isReadable mode = true) :
    tree.read path = .ok content := by
  obtain ⟨place, mode, located, held, found⟩ := holds.exists_lookup
  unfold FileTree.read
  rw [noNull, Outcome.ok_bind, found]
  simp [readable place content mode located held]

theorem holds_write (written : tree.write path content = .ok after) :
    after.Holds path content := by
  obtain ⟨target, mode, writes⟩ := writes_of_write written
  refine ⟨target, mode, writes.sameRoutes.locate writes.located, ?_⟩
  rw [writes.node?, if_pos rfl]

namespace Separate

theorem write (separate : tree.Separate paths)
    (written : tree.write path content = .ok after) : after.Separate paths := by
  obtain ⟨_, _, writes⟩ := writes_of_write written
  intro first isFirst second isSecond place located locatedToo
  exact separate first isFirst second isSecond place
    (writes.sameRoutes.locate_iff.mp located) (writes.sameRoutes.locate_iff.mp locatedToo)

theorem holds_write (separate : tree.Separate paths) (member : path ∈ paths)
    (written : tree.write path content = .ok after) {other text : String}
    (isOther : other ∈ paths) (different : other ≠ path) (holds : tree.Holds other text) :
    after.Holds other text := by
  obtain ⟨target, _, writes⟩ := writes_of_write written
  obtain ⟨place, mode, located, held⟩ := holds
  refine ⟨place, mode, writes.sameRoutes.locate located, ?_⟩
  rw [writes.node?, if_neg, held]
  rintro rfl
  exact different (separate other isOther path member _ located writes.located)

end Separate

end ToolParams.FileTree
