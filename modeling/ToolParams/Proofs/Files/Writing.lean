import ToolParams.Proofs.Files.Routes
import ToolParams.Proofs.Outcome

/-!
# Writing files

Writing puts a file at the place of its path, which held a file or nothing before,
and changes no other place.  So paths lead where they led before, and what was
written can be read, unless a file that was there already denies it.
-/

namespace ToolParams.FileTree

variable {tree after : FileTree} {path content : String}

@[simp]
theorem node?_root (tree : FileTree) : tree.node? [] = some (.directory directoryMode) := by
  simp [node?]

theorem node?_place {target : Place} (below : target ≠ []) (tree : FileTree) (node : Node)
    (place : Place) :
    (tree.place target node).node? place =
      if place = target then some node else tree.node? place := by
  by_cases root : place = []
  · subst root
    simp [node?, Ne.symm below]
  · by_cases same : place = target
    · subst same
      simp [node?, FileTree.place, root]
    · simp [node?, FileTree.place, root, same, Ne.symm same]

/-- A write that succeeds puts a file at the place of its path, where there was nothing
or a file. -/
structure Writes (tree : FileTree) (path content : String) (target : Place) (mode : Nat)
    (after : FileTree) : Prop where
  noNull : withoutNull "path" path = .ok ()
  located : tree.locate path .writable = .ok target
  result : after = tree.place target (.file content mode)
  before : (tree.node? target = none ∧ tree.isFree target = true ∧ mode = fileMode) ∨
    ∃ old, tree.node? target = some (.file old mode)

theorem writes_of_write (written : tree.write path content = .ok after) :
    ∃ target mode, Writes tree path content target mode after := by
  obtain ⟨_, noNull, written⟩ := Outcome.bind_eq_ok_iff.mp written
  cases located : tree.locate path .writable with
  | error cause =>
      rw [located] at written
      cases written
  | ok target =>
      rw [located] at written
      simp only at written
      cases held : tree.node? target with
      | none =>
          rw [held] at written
          by_cases free : tree.isFree target = true
          · simp only [free, if_true, Except.ok.injEq] at written
            exact ⟨target, fileMode, noNull, located, written.symm, .inl ⟨held, free, rfl⟩⟩
          · simp [free] at written
      | some node =>
          rw [held] at written
          cases node with
          | file old mode =>
              by_cases allowed : isWritable mode = true
              · simp only [allowed, if_true, Except.ok.injEq] at written
                exact ⟨target, mode, noNull, located, written.symm, .inr ⟨old, held⟩⟩
              · simp [allowed] at written
          | directory mode => cases written
          | link target => cases written

namespace Writes

variable {target : Place} {mode : Nat}

theorem below_root (writes : Writes tree path content target mode after) : target ≠ [] := by
  rintro rfl
  rcases writes.before with ⟨nothing, _⟩ | ⟨old, file⟩
  · simp at nothing
  · simp at file

theorem noDirectory (writes : Writes tree path content target mode after) (other : Nat) :
    tree.node? target ≠ some (.directory other) := by
  rcases writes.before with ⟨nothing, _⟩ | ⟨old, file⟩
  · simp [nothing]
  · simp [file]

theorem node? (writes : Writes tree path content target mode after) (place : Place) :
    after.node? place =
      if place = target then some (.file content mode) else tree.node? place := by
  rw [writes.result, node?_place writes.below_root]

theorem sameRoutes (writes : Writes tree path content target mode after) :
    SameRoutes tree after := by
  refine ⟨by rw [writes.result]; rfl, ?_⟩
  intro place
  unfold route?
  rw [writes.node? place]
  by_cases same : place = target
  · subst same
    rcases writes.before with ⟨nothing, _⟩ | ⟨old, file⟩
    · simp [nothing]
    · simp [file]
  · simp [same]

end Writes

theorem advances_followed {position : Place} {steps : List String} {halt : Halt}
    (walk : Advances tree .writable position steps halt) :
    Advances tree .followed position steps halt := by
  have eased {position : Place} {step : String} {rest : List String}
      (enters : Enters tree .writable position step rest) :
      Enters tree .followed position step rest :=
    { enters with noSlash := by simp }
  induction walk with
  | arrive => exact .arrive
  | stay directory idle _ induction => exact .stay directory idle induction
  | ascend directory open_ _ induction => exact .ascend directory open_ induction
  | name _ _ itself => cases itself
  | meet enters linked _ => exact .meet (eased enters) linked (by simp)
  | enter enters unlinked _ induction => exact .enter (eased enters) unlinked induction

theorem locateFrom_followed {links : Nat} {position place : Place} {steps : List String}
    (located : tree.locateFrom .writable links position steps = .ok place) :
    tree.locateFrom .followed links position steps = .ok place := by
  induction links generalizing position steps with
  | zero => cases located
  | succ links induction =>
      unfold locateFrom at located ⊢
      cases walked : tree.advance .writable position steps with
      | error cause =>
          rw [walked] at located
          cases located
      | ok halt =>
          rw [walked] at located
          rw [advance_eq_ok_iff.mpr (advances_followed (advance_eq_ok_iff.mp walked))]
          cases halt with
          | arrived reached => exact located
          | link directory target rest => exact induction located

theorem locate_followed {place : Place} (located : tree.locate path .writable = .ok place) :
    tree.locate path .followed = .ok place := by
  unfold locate at located ⊢
  split_ifs at located ⊢
  exact locateFrom_followed located

/-- What is at a path can be read as it was written there. -/
def Keeps (tree : FileTree) (path : String) : Prop :=
  ∀ content after, tree.write path content = .ok after → after.read path = .ok content

/-- Only a file that its owner may write but not read does not show what is written to
it. -/
theorem keeps_of_readable
    (readable : ∀ place content mode, tree.locate path .writable = .ok place →
      tree.node? place = some (.file content mode) → isReadable mode = true) :
    tree.Keeps path := by
  intro content after written
  obtain ⟨target, mode, writes⟩ := writes_of_write written
  have found : after.lookup path = .ok (.file content mode) := by
    unfold lookup
    rw [writes.sameRoutes.locate (locate_followed writes.located)]
    simp [writes.node?, pure, Except.pure]
  have allowed : isReadable mode = true := by
    rcases writes.before with ⟨_, _, rfl⟩ | ⟨old, file⟩
    · decide
    · exact readable target old mode writes.located file
  unfold read
  rw [writes.noNull, Outcome.ok_bind, found]
  simp [allowed]

/-- A walk arrives at the same place when links are not followed at its end, unless its end
is a link. -/
theorem advances_itself {ending : Ending} (follows : ending ≠ .itself) {position : Place}
    {steps : List String} {halt : Halt} (walk : Advances tree ending position steps halt) :
    Advances tree .itself position steps halt ∨
      ∃ place target, Advances tree .itself position steps (.arrived place) ∧
        tree.node? place = some (.link target) := by
  have eased {position : Place} {step : String} {rest : List String}
      (enters : Enters tree ending position step rest) :
      Enters tree .itself position step rest :=
    { enters with noSlash := by simp }
  induction walk with
  | arrive => exact .inl .arrive
  | stay directory idle _ induction =>
      exact induction.imp (.stay directory idle) fun ⟨place, target, walk, linked⟩ =>
        ⟨place, target, .stay directory idle walk, linked⟩
  | ascend directory open_ _ induction =>
      exact induction.imp (.ascend directory open_) fun ⟨place, target, walk, linked⟩ =>
        ⟨place, target, .ascend directory open_ walk, linked⟩
  | name _ _ itself => exact absurd itself follows
  | @meet position step target rest enters linked _ =>
      by_cases last : rest = []
      · subst last
        exact .inr ⟨position ++ [step], target, .name (eased enters) linked rfl, linked⟩
      · exact .inl (.meet (eased enters) linked fun ended => absurd ended last)
  | enter enters unlinked _ induction =>
      exact induction.imp (.enter (eased enters) unlinked) fun ⟨place, target, walk, linked⟩ =>
        ⟨place, target, .enter (eased enters) unlinked walk, linked⟩

theorem locateFrom_itself {ending : Ending} (follows : ending ≠ .itself) {links : Nat}
    {position place : Place} {steps : List String}
    (located : tree.locateFrom ending links position steps = .ok place) :
    tree.locateFrom .itself links position steps = .ok place ∨
      ∃ last target, tree.locateFrom .itself links position steps = .ok last ∧
        tree.node? last = some (.link target) := by
  induction links generalizing position steps with
  | zero => cases located
  | succ links induction =>
      unfold locateFrom at located ⊢
      cases walked : tree.advance ending position steps with
      | error cause =>
          rw [walked] at located
          cases located
      | ok halt =>
          rw [walked] at located
          rcases advances_itself follows (advance_eq_ok_iff.mp walked) with
            walk | ⟨last, target, walk, linked⟩
          · rw [advance_eq_ok_iff.mpr walk]
            cases halt with
            | arrived reached => exact .inl located
            | link directory target rest => exact induction located
          · rw [advance_eq_ok_iff.mpr walk]
            exact .inr ⟨last, target, rfl, linked⟩

theorem locate_itself {ending : Ending} (follows : ending ≠ .itself) {place : Place}
    (located : tree.locate path ending = .ok place) :
    tree.locate path .itself = .ok place ∨
      ∃ last target, tree.locate path .itself = .ok last ∧
        tree.node? last = some (.link target) := by
  unfold locate at located ⊢
  split_ifs at located ⊢
  exact locateFrom_itself follows located

/-- A path that is not in use: nothing stands at its place or below. -/
def Unused (tree : FileTree) (path : String) : Prop :=
  ∀ place, tree.locate path .itself = .ok place →
    ∀ below, place <+: below → tree.node? below = none

theorem Unused.locate_itself {place : Place} (unused : tree.Unused path)
    (located : tree.locate path .writable = .ok place) :
    tree.locate path .itself = .ok place := by
  rcases FileTree.locate_itself (by decide) located with same | ⟨last, target, reached, linked⟩
  · exact same
  · rw [unused last reached last (List.prefix_refl last)] at linked
    cases linked

/-- What any number of successful writes at some paths makes of a tree. -/
inductive Written (paths : List String) (tree : FileTree) : FileTree → Prop where
  | refl : Written paths tree tree
  | write {middle after : FileTree} {path content : String} :
      Written paths tree middle →
      path ∈ paths →
      middle.write path content = .ok after →
      Written paths tree after

namespace Written

variable {paths more : List String} {middle : FileTree}

theorem mono (written : Written paths tree after) (covered : ∀ path ∈ paths, path ∈ more) :
    Written more tree after := by
  induction written with
  | refl => exact .refl
  | write _ member step induction => exact .write induction (covered _ member) step

theorem trans (first : Written paths tree middle) (second : Written paths middle after) :
    Written paths tree after := by
  induction second with
  | refl => exact first
  | write _ member step induction => exact .write induction member step

theorem sameRoutes (written : Written paths tree after) : SameRoutes tree after := by
  induction written with
  | refl => exact .refl _
  | write _ _ step induction =>
      obtain ⟨_, _, writes⟩ := writes_of_write step
      exact induction.trans writes.sameRoutes

/-- A place that writes changed is the place of one of their paths, a file stands there,
and at first there was one or names could be put next to it. -/
theorem changed (written : Written paths tree after) (place : Place) :
    after.node? place = tree.node? place ∨
      ∃ path ∈ paths, withoutNull "path" path = .ok () ∧
        tree.locate path .writable = .ok place ∧
        (∃ content mode, after.node? place = some (.file content mode)) ∧
        (tree.isFree place = true ∨
          ∃ content mode, tree.node? place = some (.file content mode)) := by
  induction written with
  | refl => exact .inl rfl
  | @write middle after path content earlier member step induction =>
      obtain ⟨target, mode, writes⟩ := writes_of_write step
      rw [writes.node? place]
      by_cases same : place = target
      · subst same
        refine .inr ⟨path, member, writes.noNull,
          earlier.sameRoutes.locate_iff.mp writes.located, ⟨content, mode, by simp⟩, ?_⟩
        rcases writes.before with ⟨_, free, _⟩ | ⟨old, file⟩
        · exact .inl (by rw [← earlier.sameRoutes.isFree, free])
        · rcases induction with kept | ⟨_, _, _, _, _, first⟩
          · exact .inr ⟨old, mode, kept ▸ file⟩
          · exact first
      · rw [if_neg same]
        exact induction

/-- Files that are written keep their modes, and new ones can be read. -/
theorem isReadable {place : Place} (written : Written paths tree after)
    (readable : ∀ content mode, tree.node? place = some (.file content mode) →
      FileTree.isReadable mode = true) :
    ∀ content mode, after.node? place = some (.file content mode) →
      FileTree.isReadable mode = true := by
  induction written with
  | refl => exact readable
  | write _ _ step induction =>
      obtain ⟨target, kept, writes⟩ := writes_of_write step
      intro content mode held
      rw [writes.node? place] at held
      by_cases same : place = target
      · subst same
        rw [if_pos rfl] at held
        cases held
        rcases writes.before with ⟨_, _, rfl⟩ | ⟨old, file⟩
        · decide
        · exact induction _ _ file
      · rw [if_neg same] at held
        exact induction content mode held

end Written

end ToolParams.FileTree
