import Mathlib.Tactic.SplitIfs
import ToolParams.Files.Tree

/-!
# Where paths lead

The place of a path is found by looking at directories and links alone.  Two trees
that agree on these have the same places for all paths, whatever files they hold,
so writing and removing files does not move anything.
-/

namespace ToolParams.FileTree

/-- What a walk along names sees of a place: a directory or a link, but no file. -/
def route? (tree : FileTree) (place : Place) : Option Node :=
  match tree.node? place with
  | some (.file _ _) => none
  | other => other

/-- Trees that differ at most in their files. -/
structure SameRoutes (tree other : FileTree) : Prop where
  here : other.here = tree.here
  route : ∀ place, other.route? place = tree.route? place

variable {tree other : FileTree}

theorem node?_eq_directory_iff {place : Place} {mode : Nat} :
    tree.node? place = some (.directory mode) ↔ tree.route? place = some (.directory mode) := by
  unfold route?
  cases tree.node? place with
  | none => simp
  | some node => cases node <;> simp

theorem node?_eq_link_iff {place : Place} {target : String} :
    tree.node? place = some (.link target) ↔ tree.route? place = some (.link target) := by
  unfold route?
  cases tree.node? place with
  | none => simp
  | some node => cases node <;> simp

namespace SameRoutes

theorem refl (tree : FileTree) : SameRoutes tree tree :=
  ⟨rfl, fun _ => rfl⟩

theorem symm (same : SameRoutes tree other) : SameRoutes other tree :=
  ⟨same.here.symm, fun place => (same.route place).symm⟩

theorem trans {last : FileTree} (first : SameRoutes tree other)
    (second : SameRoutes other last) : SameRoutes tree last :=
  ⟨second.here.trans first.here, fun place => (second.route place).trans (first.route place)⟩

theorem directory (same : SameRoutes tree other) {place : Place} {mode : Nat} :
    other.node? place = some (.directory mode) ↔ tree.node? place = some (.directory mode) := by
  rw [node?_eq_directory_iff, node?_eq_directory_iff, same.route]

theorem link (same : SameRoutes tree other) {place : Place} {target : String} :
    other.node? place = some (.link target) ↔ tree.node? place = some (.link target) := by
  rw [node?_eq_link_iff, node?_eq_link_iff, same.route]

theorem directoryMode? (same : SameRoutes tree other) (place : Place) :
    other.directoryMode? place = tree.directoryMode? place := by
  have view (tree : FileTree) (mode : Nat) :
      tree.directoryMode? place = some mode ↔ tree.node? place = some (.directory mode) := by
    unfold FileTree.directoryMode?
    split <;> simp_all
  apply Option.ext
  intro mode
  rw [view, view, same.directory]

theorem isFree (same : SameRoutes tree other) (place : Place) :
    other.isFree place = tree.isFree place := by
  unfold FileTree.isFree
  rw [same.directoryMode?]

end SameRoutes

/-- Whether a name may be looked up in a directory on a walk with further names. -/
structure Enters (tree : FileTree) (ending : Ending) (position : Place) (step : String)
    (rest : List String) : Prop where
  directory : ∃ mode, tree.node? position = some (.directory mode) ∧ isRunnable mode = true
  isName : step ≠ "" ∧ step ≠ "." ∧ step ≠ ".."
  noSlash : ¬(ending = .writable ∧ rest ≠ [] ∧ rest.all (· = "") = true)
  isShort : step.utf8ByteSize ≤ longestName

/-- The walks along names, step by step. -/
inductive Advances (tree : FileTree) (ending : Ending) : Place → List String → Halt → Prop where
  | arrive {position : Place} : Advances tree ending position [] (.arrived position)
  | stay {position : Place} {step : String} {rest : List String} {halt : Halt} {mode : Nat} :
      tree.node? position = some (.directory mode) →
      step = "" ∨ (isRunnable mode = true ∧ step = ".") →
      Advances tree ending position rest halt →
      Advances tree ending position (step :: rest) halt
  | ascend {position : Place} {rest : List String} {halt : Halt} {mode : Nat} :
      tree.node? position = some (.directory mode) →
      isRunnable mode = true →
      Advances tree ending position.dropLast rest halt →
      Advances tree ending position (".." :: rest) halt
  | name {position : Place} {step target : String} :
      Enters tree ending position step [] →
      tree.node? (position ++ [step]) = some (.link target) →
      ending = .itself →
      Advances tree ending position [step] (.arrived (position ++ [step]))
  | meet {position : Place} {step target : String} {rest : List String} :
      Enters tree ending position step rest →
      tree.node? (position ++ [step]) = some (.link target) →
      (rest = [] → ending ≠ .itself) →
      Advances tree ending position (step :: rest) (.link position target rest)
  | enter {position : Place} {step : String} {rest : List String} {halt : Halt} :
      Enters tree ending position step rest →
      (∀ target, tree.node? (position ++ [step]) ≠ some (.link target)) →
      Advances tree ending (position ++ [step]) rest halt →
      Advances tree ending position (step :: rest) halt

theorem advance_enters {ending : Ending} {position : Place} {step : String}
    {rest : List String} (enters : Enters tree ending position step rest) :
    tree.advance ending position (step :: rest) =
      match tree.node? (position ++ [step]) with
      | some (.link target) =>
          if rest.isEmpty && ending = .itself then .ok (.arrived (position ++ [step]))
          else .ok (.link position target rest)
      | _ => tree.advance ending (position ++ [step]) rest := by
  obtain ⟨⟨mode, directory, open_⟩, ⟨notEmpty, notDot, notDots⟩, noSlash, isShort⟩ := enters
  have plain : (decide (ending = .writable) && !rest.isEmpty && rest.all (· = "")) = false := by
    apply Bool.eq_false_iff.mpr
    intro slash
    simp only [Bool.and_eq_true, decide_eq_true_eq, Bool.not_eq_true',
      List.isEmpty_eq_false_iff] at slash
    exact noSlash ⟨slash.1.1, slash.1.2, slash.2⟩
  rw [advance, directory]
  rcases tree.node? (position ++ [step]) with _ | ⟨_ | _ | _⟩ <;>
    simp only [notEmpty, open_, notDot, notDots, plain, Nat.not_lt.mpr isShort, if_false,
      Bool.not_true, Bool.false_eq_true]

theorem advances_of_advance {ending : Ending} {position : Place} {steps : List String}
    {halt : Halt} (arrives : tree.advance ending position steps = .ok halt) :
    Advances tree ending position steps halt := by
  induction steps generalizing position with
  | nil =>
      cases arrives
      exact .arrive
  | cons step rest induction =>
      have walked := arrives
      unfold advance at walked
      split at walked
      · cases walked
      · rename_i mode directory
        by_cases empty : step = ""
        · rw [if_pos empty] at walked
          exact .stay directory (.inl empty) (induction walked)
        by_cases closed : isRunnable mode = true
        case neg => simp [empty, closed] at walked
        by_cases dot : step = "."
        · simp only [closed, dot, Bool.not_true, Bool.false_eq_true, if_false, if_true] at walked
          exact .stay directory (.inr ⟨closed, dot⟩) (induction (by simpa using walked))
        by_cases dots : step = ".."
        · subst dots
          exact .ascend directory closed (induction (by simpa [closed] using walked))
        simp only [empty, closed, dot, dots, Bool.not_true, Bool.false_eq_true, if_false] at walked
        split at walked
        · cases walked
        · rename_i slash
          split at walked
          · cases walked
          · rename_i long
            have enters : Enters tree ending position step rest :=
              { directory := ⟨mode, directory, closed⟩
                isName := ⟨empty, dot, dots⟩
                noSlash := by
                  rintro ⟨writable, further, blank⟩
                  exact slash (by simp [writable, further, blank])
                isShort := by omega }
            rw [advance_enters enters] at arrives
            split at arrives
            · rename_i target linked
              split at arrives
              · rename_i last
                cases arrives
                simp only [Bool.and_eq_true, List.isEmpty_iff, decide_eq_true_eq] at last
                obtain ⟨rfl, itself⟩ := last
                exact .name enters linked itself
              · rename_i last
                cases arrives
                refine .meet enters linked ?_
                rintro rfl itself
                exact last (by simp [itself])
            · rename_i unlinked
              exact .enter enters unlinked (induction arrives)
      · cases walked

theorem advance_of_advances {ending : Ending} {position : Place} {steps : List String}
    {halt : Halt} (walk : Advances tree ending position steps halt) :
    tree.advance ending position steps = .ok halt := by
  induction walk with
  | arrive => rfl
  | stay directory idle _ induction =>
      rw [advance, directory]
      rcases idle with rfl | ⟨open_, rfl⟩
      · simpa using induction
      · simpa [open_] using induction
  | ascend directory open_ _ induction =>
      rw [advance, directory]
      simpa [open_] using induction
  | name enters linked itself =>
      rw [advance_enters enters, linked]
      simp [itself]
  | @meet position step target rest enters linked further =>
      rw [advance_enters enters, linked]
      have open_ : ¬(rest.isEmpty && decide (ending = .itself)) = true := by
        simpa using further
      simp only [if_neg open_]
  | enter enters unlinked _ induction =>
      rw [advance_enters enters]
      split
      · rename_i target linked
        exact absurd linked (unlinked target)
      · exact induction

theorem advance_eq_ok_iff {ending : Ending} {position : Place} {steps : List String}
    {halt : Halt} :
    tree.advance ending position steps = .ok halt ↔
      Advances tree ending position steps halt :=
  ⟨advances_of_advance, advance_of_advances⟩

namespace SameRoutes

theorem enters (same : SameRoutes tree other) {ending : Ending} {position : Place}
    {step : String} {rest : List String} (enters : Enters tree ending position step rest) :
    Enters other ending position step rest := by
  obtain ⟨mode, directory, open_⟩ := enters.directory
  exact { enters with directory := ⟨mode, same.directory.mpr directory, open_⟩ }

theorem advances (same : SameRoutes tree other) {ending : Ending} {position : Place}
    {steps : List String} {halt : Halt} (walk : Advances tree ending position steps halt) :
    Advances other ending position steps halt := by
  induction walk with
  | arrive => exact .arrive
  | stay directory idle _ induction => exact .stay (same.directory.mpr directory) idle induction
  | ascend directory open_ _ induction =>
      exact .ascend (same.directory.mpr directory) open_ induction
  | name enters linked itself => exact .name (same.enters enters) (same.link.mpr linked) itself
  | meet enters linked further => exact .meet (same.enters enters) (same.link.mpr linked) further
  | enter enters unlinked _ induction =>
      refine .enter (same.enters enters) ?_ induction
      intro target linked
      exact unlinked target (same.link.mp linked)

theorem locateFrom (same : SameRoutes tree other) {ending : Ending} {links : Nat}
    {position place : Place} {steps : List String}
    (located : tree.locateFrom ending links position steps = .ok place) :
    other.locateFrom ending links position steps = .ok place := by
  induction links generalizing position steps with
  | zero => cases located
  | succ links induction =>
      unfold FileTree.locateFrom at located ⊢
      cases walked : tree.advance ending position steps with
      | error cause =>
          rw [walked] at located
          cases located
      | ok halt =>
          rw [walked] at located
          rw [advance_eq_ok_iff.mpr (same.advances (advance_eq_ok_iff.mp walked))]
          cases halt with
          | arrived reached => exact located
          | link directory target rest => exact induction located

theorem locate (same : SameRoutes tree other) {path : String} {ending : Ending} {place : Place}
    (located : tree.locate path ending = .ok place) : other.locate path ending = .ok place := by
  unfold FileTree.locate at located ⊢
  split_ifs at located ⊢
  rw [same.here]
  exact same.locateFrom located

theorem locate_iff (same : SameRoutes tree other) {path : String} {ending : Ending}
    {place : Place} :
    other.locate path ending = .ok place ↔ tree.locate path ending = .ok place :=
  ⟨same.symm.locate, same.locate⟩

end SameRoutes

end ToolParams.FileTree
