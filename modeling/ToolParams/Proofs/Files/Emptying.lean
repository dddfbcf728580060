import Mathlib.Data.List.Induction
import ToolParams.Proofs.Files.Clearing

/-!
# Removing directories

Removing what stands at a path with everything below it either meets an obstacle, and says
so, or leaves nothing at the path.
-/

namespace ToolParams.FileTree

variable {tree other : FileTree} {path : String} {place top : Place}

def Rooted (tree : FileTree) : Prop :=
  ∀ place, place ≠ [] → tree.node? place ≠ none →
    ∃ mode, tree.node? place.dropLast = some (.directory mode)

theorem rooted_of_keys
    (directories : ∀ place ∈ tree.nodes.keys, (tree.directoryMode? place.dropLast).isSome) :
    tree.Rooted := by
  intro place nonroot present
  obtain ⟨node, held⟩ := Option.ne_none_iff_exists'.mp present
  have directory := directories place (mem_keys_of_node? nonroot held)
  unfold directoryMode? at directory
  split at directory
  · rename_i mode isDirectory
    exact ⟨mode, isDirectory⟩
  · cases directory

theorem Advances.starts {ending : Ending} {position : Place} {steps : List String} {halt : Halt}
    (walk : Advances tree ending position steps halt) :
    (steps = [] ∧ halt = .arrived position) ∨
      ∃ mode, tree.node? position = some (.directory mode) := by
  cases walk with
  | arrive => exact .inl ⟨rfl, rfl⟩
  | stay directory _ _ => exact .inr ⟨_, directory⟩
  | ascend directory _ _ => exact .inr ⟨_, directory⟩
  | name enters _ _ => exact .inr (enters.directory.imp fun _ => And.left)
  | meet enters _ _ => exact .inr (enters.directory.imp fun _ => And.left)
  | enter enters _ _ => exact .inr (enters.directory.imp fun _ => And.left)

/-- Some nodes are gone, and the others are as they were. -/
structure Fewer (tree other : FileTree) : Prop where
  here : other.here = tree.here
  nodes : ∀ place node, other.node? place = some node → tree.node? place = some node

namespace Fewer

theorem enters (fewer : Fewer tree other) {ending : Ending} {position : Place} {step : String}
    {rest : List String} (enters : Enters other ending position step rest) :
    Enters tree ending position step rest := by
  obtain ⟨mode, directory, isOpen⟩ := enters.directory
  exact { enters with directory := ⟨mode, fewer.nodes _ _ directory, isOpen⟩ }

/-- A walk is not led astray by nodes that are gone, unless a link is gone that it would
follow in the end. -/
theorem advances (fewer : Fewer tree other) {ending : Ending} {position : Place}
    {steps : List String} {halt : Halt} (walk : Advances other ending position steps halt)
    (clear : ∀ place, halt = .arrived place → other.node? place = none →
      ending = .itself ∨ ∀ target, tree.node? place ≠ some (.link target)) :
    Advances tree ending position steps halt := by
  induction walk with
  | arrive => exact .arrive
  | stay directory idle _ induction =>
      exact .stay (fewer.nodes _ _ directory) idle (induction clear)
  | ascend directory isOpen _ induction =>
      exact .ascend (fewer.nodes _ _ directory) isOpen (induction clear)
  | name enters linked itself =>
      exact .name (fewer.enters enters) (fewer.nodes _ _ linked) itself
  | meet enters linked further =>
      exact .meet (fewer.enters enters) (fewer.nodes _ _ linked) further
  | @enter position step rest halt enters unlinked walk induction =>
      by_cases isLink : ∃ target, tree.node? (position ++ [step]) = some (.link target)
      · obtain ⟨target, linked⟩ := isLink
        have gone : other.node? (position ++ [step]) = none := by
          cases held : other.node? (position ++ [step]) with
          | none => rfl
          | some node =>
              have same := fewer.nodes _ _ held
              rw [linked] at same
              cases same
              exact absurd held (unlinked target)
        -- so the walk ends there, as nothing can be looked up behind it
        rcases walk.starts with ⟨rfl, rfl⟩ | ⟨mode, directory⟩
        · have itself := (clear _ rfl gone).resolve_right fun none => none target linked
          exact .name (fewer.enters enters) linked itself
        · rw [gone] at directory
          cases directory
      · exact .enter (fewer.enters enters) (not_exists.mp isLink) (induction clear)

theorem locateFrom (fewer : Fewer tree other) {ending : Ending} {links : Nat}
    {position : Place} {steps : List String}
    (located : other.locateFrom ending links position steps = .ok place)
    (clear : other.node? place = none →
      ending = .itself ∨ ∀ target, tree.node? place ≠ some (.link target)) :
    tree.locateFrom ending links position steps = .ok place := by
  induction links generalizing position steps with
  | zero => cases located
  | succ links induction =>
      unfold FileTree.locateFrom at located ⊢
      cases walked : other.advance ending position steps with
      | error cause =>
          rw [walked] at located
          cases located
      | ok halt =>
          rw [walked] at located
          have walk := fewer.advances (advance_eq_ok_iff.mp walked)
          cases halt with
          | arrived reached =>
              cases located
              rw [advance_eq_ok_iff.mpr (walk fun _ same => Halt.arrived.inj same ▸ clear)]
          | link directory target rest =>
              rw [advance_eq_ok_iff.mpr (walk fun _ same => by cases same)]
              exact induction located

theorem locate (fewer : Fewer tree other) {ending : Ending}
    (located : other.locate path ending = .ok place)
    (clear : other.node? place = none →
      ending = .itself ∨ ∀ target, tree.node? place ≠ some (.link target)) :
    tree.locate path ending = .ok place := by
  unfold FileTree.locate at located ⊢
  split_ifs at located ⊢
  rw [← fewer.here]
  exact fewer.locateFrom located clear

end Fewer

theorem Rooted.node?_above (rooted : tree.Rooted) {step : Place} (before : step <+: place)
    (held : tree.node? place ≠ none) : tree.node? step ≠ none := by
  obtain ⟨rest, rfl⟩ := before
  induction rest using List.reverseRecOn with
  | nil => rwa [List.append_nil] at held
  | append_singleton rest last induction =>
      rw [← List.append_assoc] at held
      obtain ⟨mode, directory⟩ := rooted _ (by simp) held
      apply induction
      rw [List.dropLast_concat] at directory
      rw [directory]
      exact Option.some_ne_none _

theorem mem_descent_iff {step : Place} (below : top <+: place) :
    step ∈ descent top place ↔ top <+: step ∧ step <+: place := by
  simp only [descent, List.mem_map, List.mem_range]
  constructor
  · rintro ⟨count, _, rfl⟩
    refine ⟨?_, List.take_prefix _ _⟩
    exact (List.prefix_take_iff.mpr ⟨below, Nat.le_add_right _ _⟩)
  · rintro ⟨above, before⟩
    have shorter := above.length_le
    have longer := before.length_le
    refine ⟨step.length - top.length, by omega, ?_⟩
    rw [Nat.add_sub_cancel' shorter]
    exact (List.prefix_iff_eq_take.mp before).symm

/-- A removal that meets no obstacle leaves nothing behind one. -/
theorem stuck_eq_nil_of_clear (rooted : tree.Rooted) (nonroot : top ≠ [])
    (cleared : (tree.clear path top).1 = .ok ()) : tree.stuck top = [] := by
  unfold stuck
  rw [List.filter_eq_nil_iff]
  intro place member isStuck
  obtain ⟨isKey, below⟩ := mem_atAndBelow.mp member
  obtain ⟨step, onWay, blocked⟩ := List.any_eq_true.mp isStuck
  obtain ⟨above, before⟩ := (mem_descent_iff below).mp onWay
  have stepNonroot : step ≠ [] := by
    rintro rfl
    exact nonroot (List.prefix_nil.mp above)
  have placeNonroot : place ≠ [] := by
    rintro rfl
    exact stepNonroot (List.prefix_nil.mp before)
  have placeHeld : tree.node? place ≠ none := by
    have held := lookup_isSome_of_mem isKey
    simpa [node?, placeNonroot, OrderedMap.get?, Option.isSome_iff_ne_none] using held
  obtain ⟨node, stepHeld⟩ :=
    Option.ne_none_iff_exists'.mp (rooted.node?_above before placeHeld)
  have stepStuck : step ∈ tree.stuck top := by
    have isKeyToo := mem_keys_of_node? stepNonroot stepHeld
    refine List.mem_filter.mpr ⟨mem_atAndBelow.mpr ⟨isKeyToo, above⟩, ?_⟩
    exact List.any_eq_true.mpr
      ⟨step, (mem_descent_iff above).mpr ⟨above, List.prefix_refl step⟩, blocked⟩
  obtain ⟨operation, obstacle⟩ := Option.isSome_iff_exists.mp blocked
  simp only [clear] at cleared
  cases first : (tree.stuck top).findSome? fun other =>
      (tree.obstacle? other).map fun operation =>
        FileFault.onPath .denied operation ("/".intercalate (path :: other.drop top.length)) with
  | some fault =>
      rw [first] at cleared
      cases cleared
  | none =>
      have clear := List.findSome?_eq_none_iff.mp first step stepStuck
      rw [obstacle] at clear
      cases clear

/-- Where nothing keeps anything from being removed, nothing stays. -/
theorem stuck_eq_nil_of_unobstructed (unobstructed : ∀ place ∈ tree.nodes.keys, top <+: place →
    ∀ step ∈ descent top place, tree.obstacle? step = none) : tree.stuck top = [] := by
  unfold stuck
  rw [List.filter_eq_nil_iff]
  intro place member blocked
  obtain ⟨isKey, below⟩ := mem_atAndBelow.mp member
  obtain ⟨step, onWay, obstacle⟩ := List.any_eq_true.mp blocked
  rw [unobstructed place isKey below step onWay] at obstacle
  cases obstacle

/-- A directory that nothing keeps from being removed is removed with all it holds. -/
theorem remove_of_unobstructed (noNull : withoutNull "path" path = .ok ())
    (located : tree.locate path .itself = .ok top)
    (directory : (tree.directoryMode? top).isSome = true)
    (notSlashed : tree.isSlashedLink path = false) (notDot : Path.baseName path ≠ ".")
    (notDots : Path.baseName path ≠ "..")
    (unobstructed : ∀ place ∈ tree.nodes.keys, top <+: place →
      ∀ step ∈ descent top place, tree.obstacle? step = none) :
    tree.remove path true = (.ok (), tree.prune top) := by
  obtain ⟨mode, isDirectory⟩ := Option.isSome_iff_exists.mp directory
  unfold remove
  rw [noNull, located]
  simp only [isDirectory, notSlashed, notDot, notDots, Bool.not_true, Bool.false_eq_true,
    if_false, clear_of_stuck_nil (stuck_eq_nil_of_unobstructed unobstructed)]

/-- Paths of which a removal may keep the directory without a fault: they end in two dots,
have a slash behind a link, or lead to the root. -/
def Spares (tree : FileTree) (path : String) : Prop :=
  Path.baseName path = ".." ∨ tree.isSlashedLink path = true ∨ tree.locate path .itself = .ok []

theorem remove_eq_prune_of_ok (rooted : tree.Rooted) (unspared : ¬tree.Spares path)
    (located : tree.locate path .itself = .ok place)
    (removed : (tree.remove path true).1 = .ok ()) :
    (tree.remove path true).2 = tree.prune place := by
  simp only [Spares, not_or] at unspared
  obtain ⟨notDots, notSlashed, notRoot⟩ := unspared
  have nonroot : place ≠ [] := by
    rintro rfl
    exact notRoot located
  unfold remove at removed ⊢
  rw [located] at removed ⊢
  cases noNull : withoutNull "path" path with
  | error fault =>
      rw [noNull] at removed
      cases removed
  | ok _ =>
      rw [noNull] at removed
      cases directory : tree.directoryMode? place with
      | none =>
          simp only [directory] at removed ⊢
          rw [clear_of_stuck_nil (stuck_eq_nil_of_clear rooted nonroot removed)]
      | some mode =>
          simp only [directory, notSlashed, notDots, Bool.not_true, Bool.false_eq_true,
            if_false] at removed ⊢
          by_cases dot : Path.baseName path = "."
          · rw [if_pos dot] at removed
            cases removed
          · rw [if_neg dot] at removed ⊢
            rw [clear_of_stuck_nil (stuck_eq_nil_of_clear rooted nonroot removed)]

theorem node?_prune_below (nonroot : top ≠ []) (below : top <+: place) :
    (tree.prune top).node? place = none := by
  have placeNonroot : place ≠ [] := by
    rintro rfl
    exact nonroot (List.prefix_nil.mp below)
  simp [node?, prune, placeNonroot, List.isPrefixOf_iff_prefix.mpr below]

theorem node?_prune_apart (apart : ¬top <+: place) :
    (tree.prune top).node? place = tree.node? place := by
  by_cases root : place = []
  · simp [node?, root]
  · simp [node?, prune, root, apart]

theorem fewer_prune (tree : FileTree) (top : Place) : Fewer tree (tree.prune top) where
  here := rfl
  nodes := by
    intro place node held
    by_cases root : place = []
    · simpa [node?, root] using held
    · simp only [node?, root, if_false, prune, OrderedMap.get?_filterKeys] at held ⊢
      split at held
      · exact held
      · cases held

/-- A removal that reports no fault leaves nothing at its path. -/
theorem not_hasAt_of_remove_eq_ok (rooted : tree.Rooted) (unspared : ¬tree.Spares path)
    (removed : (tree.remove path true).1 = .ok ()) : ¬(tree.remove path true).2.HasAt path := by
  rintro ⟨place, node, located, held⟩
  cases before : tree.locate path .itself with
  | error cause =>
      have unchanged : (tree.remove path true).2 = tree := by
        unfold remove
        rw [before]
        cases withoutNull "path" path with
        | error fault => rfl
        | ok _ => cases cause <;> rfl
      rw [unchanged, before] at located
      cases located
  | ok target =>
      have pruned := remove_eq_prune_of_ok rooted unspared before removed
      rw [pruned] at located held
      have nonroot : target ≠ [] := by
        rintro rfl
        exact unspared (.inr (.inr before))
      have same := (fewer_prune tree target).locate located fun _ => .inl rfl
      rw [before] at same
      cases same
      rw [node?_prune_below nonroot (List.prefix_refl _)] at held
      cases held

end ToolParams.FileTree
