import ToolParams.Files.Removal
import ToolParams.Proofs.Files.Writing

/-!
# Removing files

Removing what stands at a path, when that is a file or nothing, clears its place and
changes no other one.  A file can be removed if names may be cleared from its
directory; removing other files does not change this.
-/

namespace ToolParams.FileTree

variable {tree other : FileTree} {path : String} {place : Place}

/-- At a path there is a file or nothing, and nothing below it. -/
def IsPlainAt (tree : FileTree) (path : String) : Prop :=
  ∀ place, tree.locate path .itself = .ok place →
    (∀ below, place <+: below → below ≠ place → tree.node? below = none) ∧
      (tree.node? place = none ∨ ∃ content mode, tree.node? place = some (.file content mode))

/-- Something stands at a path. -/
def HasAt (tree : FileTree) (path : String) : Prop :=
  ∃ place node, tree.locate path .itself = .ok place ∧ tree.node? place = some node

/-- At a path there is a file that can be removed, or nothing. -/
structure Removable (tree : FileTree) (path : String) : Prop where
  plain : tree.IsPlainAt path
  clear : ∀ place node, tree.locate path .itself = .ok place →
    tree.node? place = some node →
    withoutNull "path" path = .ok () ∧ tree.isFree place = true

/-- Fewer files are in the way of no removal. -/
theorem Removable.mono (removable : tree.Removable path) (same : SameRoutes tree other)
    (fewer : ∀ place, other.node? place = tree.node? place ∨ other.node? place = none) :
    other.Removable path := by
  constructor
  · intro place located
    obtain ⟨bare, held⟩ := removable.plain place (same.locate_iff.mp located)
    refine ⟨fun below later different => ?_, ?_⟩
    · rcases fewer below with kept | gone
      · rw [kept, bare below later different]
      · exact gone
    · rcases fewer place with kept | gone
      · rw [kept]
        exact held
      · exact .inl gone
  · intro place node located held
    rw [same.isFree]
    rcases fewer place with kept | gone
    · exact removable.clear place node (same.locate_iff.mp located) (kept ▸ held)
    · rw [gone] at held
      cases held

theorem directoryMode?_eq_none (held : tree.node? place = none ∨
    ∃ content mode, tree.node? place = some (.file content mode)) :
    tree.directoryMode? place = none := by
  unfold directoryMode?
  rcases held with nothing | ⟨content, mode, file⟩
  · rw [nothing]
  · rw [file]

theorem lookup_isSome_of_mem {pairs : List (Place × Node)} (member : place ∈ pairs.map Prod.fst) :
    (OrderedMap.lookup place pairs).isSome = true := by
  induction pairs with
  | nil => simp at member
  | cons entry rest induction =>
      obtain ⟨key, node⟩ := entry
      by_cases same : key = place
      · simp [OrderedMap.lookup, same]
      · have later : place ∈ rest.map Prod.fst := by
          simpa [Ne.symm same] using member
        simpa [OrderedMap.lookup, same] using induction later

theorem mem_keys_of_node? {node : Node} (below : place ≠ [])
    (held : tree.node? place = some node) : place ∈ tree.nodes.keys := by
  have found : OrderedMap.lookup place tree.nodes.toList = some node := by
    simpa [node?, below, OrderedMap.get?] using held
  unfold OrderedMap.keys
  generalize tree.nodes.toList = pairs at found ⊢
  induction pairs with
  | nil => simp [OrderedMap.lookup] at found
  | cons entry rest induction =>
      obtain ⟨key, value⟩ := entry
      by_cases same : key = place
      · simp [same]
      · simp only [OrderedMap.lookup, same, if_false] at found
        simpa using .inr (by simpa using induction found)

theorem descent_self (place : Place) : descent place place = [place] := by
  simp [descent]

theorem mem_atAndBelow {top : Place} :
    place ∈ tree.atAndBelow top ↔ place ∈ tree.nodes.keys ∧ top <+: place := by
  simp [atAndBelow]

/-- What stands in the way of removing a file is only that names may not be cleared from
its directory. -/
theorem obstacle?_of_plain (held : tree.directoryMode? place = none) :
    tree.obstacle? place = if tree.isFree place then none else some "unlink" := by
  unfold obstacle?
  simp only [held, Option.isSome_none, Bool.false_and, Bool.false_eq_true, if_false]
  cases tree.isFree place <;> rfl

/-- A place without anything below it is stuck only if it has an obstacle itself. -/
theorem stuck_eq_nil {top : Place}
    (bare : ∀ below, top <+: below → below ≠ top → tree.node? below = none)
    (free : top ∈ tree.nodes.keys → tree.obstacle? top = none) : tree.stuck top = [] := by
  unfold stuck
  rw [List.filter_eq_nil_iff]
  intro place member
  obtain ⟨isKey, later⟩ := mem_atAndBelow.mp member
  have isTop : place = top := by
    by_cases same : place = top
    · exact same
    · by_cases root : place = []
      · subst root
        exact (List.prefix_nil.mp later).symm
      · have nothing := bare place later same
        have something := lookup_isSome_of_mem isKey
        simp only [node?, root, if_false, OrderedMap.get?] at nothing
        rw [nothing] at something
        cases something
  subst isTop
  simp [descent_self, free isKey]

theorem clear_of_stuck_nil {top : Place} (stuck : tree.stuck top = []) :
    tree.clear path top = (.ok (), tree.prune top) := by
  simp [clear, stuck, prune]

theorem node?_prune {top : Place} (nonroot : top ≠ [])
    (bare : ∀ below, top <+: below → below ≠ top → tree.node? below = none) (place : Place) :
    (tree.prune top).node? place = if place = top then none else tree.node? place := by
  by_cases root : place = []
  · subst root
    simp [Ne.symm nonroot]
  · by_cases later : top <+: place
    · have gone : (tree.prune top).node? place = none := by
        simp [node?, prune, root, List.isPrefixOf_iff_prefix.mpr later]
      rw [gone]
      by_cases same : place = top
      · rw [if_pos same]
      · rw [if_neg same, bare place later same]
    · have same : place ≠ top := by
        rintro rfl
        exact later (List.prefix_refl _)
      simp [node?, prune, root, same, later]

/-- Removing what is removable prunes its place, or finds nothing there. -/
theorem remove_eq_prune {target : Place} (removable : tree.Removable path)
    (located : tree.locate path .itself = .ok target) :
    (tree.remove path false).2 = tree.prune target ∨
      ((tree.remove path false).2 = tree ∧ tree.node? target = none) := by
  obtain ⟨bare, held⟩ := removable.plain target located
  have notDirectory := directoryMode?_eq_none held
  have nonroot : target ≠ [] := by
    rintro rfl
    simp [directoryMode?] at notDirectory
  unfold remove
  rw [located]
  cases noNull : withoutNull "path" path with
  | error fault =>
      refine .inr ⟨rfl, ?_⟩
      cases there : tree.node? target with
      | none => rfl
      | some node =>
          rw [(removable.clear target node located there).1] at noNull
          cases noNull
  | ok _ =>
      left
      have free : target ∈ tree.nodes.keys → tree.obstacle? target = none := by
        intro isKey
        obtain ⟨node, found⟩ := Option.isSome_iff_exists.mp (lookup_isSome_of_mem isKey)
        have there : tree.node? target = some node := by
          simpa [node?, nonroot, OrderedMap.get?] using found
        rw [obstacle?_of_plain notDirectory, (removable.clear target node located there).2]
        rfl
      simp only [notDirectory, clear_of_stuck_nil (stuck_eq_nil bare free)]

/-- Removing what is removable clears its place and no other one. -/
theorem node?_remove (removable : tree.Removable path) (place : Place) :
    (tree.locate path .itself = .ok place → (tree.remove path false).2.node? place = none) ∧
      (tree.locate path .itself ≠ .ok place →
        (tree.remove path false).2.node? place = tree.node? place) := by
  cases located : tree.locate path .itself with
  | error cause =>
      have unchanged : (tree.remove path false).2 = tree := by
        unfold remove
        rw [located]
        cases withoutNull "path" path with
        | error fault => rfl
        | ok _ => cases cause <;> rfl
      rw [unchanged]
      exact ⟨fun reached => (by cases reached), fun _ => rfl⟩
  | ok target =>
      obtain ⟨bare, held⟩ := removable.plain target located
      have nonroot : target ≠ [] := by
        rintro rfl
        simpa [directoryMode?] using directoryMode?_eq_none held
      rw [Ne, Except.ok.injEq]
      rcases remove_eq_prune removable located with pruned | ⟨unchanged, nothing⟩
      · rw [pruned, node?_prune nonroot bare]
        by_cases same : place = target
        · simp [same]
        · simp [same, Ne.symm same]
      · rw [unchanged]
        exact ⟨fun same => same ▸ nothing, fun _ => rfl⟩

theorem sameRoutes_remove (removable : tree.Removable path) :
    SameRoutes tree (tree.remove path false).2 := by
  constructor
  · cases located : tree.locate path .itself with
    | error cause =>
        unfold remove
        rw [located]
        cases withoutNull "path" path with
        | error fault => rfl
        | ok _ => cases cause <;> rfl
    | ok target =>
        rcases remove_eq_prune removable located with pruned | ⟨unchanged, _⟩
        · rw [pruned]
          rfl
        · rw [unchanged]
  · intro place
    unfold route?
    by_cases reached : tree.locate path .itself = .ok place
    · rw [(node?_remove removable place).1 reached]
      rcases (removable.plain place reached).2 with nothing | ⟨content, mode, file⟩
      · rw [nothing]
      · rw [file]
    · rw [(node?_remove removable place).2 reached]

/-- A file of which the removal reports no fault could be removed. -/
theorem removable_of_remove_eq_ok (plain : tree.IsPlainAt path)
    (removed : (tree.remove path false).1 = .ok ()) : tree.Removable path := by
  refine ⟨plain, ?_⟩
  intro place node located there
  obtain ⟨_, held⟩ := plain place located
  have notDirectory := directoryMode?_eq_none held
  have below : place ≠ [] := by
    rintro rfl
    simp [directoryMode?] at notDirectory
  unfold remove at removed
  rw [located] at removed
  cases noNull : withoutNull "path" path with
  | error fault =>
      rw [noNull] at removed
      cases removed
  | ok _ =>
      rw [noNull] at removed
      simp only [notDirectory] at removed
      refine ⟨rfl, ?_⟩
      by_cases free : tree.isFree place = true
      · exact free
      · have obstructed : tree.obstacle? place = some "unlink" := by
          simp [obstacle?_of_plain notDirectory, free]
        have member : place ∈ tree.stuck place := by
          refine List.mem_filter.mpr
            ⟨mem_atAndBelow.mpr ⟨mem_keys_of_node? below there, List.prefix_refl place⟩, ?_⟩
          simp [descent_self, obstructed]
        simp only [clear] at removed
        cases blocked : (tree.stuck place).findSome? fun other =>
            (tree.obstacle? other).map fun operation =>
              FileFault.onPath .denied operation
                ("/".intercalate (path :: other.drop place.length)) with
        | some fault =>
            rw [blocked] at removed
            cases removed
        | none =>
            have clear := List.findSome?_eq_none_iff.mp blocked place member
            simp [obstructed] at clear

/-- The tree after files were removed one after another, each as far as it can be. -/
def removeEach (tree : FileTree) (paths : List String) : FileTree :=
  paths.foldl (fun tree path => (tree.remove path false).2) tree

/-- After a file was removed, other files can be removed as before. -/
theorem Removable.remove {later : String} (removable : tree.Removable path)
    (next : tree.Removable later) : (tree.remove path false).2.Removable later := by
  refine next.mono (sameRoutes_remove removable) ?_
  intro place
  by_cases reached : tree.locate path .itself = .ok place
  · exact .inr ((node?_remove removable place).1 reached)
  · exact .inl ((node?_remove removable place).2 reached)

theorem sameRoutes_removeEach {paths : List String}
    (removable : ∀ path ∈ paths, tree.Removable path) :
    SameRoutes tree (tree.removeEach paths) := by
  induction paths generalizing tree with
  | nil => exact .refl tree
  | cons path rest induction =>
      have first := removable path List.mem_cons_self
      refine (sameRoutes_remove first).trans (induction ?_)
      intro later member
      exact first.remove (removable later (List.mem_cons_of_mem _ member))

/-- Removing files that can be removed clears their places and no other one. -/
theorem node?_removeEach {paths : List String}
    (removable : ∀ path ∈ paths, tree.Removable path) (place : Place) :
    ((∃ path ∈ paths, tree.locate path .itself = .ok place) →
        (tree.removeEach paths).node? place = none) ∧
      ((∀ path ∈ paths, tree.locate path .itself ≠ .ok place) →
        (tree.removeEach paths).node? place = tree.node? place) := by
  induction paths generalizing tree with
  | nil => simp [removeEach]
  | cons path rest induction =>
      have first := removable path List.mem_cons_self
      have routes := sameRoutes_remove first
      have cleared := node?_remove first place
      have removableRest : ∀ later ∈ rest, (tree.remove path false).2.Removable later :=
        fun later member => first.remove (removable later (List.mem_cons_of_mem _ member))
      obtain ⟨others, kept⟩ := induction removableRest
      simp only [routes.locate_iff, Ne] at others kept
      constructor
      · rintro ⟨reaching, member, reached⟩
        by_cases again : ∃ later ∈ rest, tree.locate later .itself = .ok place
        · exact others again
        · have here : reaching = path := by
            rcases List.mem_cons.mp member with here | further
            · exact here
            · exact absurd ⟨reaching, further, reached⟩ again
          rw [removeEach, List.foldl_cons]
          exact (kept fun later further located => again ⟨later, further, located⟩).trans
            (cleared.1 (here ▸ reached))
      · intro elsewhere
        rw [removeEach, List.foldl_cons]
        exact (kept fun later further => elsewhere later (List.mem_cons_of_mem _ further)).trans
          (cleared.2 (elsewhere path List.mem_cons_self))

theorem prefix_dropLast {top below : Place} (later : top <+: below) (different : below ≠ top) :
    top <+: below.dropLast := by
  obtain ⟨rest, rfl⟩ := later
  have further : rest ≠ [] := by
    rintro rfl
    exact different (List.append_nil top)
  rw [List.dropLast_append_of_ne_nil further]
  exact List.prefix_append top _

/-- Files that were written at unused paths can be removed: nothing was put below one,
as there was no directory for it. -/
theorem removable_of_written {paths : List String} {after : FileTree}
    (unused : ∀ path ∈ paths, tree.Unused path) (written : Written paths tree after)
    (alike : ∀ path ∈ paths, ∀ other ∈ paths,
      withoutNull "path" other = .ok () → withoutNull "path" path = .ok ()) :
    ∀ path ∈ paths, after.Removable path := by
  intro path member
  have routes := written.sameRoutes
  constructor
  · intro place located
    have nothing := unused path member place (routes.locate_iff.mp located)
    constructor
    · intro below later different
      rcases written.changed below with kept | ⟨_, _, _, _, _, free | ⟨content, mode, file⟩⟩
      · rw [kept, nothing below later]
      · have parent : place <+: below.dropLast := prefix_dropLast later different
        simp [isFree, directoryMode?, nothing below.dropLast parent] at free
      · rw [nothing below later] at file
        cases file
    · rcases written.changed place with kept | ⟨_, _, _, _, file, _⟩
      · exact .inl (kept.trans (nothing place (List.prefix_refl place)))
      · exact .inr file
  · intro place node located held
    have nothing := unused path member place (routes.locate_iff.mp located) place
      (List.prefix_refl place)
    rcases written.changed place with kept | ⟨other, among, noNull, _, _, first⟩
    · rw [kept, nothing] at held
      cases held
    · refine ⟨alike path member other among noNull, ?_⟩
      rw [routes.isFree]
      rcases first with free | ⟨content, mode, file⟩
      · exact free
      · rw [nothing] at file
        cases file

/-- Writing at unused paths and removing them again leaves everything as it was. -/
theorem node?_removeEach_of_written {paths : List String} {after : FileTree}
    (unused : ∀ path ∈ paths, tree.Unused path) (written : Written paths tree after)
    (alike : ∀ path ∈ paths, ∀ other ∈ paths,
      withoutNull "path" other = .ok () → withoutNull "path" path = .ok ()) (place : Place) :
    (after.removeEach paths).node? place = tree.node? place := by
  have removable := removable_of_written unused written alike
  obtain ⟨cleared, kept⟩ := node?_removeEach removable place
  have routes := written.sameRoutes
  by_cases reached : ∃ path ∈ paths, after.locate path .itself = .ok place
  · obtain ⟨path, member, located⟩ := reached
    rw [cleared ⟨path, member, located⟩]
    exact (unused path member place (routes.locate_iff.mp located) place
      (List.prefix_refl place)).symm
  · rw [kept fun path member located => reached ⟨path, member, located⟩]
    rcases written.changed place with same | ⟨path, member, _, located, _⟩
    · exact same
    · exact absurd ⟨path, member, routes.locate ((unused path member).locate_itself located)⟩
        reached

end ToolParams.FileTree
