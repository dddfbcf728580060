import ToolParams.Proofs.Files.Copying
import ToolParams.Proofs.Files.Walking

/-!
# Filling a directory with files

What a vacant directory is filled with lies inside it and nowhere else.  Paths lead where
they led before, and the directory can be removed with all its files: then the tree is what
it would be without the directory.
-/

namespace ToolParams.FileTree

variable {base tree after : FileTree} {top place : Place} {name path : String}

/-- A directory without anything in it.  Its names can be told, looked up and changed, and
the directory itself can be cleared. -/
structure Vacant (tree : FileTree) (top : Place) : Prop where
  nonroot : top ≠ []
  directory : ∃ mode, tree.node? top = some (.directory mode) ∧ isReadable mode = true ∧
    isWritable mode = true ∧ isRunnable mode = true
  bare : ∀ below, top <+: below → below ≠ top → tree.node? below = none
  free : tree.isFree top = true

/-- A tree in which files were put directly into a directory. -/
structure Filled (base : FileTree) (top : Place) (tree : FileTree) : Prop where
  here : tree.here = base.here
  outside : ∀ place, (∀ name, place ≠ top ++ [name]) → tree.node? place = base.node? place
  files : ∀ name, tree.route? (top ++ [name]) = none

theorem ne_append_single (top : Place) (name : String) : top ≠ top ++ [name] := by
  intro same
  have longer := congrArg List.length same
  simp at longer

namespace Vacant

theorem bare_name (vacant : Vacant base top) (name : String) :
    base.node? (top ++ [name]) = none :=
  vacant.bare _ (List.prefix_append _ _) (Ne.symm (ne_append_single top name))

theorem filled (vacant : Vacant base top) : Filled base top base where
  here := rfl
  outside := fun _ _ => rfl
  files := fun name => by rw [route?, vacant.bare_name name]

end Vacant

namespace Filled

theorem sameRoutes (filled : Filled base top tree) (vacant : Vacant base top) :
    SameRoutes base tree where
  here := filled.here
  route := by
    intro place
    by_cases inside : ∃ name, place = top ++ [name]
    · obtain ⟨name, rfl⟩ := inside
      rw [filled.files, route?, vacant.bare_name name]
    · rw [not_exists] at inside
      rw [route?, filled.outside place inside, route?]

theorem top_eq (filled : Filled base top tree) : tree.node? top = base.node? top :=
  filled.outside top fun name => ne_append_single top name

theorem rooted (filled : Filled base top tree) (vacant : Vacant base top)
    (rooted : base.Rooted) : tree.Rooted := by
  intro place nonroot held
  by_cases inside : ∃ name, place = top ++ [name]
  · obtain ⟨name, rfl⟩ := inside
    obtain ⟨mode, directory, _⟩ := vacant.directory
    refine ⟨mode, ?_⟩
    rw [List.dropLast_concat, filled.top_eq, directory]
  · rw [not_exists] at inside
    rw [filled.outside place inside] at held
    obtain ⟨mode, directory⟩ := rooted place nonroot held
    exact ⟨mode, (filled.sameRoutes vacant).directory.mpr directory⟩

/-- One more file that is put into the directory, or is changed there. -/
theorem touch (filled : Filled base top tree) (touches : Touches tree (top ++ [name]) after) :
    Filled base top after where
  here := touches.here.trans filled.here
  outside := by
    intro place apart
    rw [touches.others place (apart name), filled.outside place apart]
  files := by
    intro other
    by_cases same : top ++ [other] = top ++ [name]
    · rw [same, touches.stays]
    · rw [route?, touches.others _ same]
      exact filled.files other

theorem eq_or_file (filled : Filled base top tree) (vacant : Vacant base top)
    (below : top <+: place) (held : tree.node? place ≠ none) :
    place = top ∨ ∃ name, place = top ++ [name] := by
  by_contra apart
  obtain ⟨different, noFile⟩ := not_or.mp apart
  rw [not_exists] at noFile
  rw [filled.outside place noFile] at held
  exact held (vacant.bare place below different)

theorem obstacle?_eq_none (filled : Filled base top tree) (vacant : Vacant base top)
    (inside : place = top ∨ ∃ name, place = top ++ [name]) : tree.obstacle? place = none := by
  obtain ⟨mode, directory, isReadable, isWritable, isRunnable⟩ := vacant.directory
  rw [← filled.top_eq] at directory
  rcases inside with rfl | ⟨name, rfl⟩
  · have free : tree.isFree place = true := by
      rw [(filled.sameRoutes vacant).isFree]
      exact vacant.free
    simp [obstacle?, free, isListable, directoryMode?, directory, isReadable]
  · have free : tree.isFree (top ++ [name]) = true := by
      simp [isFree, directoryMode?, directory, isWritable, isRunnable]
    have isFile := directoryMode?_eq_none (route?_eq_none_iff.mp (filled.files name))
    rw [obstacle?_of_plain isFile, free]
    rfl

/-- The directory can be removed with its files. -/
theorem remove_eq (filled : Filled base top tree) (vacant : Vacant base top)
    (noNull : withoutNull "path" path = .ok ()) (located : tree.locate path .itself = .ok top)
    (notSlashed : tree.isSlashedLink path = false) (notDot : Path.baseName path ≠ ".")
    (notDots : Path.baseName path ≠ "..") :
    tree.remove path true = (.ok (), tree.prune top) := by
  obtain ⟨mode, directory, _⟩ := vacant.directory
  have isDirectory : (tree.directoryMode? top).isSome = true := by
    rw [directoryMode?, filled.top_eq, directory]
    rfl
  refine remove_of_unobstructed noNull located isDirectory notSlashed notDot notDots ?_
  intro place isKey below step onWay
  obtain ⟨above, before⟩ := (mem_descent_iff below).mp onWay
  have nonroot : place ≠ [] := by
    rintro rfl
    exact vacant.nonroot (List.prefix_nil.mp below)
  have held : tree.node? place ≠ none := by
    have isSome := lookup_isSome_of_mem isKey
    simpa [node?, nonroot, OrderedMap.get?, Option.isSome_iff_ne_none] using isSome
  refine filled.obstacle?_eq_none vacant ?_
  rcases filled.eq_or_file vacant below held with rfl | ⟨name, rfl⟩
  · exact .inl (before.eq_of_length_le above.length_le)
  · rcases List.prefix_concat_iff.mp before with whole | shorter
    · exact .inr ⟨name, whole⟩
    · exact .inl (shorter.eq_of_length_le above.length_le)

theorem node?_prune (filled : Filled base top tree) (nonroot : top ≠ []) (place : Place) :
    (tree.prune top).node? place = if top <+: place then none else base.node? place := by
  by_cases below : top <+: place
  · rw [if_pos below]
    exact node?_prune_below nonroot below
  · have apart : ∀ name, place ≠ top ++ [name] := by
      rintro name rfl
      exact below (List.prefix_append _ _)
    rw [if_neg below, ← filled.outside place apart]
    exact node?_prune_apart below

end Filled

/-- A directory that was made where nothing stood is vacant. -/
theorem vacant_place (rooted : tree.Rooted) (nothing : tree.node? top = none)
    (free : tree.isFree top = true) (mode : Nat) (readable : isReadable mode = true)
    (writable : isWritable mode = true) (runnable : isRunnable mode = true) :
    Vacant (tree.place top (.directory mode)) top := by
  have bare : tree.route? top = none := by rw [route?, nothing]
  have nonroot := below_root_of_route? bare
  have above : top.dropLast ≠ top := by
    intro same
    have shorter := congrArg List.length same
    have some := List.length_pos_iff.mpr nonroot
    rw [List.length_dropLast] at shorter
    omega
  constructor
  · exact nonroot
  · exact ⟨mode, by rw [node?_place nonroot, if_pos rfl], readable, writable, runnable⟩
  · intro below later different
    rw [node?_place nonroot, if_neg different]
    exact bare_of_route? rooted bare below later different
  · simpa [isFree, directoryMode?, node?_place nonroot, above] using free

theorem rooted_place (rooted : tree.Rooted) (nothing : tree.node? top = none)
    (free : tree.isFree top = true) (mode : Nat) :
    (tree.place top (.directory mode)).Rooted := by
  have nonroot : top ≠ [] := by
    rintro rfl
    simp at nothing
  intro place below held
  have stands : ∃ mode, tree.node? place.dropLast = some (.directory mode) := by
    rw [node?_place nonroot] at held
    by_cases same : place = top
    · rw [same]
      exact directory_of_isFree free
    · rw [if_neg same] at held
      exact rooted place below held
  obtain ⟨other, directory⟩ := stands
  have apart : place.dropLast ≠ top := by
    intro same
    rw [same, nothing] at directory
    cases directory
  exact ⟨other, by rw [node?_place nonroot, if_neg apart, directory]⟩

theorem isSlashedLink_iff :
    tree.isSlashedLink path = true ↔ Text.endsWith path "/" = true ∧
      ∃ place target, tree.locate (Path.withoutEnd path) .itself = .ok place ∧
        tree.node? place = some (.link target) := by
  unfold isSlashedLink
  cases located : tree.locate (Path.withoutEnd path) .itself with
  | error cause => simp [Except.map]
  | ok place =>
      cases held : tree.node? place with
      | none => simp [Except.map, held]
      | some node => cases node <;> simp [Except.map, held]

theorem SameRoutes.isSlashedLink (same : SameRoutes base tree) :
    tree.isSlashedLink path = base.isSlashedLink path := by
  apply Bool.eq_iff_iff.mpr
  rw [isSlashedLink_iff, isSlashedLink_iff]
  simp only [same.locate_iff, same.link]

/-- A vacant directory at a path, by which files can be put into it and it can be removed. -/
structure Ready (base : FileTree) (path : String) (top : Place) : Prop where
  rooted : base.Rooted
  vacant : Vacant base top
  straight : IsStraight path
  located : base.locate path .itself = .ok top
  noNull : withoutNull "path" path = .ok ()
  notSlashed : base.isSlashedLink path = false
  notDot : Path.baseName path ≠ "."
  notDots : Path.baseName path ≠ ".."

namespace Ready

variable {ending : Ending}

theorem opens (ready : Ready base path top) : base.Opens top := by
  obtain ⟨mode, directory, _, _, runnable⟩ := ready.vacant.directory
  exact ⟨mode, directory, runnable⟩

theorem followed (ready : Ready base path top) : base.locate path .followed = .ok top := by
  obtain ⟨mode, directory, _⟩ := ready.vacant.directory
  refine locate_followed_of_itself ready.located fun target linked => ?_
  rw [directory] at linked
  cases linked

/-- What is put at a name behind the path is put into the directory. -/
theorem place_eq (ready : Ready base path top) (filled : Filled base top tree)
    (isName : Path.IsName name)
    (located : tree.locate (Path.join path name) ending = .ok place) :
    place = top ++ [name] := by
  have routes := filled.sameRoutes ready.vacant
  obtain ⟨nonempty, fits, _⟩ := locate_eq_ok_iff.mp ready.located
  obtain ⟨position, leads, _, _, reached⟩ :=
    exists_of_locate_join isName ready.straight nonempty fits located
  have same : position = top :=
    Except.ok.inj ((routes.locate_iff.mp leads).symm.trans ready.followed)
  subst same
  refine reached.resolve_right ?_
  rintro ⟨target, linked⟩
  rw [node?_eq_link_iff, filled.files] at linked
  cases linked

theorem gone (ready : Ready base path top) (filled : Filled base top tree) :
    ¬(tree.prune top).HasAt path := by
  rintro ⟨place, node, located, held⟩
  have reached := (fewer_prune tree top).locate located fun _ => .inl rfl
  have routes := filled.sameRoutes ready.vacant
  cases (routes.locate_iff.mp reached).symm.trans ready.located
  rw [node?_prune_below ready.vacant.nonroot (List.prefix_refl _)] at held
  cases held

/-- The directory can be removed by its path, with all files that were put into it. -/
theorem remove_eq (ready : Ready base path top) (filled : Filled base top tree) :
    tree.remove path true = (.ok (), tree.prune top) := by
  have routes := filled.sameRoutes ready.vacant
  refine filled.remove_eq ready.vacant ready.noNull (routes.locate ready.located) ?_
    ready.notDot ready.notDots
  rw [routes.isSlashedLink]
  exact ready.notSlashed

end Ready

end ToolParams.FileTree
