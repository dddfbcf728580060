import ToolParams.Proofs.Files.Climbing
import ToolParams.Proofs.Files.Filling

/-!
# Making directories

Making a directory and those on the way to it either finds it there already, or adds
directories where nothing stood: at its place, and at places above it.  Everything else
stays as it was.
-/

namespace ToolParams.FileTree

variable {tree middle after : FileTree} {path next : String} {place top : Place}
  {ending : Ending} {position : Place} {names : List String} {halt : Halt} {cause : FileCause}

/-- Directories were made where nothing stood: at a place and above it. -/
structure Grown (tree : FileTree) (top : Place) (after : FileTree) : Prop where
  here : after.here = tree.here
  bare : tree.node? top = none
  way : ∀ place, place <+: top → tree.node? place = none →
    after.node? place = some (.directory directoryMode)
  others : ∀ place, (place <+: top → tree.node? place ≠ none) →
    after.node? place = tree.node? place
  free : after.isFree top = true
  rooted : after.Rooted

theorem grown_place (rooted : tree.Rooted) (nothing : tree.node? top = none)
    (free : tree.isFree top = true) :
    Grown tree top (tree.place top (.directory directoryMode)) := by
  have vacant := vacant_place rooted nothing free directoryMode rfl rfl rfl
  constructor
  · rfl
  · exact nothing
  · intro place before gap
    rw [node?_place vacant.nonroot, if_pos]
    by_contra different
    -- where names may be put, directories lead to
    obtain ⟨mode, directory⟩ := directory_of_isFree free
    have above := prefix_dropLast before (Ne.symm different)
    exact rooted.node?_above above (directory ▸ Option.some_ne_none _) gap
  · intro place stays
    rw [node?_place vacant.nonroot, if_neg]
    rintro rfl
    exact stays (List.prefix_refl place) nothing
  · exact vacant.free
  · exact rooted_place rooted nothing free directoryMode

namespace Grown

theorem nonroot (grown : Grown tree top after) : top ≠ [] := by
  rintro rfl
  have bare := grown.bare
  rw [node?_root] at bare
  cases bare

theorem directory (grown : Grown tree top after) :
    after.node? top = some (.directory directoryMode) :=
  grown.way top (List.prefix_refl top) grown.bare

theorem bare_below (grown : Grown tree top after) (rooted : tree.Rooted)
    (below : top <+: place) : tree.node? place = none := by
  by_cases same : place = top
  · rw [same, grown.bare]
  · exact bare_of_route? rooted (by rw [route?, grown.bare]) place below same

theorem not_before (place : Place) (name : String) : ¬place ++ [name] <+: place := by
  intro shorter
  have length := shorter.length_le
  rw [List.length_append, List.length_singleton] at length
  omega

/-- One more directory in the last one. -/
theorem more (grown : Grown tree top middle) {name : String}
    (nothing : middle.node? (top ++ [name]) = none)
    (free : middle.isFree (top ++ [name]) = true) :
    Grown tree (top ++ [name]) (middle.place (top ++ [name]) (.directory directoryMode)) := by
  have vacant := vacant_place grown.rooted nothing free directoryMode rfl rfl rfl
  constructor
  · exact grown.here
  · rw [← nothing, grown.others]
    exact fun before => absurd before (not_before top name)
  · intro place before gap
    rw [node?_place vacant.nonroot]
    split_ifs with last
    · rfl
    · exact grown.way place ((List.prefix_concat_iff.mp before).resolve_left last) gap
  · intro place stays
    rw [node?_place vacant.nonroot]
    split_ifs with last
    · subst last
      exact absurd (grown.others _ fun before => absurd before (not_before top name))
        (by rw [nothing]; exact (stays (List.prefix_refl _)).symm)
    · exact grown.others place fun before =>
        stays (before.trans (List.prefix_append top [name]))
  · exact vacant.free
  · exact rooted_place grown.rooted nothing free directoryMode

theorem vacant (grown : Grown tree top after) (rooted : tree.Rooted) : Vacant after top := by
  constructor
  · exact grown.nonroot
  · exact ⟨directoryMode, grown.directory, rfl, rfl, rfl⟩
  · intro below later different
    rw [grown.others below, grown.bare_below rooted later]
    intro before
    exact absurd (before.eq_of_length_le later.length_le) different
  · exact grown.free

theorem fewer (grown : Grown tree top after) : Fewer after tree where
  here := grown.here.symm
  nodes := by
    intro place node held
    rw [grown.others place fun _ => held ▸ Option.some_ne_none node, held]

end Grown

theorem of_makeDirectory (makes : tree.makeDirectory path = .ok after) :
    ∃ top, tree.locate (Path.withoutEnd path) .itself = .ok top ∧ tree.node? top = none ∧
      tree.isFree top = true ∧ after = tree.place top (.directory directoryMode) := by
  obtain ⟨top, located, added⟩ := Outcome.bind_eq_ok_iff.mp makes
  refine ⟨top, located, ?_⟩
  unfold add at added
  split_ifs at added with occupied free
  cases added
  exact ⟨by simpa using occupied, free, rfl⟩

theorem advance_ne_exists : tree.advance ending position names ≠ .error .exists := by
  fun_induction advance tree ending position names <;> simp_all

theorem locate_ne_exists : tree.locate path ending ≠ .error .exists := by
  have from_ne (links : Nat) : ∀ position names,
      tree.locateFrom ending links position names ≠ .error .exists := by
    induction links with
    | zero => simp [locateFrom]
    | succ links induction =>
        intro position names
        unfold locateFrom
        cases walked : tree.advance ending position names with
        | error cause =>
            simp only [ne_eq, Except.error.injEq]
            rintro rfl
            exact advance_ne_exists walked
        | ok halt =>
            cases halt with
            | arrived place => simp
            | link directory target rest => exact induction _ _
  unfold locate
  split_ifs
  · simp
  · simp
  · exact from_ne _ _ _

/-- A directory that is there already is at the place of its path. -/
theorem of_makeDirectory_exists (makes : tree.makeDirectory path = .error .exists) :
    ∃ top, tree.locate (Path.withoutEnd path) .itself = .ok top ∧ tree.node? top ≠ none := by
  unfold makeDirectory at makes
  cases located : tree.locate (Path.withoutEnd path) .itself with
  | error cause =>
      rw [located] at makes
      cases makes
      exact absurd located locate_ne_exists
  | ok top =>
      rw [located] at makes
      refine ⟨top, rfl, fun nothing => ?_⟩
      simp only [Outcome.ok_bind, add, nothing, Option.isSome_none, Bool.false_eq_true,
        if_false] at makes
      split_ifs at makes
      cases makes

theorem of_excuse {isOuter : Bool} (excused : tree.excuse isOuter path cause = .ok ()) :
    cause = .exists ∧ ∃ mode, tree.lookup path = .ok (.directory mode) := by
  unfold excuse at excused
  split at excused
  · split at excused
    · rename_i mode found
      exact ⟨rfl, mode, found⟩
    · cases excused
    · cases excused
  · cases excused

/-- What making a directory and those on the way to it comes to: it is there already, or it
and some above it are new. -/
inductive Reaches (tree : FileTree) (path : String) : FileTree → Prop where
  | found {mode : Nat} : tree.lookup path = .ok (.directory mode) → Reaches tree path tree
  | made {top : Place} {after : FileTree} : Grown tree top after →
      after.locate (Path.withoutEnd path) .itself = .ok top →
      ¬Path.IsUpward (Path.steps (Path.withoutEnd path)) → Reaches tree path after

/-- The place of a path that leads one step further than the path of a new directory. -/
theorem place_of_below (grown : Grown tree top middle) (below : Path.Below path next)
    (isAt : middle.locate (Path.withoutEnd next) .itself = .ok top)
    (notUpward : ¬Path.IsUpward (Path.steps (Path.withoutEnd next)))
    (located : middle.locate (Path.withoutEnd path) .itself = .ok place) :
    place = top ∨ ∃ name, place = top ++ [name] := by
  have opens : middle.Opens top := ⟨directoryMode, grown.directory, by decide⟩
  have followed : middle.locate (Path.withoutEnd next) .followed = .ok top := by
    refine locate_followed_of_itself isAt fun target linked => ?_
    rw [grown.directory] at linked
    cases linked
  have notUpwardToo : ¬Path.IsUpward (Path.steps (Path.withoutEnd path)) :=
    fun upward => notUpward (below.isUpward upward)
  cases below with
  | same same =>
      rw [same, isAt] at located
      exact .inl (Except.ok.inj located).symm
  | @step fill step blank filled noSlash dots split absolute =>
      obtain ⟨_, _, walkedTop⟩ := locate_eq_ok_iff.mp followed
      obtain ⟨_, _, walked⟩ := locate_eq_ok_iff.mp located
      have sameOrigin : origin middle.here (Path.withoutEnd path) =
          origin middle.here (Path.withoutEnd next) := by
        unfold origin
        rw [absolute]
      rw [split, sameOrigin] at walked
      obtain ⟨reached, left, first, second⟩ :=
        exists_of_locateFrom_append (List.cons_ne_nil _ _) walked
      have isTop : reached = top := by
        have same := locateFrom_of_moves (blank.moves _).symm opens walkedTop
        exact Except.ok.inj (first.symm.trans same)
      subst isTop
      by_cases dot : step = "."
      · exact .inl (of_locateFrom_dot dot second)
      · have isName : Path.IsName step :=
          ⟨filled, dot, fun isDots => notUpwardToo (dots isDots), noSlash⟩
        obtain ⟨_, _, reached⟩ := of_locateFrom_name isName second
        exact .inr ⟨step, reached.resolve_right fun ⟨other, _⟩ => other rfl⟩

/-- One step further than a new directory there is another new one, or the same. -/
theorem Reaches.further (isOuter : Bool) (reaches : Reaches tree next middle)
    (rooted : tree.Rooted) (below : Path.Below path next)
    (missing : tree.makeDirectory path = .error .notFound) :
    (∀ after, middle.makeDirectory path = .ok after → Reaches tree path after) ∧
      ∀ cause, middle.makeDirectory path = .error cause →
        middle.excuse isOuter path cause = .ok () → Reaches tree path middle := by
  cases reaches with
  | found _ =>
      rw [missing]
      refine ⟨fun _ makes => (by cases makes), fun cause failed excused => ?_⟩
      cases failed
      cases (of_excuse excused).1
  | @made top _ grown isAt notUpward =>
      have notUpwardToo : ¬Path.IsUpward (Path.steps (Path.withoutEnd path)) :=
        fun upward => notUpward (below.isUpward upward)
      constructor
      · intro after makes
        obtain ⟨place, located, nothing, free, rfl⟩ := of_makeDirectory makes
        rcases place_of_below grown below isAt notUpward located with rfl | ⟨name, rfl⟩
        · rw [grown.directory] at nothing
          cases nothing
        · have larger := grown.more nothing free
          have again := grown_place grown.rooted nothing free
          exact .made larger (again.fewer.locate located fun _ => .inl rfl) notUpwardToo
      · intro cause failed excused
        obtain ⟨rfl, _⟩ := of_excuse excused
        obtain ⟨place, located, held⟩ := of_makeDirectory_exists failed
        rcases place_of_below grown below isAt notUpward located with rfl | ⟨name, rfl⟩
        · exact .made grown located notUpwardToo
        · exact absurd ((grown.vacant rooted).bare_name name) held

end ToolParams.FileTree
