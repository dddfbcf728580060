import ToolParams.Proofs.Files.Emptying

/-!
# Copying files

Copying a file and giving a file another mode change at most one place, at which there is a
file or nothing before and afterwards.  So paths lead where they led before, and every node
is still in a directory.
-/

namespace ToolParams.FileTree

variable {tree after : FileTree} {path source target content : String} {place goal : Place}
  {mode : Nat}

/-- At most one place differs, and there is a file or nothing in both trees. -/
structure Touches (tree : FileTree) (goal : Place) (after : FileTree) : Prop where
  here : after.here = tree.here
  others : ∀ place, place ≠ goal → after.node? place = tree.node? place
  plain : tree.route? goal = none
  stays : after.route? goal = none
  /-- the directory stands in which the place is -/
  room : after.node? goal ≠ none → ∃ mode, tree.node? goal.dropLast = some (.directory mode)

theorem route?_eq_none_iff :
    tree.route? place = none ↔
      tree.node? place = none ∨ ∃ content mode, tree.node? place = some (.file content mode) := by
  unfold route?
  cases tree.node? place with
  | none => simp
  | some node => cases node <;> simp

theorem below_root_of_route? (free : tree.route? place = none) : place ≠ [] := by
  rintro rfl
  rw [route?, node?_root] at free
  cases free

namespace Touches

theorem sameRoutes (touches : Touches tree goal after) : SameRoutes tree after where
  here := touches.here
  route := by
    intro place
    by_cases same : place = goal
    · rw [same, touches.plain, touches.stays]
    · rw [route?, touches.others place same, route?]

theorem rooted (touches : Touches tree goal after) (rooted : tree.Rooted) : after.Rooted := by
  intro place nonroot held
  have stands : ∃ mode, tree.node? place.dropLast = some (.directory mode) := by
    by_cases same : place = goal
    · subst same
      exact touches.room held
    · rw [touches.others place same] at held
      exact rooted place nonroot held
  obtain ⟨mode, directory⟩ := stands
  exact ⟨mode, touches.sameRoutes.directory.mpr directory⟩

theorem trans {middle : FileTree} (first : Touches tree goal middle)
    (second : Touches middle goal after) : Touches tree goal after where
  here := second.here.trans first.here
  others := by
    intro place different
    rw [second.others place different, first.others place different]
  plain := first.plain
  stays := second.stays
  room := by
    intro held
    obtain ⟨mode, directory⟩ := second.room held
    exact ⟨mode, first.sameRoutes.directory.mp directory⟩

end Touches

theorem directory_of_isFree (free : tree.isFree place = true) :
    ∃ mode, tree.node? place.dropLast = some (.directory mode) := by
  unfold isFree directoryMode? at free
  cases held : tree.node? place.dropLast with
  | none => simp [held] at free
  | some node =>
      cases node with
      | directory mode => exact ⟨mode, rfl⟩
      | file _ _ => simp [held] at free
      | link _ => simp [held] at free

/-- What does not keep a place from being written: a file, or nothing in a directory. -/
theorem room_of_writeObstacle? (clear : tree.writeObstacle? goal = none) :
    tree.route? goal = none ∧
      (tree.node? goal = none → ∃ mode, tree.node? goal.dropLast = some (.directory mode)) := by
  unfold writeObstacle? at clear
  cases held : tree.node? goal with
  | none =>
      rw [held] at clear
      refine ⟨by rw [route?, held], fun _ => ?_⟩
      by_cases free : tree.isFree goal = true
      · exact directory_of_isFree free
      · simp [free] at clear
  | some node =>
      rw [held] at clear
      cases node with
      | file content mode => exact ⟨by rw [route?, held], fun none => by cases none⟩
      | directory _ => cases clear
      | link _ => cases clear

/-- Putting a file where one may be written. -/
theorem touches_place (rooted : tree.Rooted) (free : tree.route? goal = none)
    (room : tree.node? goal = none → ∃ mode, tree.node? goal.dropLast = some (.directory mode))
    (content : String) (mode : Nat) :
    Touches tree goal (tree.place goal (.file content mode)) where
  here := rfl
  others := by
    intro place different
    rw [node?_place (below_root_of_route? free), if_neg different]
  plain := free
  stays := by rw [route?, node?_place (below_root_of_route? free), if_pos rfl]
  room := by
    intro _
    cases held : tree.node? goal with
    | none => exact room held
    | some node => exact rooted goal (below_root_of_route? free) (held ▸ Option.some_ne_none node)

theorem bare_of_route? (rooted : tree.Rooted) (free : tree.route? goal = none) :
    ∀ below, goal <+: below → below ≠ goal → tree.node? below = none := by
  intro below later different
  by_contra held
  obtain ⟨rest, rfl⟩ := later
  cases rest with
  | nil => exact different (List.append_nil goal)
  | cons name rest =>
      have before : goal ++ [name] <+: goal ++ name :: rest :=
        (List.prefix_append_right_inj goal).mpr ⟨rest, rfl⟩
      obtain ⟨mode, directory⟩ := rooted _ (by simp) (rooted.node?_above before held)
      rw [List.dropLast_concat, node?_eq_directory_iff, free] at directory
      cases directory

theorem touches_prune (rooted : tree.Rooted) (free : tree.route? goal = none) :
    Touches tree goal (tree.prune goal) := by
  have nonroot := below_root_of_route? free
  have view := node?_prune nonroot (bare_of_route? rooted free)
  constructor
  · rfl
  · intro place different
    rw [view, if_neg different]
  · exact free
  · rw [route?, view, if_pos rfl]
  · intro held
    rw [view, if_pos rfl] at held
    exact absurd rfl held

/-- How a copy ends. -/
inductive Copies (tree : FileTree) (source target : String) :
    Except FileFault Unit × FileTree → Prop where
  /-- nothing is copied; a file is only missing if the source or the directory of the target
  is -/
  | refused {fault : FileFault} :
      (fault.code = FileCause.notFound.code → tree.lookup source = .error .notFound ∨
        tree.locate target .writable = .error .notFound) →
      Copies tree source target (.error fault, tree)
  /-- the source is no file, and what was at the target is lost -/
  | broken {goal : Place} :
      tree.locate target .writable = .ok goal →
      tree.writeObstacle? goal = none →
      Copies tree source target
        (.error (.onPaths .isDirectory "copyfile" source target), tree.prune goal)
  | done {origin goal : Place} {content : String} {mode : Nat} :
      tree.locate source .followed = .ok origin →
      tree.node? origin = some (.file content mode) →
      tree.locate target .writable = .ok goal →
      tree.writeObstacle? goal = none →
      Copies tree source target
        (.ok (), if goal = origin then tree else tree.place goal (.file content mode))

theorem eq_notFound_of_code {cause : FileCause} (same : cause.code = FileCause.notFound.code) :
    cause = .notFound := by
  cases cause <;> first | rfl | exact absurd same (by decide)

theorem writeObstacle?_ne_notFound (tree : FileTree) (place : Place) :
    tree.writeObstacle? place ≠ some .notFound := by
  unfold writeObstacle?
  split
  · split <;> simp
  · simp
  · split <;> simp

theorem copies_copyNode (tree : FileTree) (source target : String) :
    Copies tree source target (tree.copyNode source target) := by
  unfold copyNode
  cases located : tree.locate source .followed with
  | error cause =>
      refine .refused fun missing => .inl ?_
      rw [lookup, located, Outcome.error_bind, eq_notFound_of_code missing]
  | ok origin =>
      dsimp only
      cases held : tree.node? origin with
      | none =>
          refine .refused fun _ => .inl ?_
          rw [lookup, located, Outcome.ok_bind, held]
          rfl
      | some node =>
          dsimp only
          refine iteInduction (motive := Copies tree source target) (fun _ => ?_) fun _ => ?_
          · refine .refused fun missing => ?_
            have denied : FileCause.denied.code = FileCause.notFound.code := missing
            cases eq_notFound_of_code denied
          · cases locatedToo : tree.locate target .writable with
            | error cause =>
                refine .refused fun missing => .inr ?_
                rw [locatedToo, eq_notFound_of_code missing]
            | ok goal =>
                dsimp only
                cases blocked : tree.writeObstacle? goal with
                | some cause =>
                    refine .refused fun missing => ?_
                    rw [eq_notFound_of_code missing] at blocked
                    exact absurd blocked (writeObstacle?_ne_notFound tree goal)
                | none =>
                    cases node with
                    | file content mode =>
                        have done := Copies.done located held locatedToo blocked
                        rw [apply_ite (Prod.mk (Except.ok ()))] at done
                        exact done
                    | directory _ => exact .broken locatedToo blocked
                    | link _ => exact .broken locatedToo blocked

theorem copies_copy (tree : FileTree) (source target : String) :
    Copies tree source target (tree.copy source target) := by
  have refuses (argument text : String) :
      Copies tree source target (.error (.holdsNull argument true text), tree) := by
    refine .refused fun missing => absurd missing ?_
    simp [FileFault.code, FileCause.code]
  unfold copy withoutNull
  by_cases nullInSource : Text.has '\x00' source = true
  · rw [if_pos nullInSource]
    exact refuses _ _
  · rw [if_neg nullInSource]
    by_cases nullInTarget : Text.has '\x00' target = true
    · rw [if_pos nullInTarget]
      exact refuses _ _
    · rw [if_neg nullInTarget]
      exact copies_copyNode tree source target

/-- A copy touches at most the place of its target. -/
theorem touches_copy (rooted : tree.Rooted) (source target : String) :
    (tree.copy source target).2 = tree ∨
      ∃ goal, tree.locate target .writable = .ok goal ∧
        Touches tree goal (tree.copy source target).2 := by
  have copies := copies_copy tree source target
  generalize tree.copy source target = outcome at copies ⊢
  cases copies with
  | refused _ => exact .inl rfl
  | broken located clear =>
      exact .inr ⟨_, located, touches_prune rooted (room_of_writeObstacle? clear).1⟩
  | @done origin goal content mode _ _ located clear =>
      dsimp only
      split_ifs
      · exact .inl rfl
      · obtain ⟨free, room⟩ := room_of_writeObstacle? clear
        exact .inr ⟨goal, located, touches_place rooted free room content mode⟩

theorem setMode_eq_ok (located : tree.locate path .followed = .ok place)
    (held : tree.node? place = some (.file content mode)) (other : Nat) :
    tree.setMode path other = .ok (tree.place place (.file content other)) := by
  rw [setMode, located]
  simp only [held]

theorem mode_eq_ok (located : tree.locate path .followed = .ok place)
    (held : tree.node? place = some (.file content mode)) : tree.mode path = .ok mode := by
  have found : tree.lookup path = .ok (.file content mode) := by
    rw [lookup, located, Outcome.ok_bind, held]
    rfl
  rw [FileTree.mode, found]

/-- What gets another mode is at the place of its path. -/
theorem touches_setMode (rooted : tree.Rooted) {mode : Nat}
    (sets : tree.setMode path mode = .ok after) :
    ∃ place, tree.locate path .followed = .ok place ∧
      (tree.route? place = none → Touches tree place after) := by
  unfold setMode at sets
  cases located : tree.locate path .followed with
  | error cause =>
      rw [located] at sets
      cases sets
  | ok place =>
      refine ⟨place, rfl, fun free => ?_⟩
      rw [located] at sets
      rcases route?_eq_none_iff.mp free with nothing | ⟨content, old, file⟩
      · simp only [nothing] at sets
        cases sets
      · simp only [file] at sets
        cases sets
        refine touches_place rooted free (fun nothing => ?_) content mode
        rw [file] at nothing
        cases nothing

end ToolParams.FileTree
