import ToolParams.Proofs.Files.Copying
import ToolParams.Proofs.Scope.Populating

/-!
# Copies in the directory of a scope

A copy of a parameter file either succeeds, and then there is a file with the content of its
source that its owner may read and write, or it fails.  In both cases no other place changes.
-/

namespace ToolParams.ScopeManager

open FileTree

variable {tree : FileTree} {source directory : String} {world : World} {σ : Type}

/-- How copying a file to a target and giving it its mode ends. -/
inductive CopiesInto (tree : FileTree) (source target : String) :
    Except Failure Unit → FileTree → Prop where
  /-- nothing is copied; a file is only missing if the source or the directory of the target
  is -/
  | refused {fault : FileFault} :
      (fault.code = FileCause.notFound.code → tree.lookup source = .error .notFound ∨
        tree.locate target .writable = .error .notFound) →
      CopiesInto tree source target (.error (.file fault)) tree
  /-- the source is no file, and what was at the target is lost -/
  | broken {goal : Place} {after : FileTree} :
      tree.locate target .writable = .ok goal →
      Touches tree goal after →
      CopiesInto tree source target
        (.error (.file (.onPaths .isDirectory "copyfile" source target))) after
  | done {origin goal : Place} {content : String} {mode : Nat} {after : FileTree} :
      tree.locate source .followed = .ok origin →
      tree.node? origin = some (.file content mode) →
      tree.locate target .writable = .ok goal →
      Touches tree goal after →
      after.node? goal = some (.file content (copyMode mode)) →
      CopiesInto tree source target (.ok ()) after

theorem perform_copyInto (rooted : world.files.Rooted) (source directory : String) (state : σ) :
    ∃ outcome files trees, (copyInto source directory).perform world state =
        (outcome, { world with files, trees }, state) ∧
      CopiesInto world.files source (Path.join directory (Path.baseName source)) outcome
        files := by
  generalize target_eq : Path.join directory (Path.baseName source) = target
  have copies := copies_copy world.files source target
  simp only [copyInto, target_eq, Action.perform_bind, Action.perform_advance,
    Action.perform_look, Action.perform_alter]
  generalize world.files.copy source target = copied at copies ⊢
  cases copies with
  | refused missing => exact ⟨_, _, _, rfl, .refused missing⟩
  | broken located clear =>
      have touches := touches_prune rooted (room_of_writeObstacle? clear).1
      exact ⟨_, _, _, rfl, .broken located touches⟩
  | @done origin goal content mode leads held located clear =>
      obtain ⟨free, room⟩ := room_of_writeObstacle? clear
      generalize copied_eq : (if goal = origin then world.files
        else world.files.place goal (.file content mode)) = copied
      have nonroot := below_root_of_route? free
      have first : Touches world.files goal copied ∧
          copied.node? goal = some (.file content mode) := by
        rw [← copied_eq]
        split_ifs with itself
        · subst itself
          refine ⟨⟨rfl, fun _ _ => rfl, free, free, fun some => ?_⟩, held⟩
          exact rooted goal nonroot some
        · refine ⟨touches_place rooted free room content mode, ?_⟩
          rw [node?_place nonroot, if_pos rfl]
      obtain ⟨touches, isCopy⟩ := first
      have followed := locate_followed (touches.sameRoutes.locate located)
      have second : Touches copied goal (copied.place goal (.file content (copyMode mode))) := by
        refine touches_place (touches.rooted rooted) touches.stays (fun none => ?_) _ _
        rw [isCopy] at none
        cases none
      refine ⟨.ok (), copied.place goal (.file content (copyMode mode)), ?_, ?_,
        .done leads held located (touches.trans second) ?_⟩
      · exact world.trees ++ [copied] ++ [copied.place goal (.file content (copyMode mode))]
      · simp only [Outcome.mapError_ok, World.withFiles_files, mode_eq_ok followed isCopy,
          setMode_eq_ok followed isCopy]
        rfl
      · rw [node?_place nonroot, if_pos rfl]

end ToolParams.ScopeManager
