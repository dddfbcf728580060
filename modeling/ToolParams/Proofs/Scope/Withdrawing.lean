import ToolParams.Proofs.Files.Making
import ToolParams.Proofs.Scope.Copying
import ToolParams.Proofs.Scope.Traces

/-!
# Scopes with a named directory that cannot be entered

A scope may use a directory that is named for it.  When the scope cannot be entered, a
directory that was there before keeps the parameter files that were copied into it, and
nothing else changes.  A directory that was made for the scope goes again, but not those
that were made on the way to it.
-/

namespace ToolParams

open FileTree

namespace ScopeManager

variable {manager : ScopeManager} {world after : World} {options : ScopeOptions}
  {directory seed : String} {tree middle later : FileTree} {copied more : String → Prop}
  {failure : Failure} {top : Place} {σ : Type}

def copyPath (directory tool : String) : String :=
  Path.join directory (Path.baseName (ParameterFile.fileName tool))

/-- Trees that differ at most where copies of the parameter files of some tools lead. -/
structure KeptBut (tree : FileTree) (directory : String) (copied : String → Prop)
    (after : FileTree) : Prop where
  here : after.here = tree.here
  places : ∀ place, after.node? place = tree.node? place ∨
    ∃ tool, copied tool ∧ tree.locate (copyPath directory tool) .writable = .ok place ∧
      tree.route? place = none ∧ after.route? place = none

namespace KeptBut

theorem refl (tree : FileTree) (directory : String) (copied : String → Prop) :
    KeptBut tree directory copied tree :=
  ⟨rfl, fun _ => .inl rfl⟩

theorem sameRoutes (kept : KeptBut tree directory copied later) : SameRoutes tree later where
  here := kept.here
  route := by
    intro place
    rcases kept.places place with same | ⟨_, _, _, before, after⟩
    · rw [route?, same, route?]
    · rw [before, after]

theorem trans (first : KeptBut tree directory copied middle)
    (second : KeptBut middle directory copied later) : KeptBut tree directory copied later where
  here := second.here.trans first.here
  places := by
    intro place
    rcases second.places place with same | ⟨tool, wanted, located, before, after⟩
    · have alike : later.route? place = middle.route? place := by rw [route?, same, route?]
      rw [same, alike]
      exact first.places place
    · refine .inr ⟨tool, wanted, first.sameRoutes.locate_iff.mp located, ?_, after⟩
      rw [← first.sameRoutes.route, before]

end KeptBut

open ToolParams.Action (FailsWith)

/-- Trees that differ at most by directories above a place, which are in the second one where
nothing stands in the first; at the place and below it nothing stands in either. -/
structure GrownAbove (tree : FileTree) (top : Place) (after : FileTree) : Prop where
  here : after.here = tree.here
  bare : ∀ place, top <+: place → tree.node? place = none ∧ after.node? place = none
  others : ∀ place, after.node? place = tree.node? place ∨
    place <+: top ∧ tree.node? place = none ∧
      after.node? place = some (.directory directoryMode)

theorem GrownAbove.same (grown : GrownAbove tree top later) (rooted : tree.Rooted)
    (stands : tree.node? top.dropLast ≠ none) : tree.Same later where
  here := grown.here
  nodes := by
    intro place
    rcases grown.others place with same | ⟨before, gap, _⟩
    · exact same
    · by_cases whole : place = top
      · obtain ⟨nothing, gone⟩ := grown.bare place (whole ▸ List.prefix_refl place)
        rw [nothing, gone]
      · exact absurd gap (rooted.node?_above (prefix_dropLast before (Ne.symm whole)) stands)

/-- A scope in a new directory below two others, with the file of a tool that is missing. -/
def nested : ScopeOptions :=
  { ScopeOptions.none with seeds := ["b"], directory := some "p/q/r" }

end ScopeManager

end ToolParams
