import Mathlib.Data.List.Induction
import ToolParams.Proofs.Files.Joining

/-!
# The directories on the way

The paths of the directories on the way to a path are made from its first steps, without
slashes at their ends.  Each of them is the one above it with one step more, unless that
step is empty.
-/

namespace ToolParams.Path

variable {path above step : String} {names fill : List String}

/-- Steps that are empty, as those between slashes. -/
def IsBlank (fill : List String) : Prop := ∀ step ∈ fill, step = ""

theorem IsBlank.concat (blank : IsBlank fill) : IsBlank (fill ++ [""]) := by
  intro step member
  rcases List.mem_append.mp member with before | last
  · exact blank step before
  · exact List.mem_singleton.mp last

theorem IsBlank.moves (blank : IsBlank fill) (names : List String) :
    moves (names ++ fill) = moves names := by
  have nowhere : Path.moves fill = [] :=
    List.filter_eq_nil_iff.mpr fun step member => by simp [blank step member]
  rw [Path.moves, List.filter_append, ← Path.moves, ← Path.moves, nowhere, List.append_nil]

/-- Steps that lead up, or nowhere. -/
def IsUpward (names : List String) : Prop :=
  ∀ step ∈ names, step = "" ∨ step = "." ∨ step = ".."

theorem IsUpward.of_append {front rest : List String} (upward : IsUpward (front ++ rest)) :
    IsUpward front :=
  fun step member => upward step (List.mem_append_left _ member)

/-- One path leads one step further than the other, but for slashes at its end; or it only
has more slashes. -/
inductive Below (path above : String) : Prop where
  | same : withoutEnd path = withoutEnd above → Below path above
  | step {fill : List String} {step : String} :
      IsBlank fill → step ≠ "" → '/' ∉ step.toList →
      (step = ".." → IsUpward (steps (withoutEnd path))) →
      steps (withoutEnd path) = steps (withoutEnd above) ++ fill ++ [step] →
      isAbsolute (withoutEnd path) = isAbsolute (withoutEnd above) → Below path above

theorem Below.isUpward (below : Below path above)
    (upward : IsUpward (steps (withoutEnd path))) : IsUpward (steps (withoutEnd above)) := by
  cases below with
  | same same => rwa [← same]
  | step _ _ _ _ split _ =>
      rw [split, List.append_assoc] at upward
      exact upward.of_append

/-- The path of the first steps. -/
def first (names : List String) (count : Nat) : String :=
  "/".intercalate (names.take count)

end ToolParams.Path
