import ToolParams.Proofs.ParameterFile.Reading
import ToolParams.Proofs.ParameterFile.Writing

/-!
# Holding a file against a store

A comparison looks at the file and the store and adds to the journal; it assigns
nothing and writes nothing.  It gives a result whatever the file holds, as long as
every value of the store has a text.
-/

namespace ToolParams.ParameterFile

open ToolParams.Action (Watches)

variable {σ : Type} {store : Store} {declaration : Declaration}

theorem watches_resolvedText? (store : Store) (declaration : Declaration)
    (fallback : String) :
    Watches (resolvedText? store declaration fallback : Action σ (Option String)) := by
  unfold resolvedText?
  cases store.resolve declaration.name with
  | ok value => exact .pure _
  | error fault => exact .bind (.note _ _ _) fun _ => .pure _

theorem watches_agrees (store : Store) (declaration : Declaration) (contents : Contents)
    (held actual : String) :
    Watches (agrees store declaration contents held actual : Action σ Bool) := by
  unfold agrees
  refine .bind .world fun world => ?_
  exact .bind (watches_resolvedText? _ _ _) fun _ => .pure _

theorem watches_departure? (overflow : Overflow) (contents : Contents)
    (texted : HasText store declaration) :
    Watches (departure? store overflow contents declaration : Action σ (Option Mismatch)) := by
  obtain ⟨held, isHeld⟩ := texted
  unfold departure?
  simp only [isHeld]
  split
  · exact .pure _
  · exact .pure _
  · split
    · exact .pure _
    · refine .bind (watches_agrees _ _ _ _ _) fun same => ?_
      cases same <;> exact .pure _

theorem watches_compare (path : String) (overflow : Overflow) (contents : Contents)
    {declarations : List Declaration}
    (texted : ∀ declaration ∈ declarations, HasText store declaration) :
    Watches (compare store path overflow contents declarations : Action σ (List Mismatch)) := by
  induction declarations with
  | nil => exact .pure _
  | cons declaration rest induction =>
      have later := induction fun other member => texted other (List.mem_cons_of_mem _ member)
      unfold compare
      refine .bind (watches_departure? _ _ (texted declaration List.mem_cons_self))
        fun departed => ?_
      cases departed with
      | none => exact later
      | some mismatch =>
          refine .bind (.note _ _ _) fun _ => ?_
          exact .bind later fun _ => .pure _

theorem watches_verify (path : String) (overflow : Overflow)
    (texted : ∀ declaration ∈ store.declarations, HasText store declaration) :
    Watches (verify store path overflow : Action σ (List Mismatch)) := by
  unfold verify
  refine .bind ?_ fun loaded => ?_
  · intro world state
    exact ⟨_, world, .refl world, by rw [Action.perform_outcome, perform_load]⟩
  · cases loaded with
    | ok contents => exact watches_compare _ _ _ texted
    | error failure => exact .bind (.note _ _ _) fun _ => .pure _

end ToolParams.ParameterFile
