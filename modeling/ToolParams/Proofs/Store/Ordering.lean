import Mathlib.Data.List.Induction
import ToolParams.Proofs.OrderedMap
import ToolParams.Proofs.Store.Lookup

/-!
# Assignments in another order

A list of assignments may be made in another order, each name once and with its last
value, if two things hold.  No two names for one parameter change their places, counted by
their last assignments; and no assignment changes its place with one whose check looks up
the parameter that it assigns.
-/

namespace ToolParams.Store

open OrderedMap (Lists)

variable {store changed middle final : Store}
  {words front back order done rest : List (String × Input)}
  {requested name other own : String} {input : Input} {declaration : Declaration}

/-- The store after a list of assignments. -/
def setAll (store : Store) : List (String × Input) → Except StoreFault Store
  | [] => .ok store
  | (requested, input) :: rest => do
      let (next, _) ← store.set requested input
      next.setAll rest

theorem setAll_cons_eq_ok_iff :
    store.setAll ((requested, input) :: rest) = .ok final ↔
      ∃ next raw, store.set requested input = .ok (next, raw) ∧ next.setAll rest = .ok final := by
  refine Outcome.bind_eq_ok_iff.trans ?_
  constructor
  · rintro ⟨⟨next, raw⟩, assigned, later⟩
    exact ⟨next, raw, assigned, later⟩
  · rintro ⟨next, raw, assigned, later⟩
    exact ⟨(next, raw), assigned, later⟩

theorem setAll_append_eq_ok_iff :
    store.setAll (front ++ back) = .ok final ↔
      ∃ middle, store.setAll front = .ok middle ∧ middle.setAll back = .ok final := by
  induction front generalizing store with
  | nil =>
      constructor
      · exact fun later => ⟨store, rfl, later⟩
      · rintro ⟨_, ⟨⟩, later⟩
        exact later
  | cons word front induction =>
      obtain ⟨requested, input⟩ := word
      simp only [List.cons_append, setAll_cons_eq_ok_iff, induction]
      constructor
      · rintro ⟨next, raw, assigned, middle, early, late⟩
        exact ⟨middle, ⟨next, raw, assigned, early⟩, late⟩
      · rintro ⟨middle, ⟨next, raw, assigned, early⟩, late⟩
        exact ⟨next, raw, assigned, middle, early, late⟩

theorem assigned_of_setAll (all : store.setAll words = .ok final) : store.Assigned final := by
  induction words generalizing store with
  | nil =>
      cases all
      exact .refl
  | cons word rest induction =>
      obtain ⟨next, raw, assigned, later⟩ := setAll_cons_eq_ok_iff.mp all
      exact (Assigned.set .refl assigned).trans (induction later)

theorem resolveName_congr (sameSchema : changed.schema = store.schema) (requested : String) :
    changed.resolveName requested = store.resolveName requested := by
  unfold resolveName tool
  rw [sameSchema]

theorem set_of_check (resolved : store.resolveName requested = .ok own)
    (found : store.schema.find? own = some declaration) {stored : Stored}
    (checked : store.check declaration input = .ok stored) :
    store.set requested input = .ok (store.put own stored, stored.raw) := by
  rw [set_of_resolved resolved found, checked]
  rfl

theorem validate_of_check (resolved : store.resolveName requested = .ok own)
    (found : store.schema.find? own = some declaration) {stored : Stored}
    (checked : store.check declaration input = .ok stored) :
    store.validate requested input = .ok stored := by
  rw [validate_of_declaration (declaration_eq_ok_iff.mpr ⟨own, resolved, found⟩)]
  exact Outcome.mapError_eq_ok_iff.mpr checked

/-- A parameter that no assignment addresses keeps its entry. -/
theorem entry_setAll_of_untouched (all : store.setAll words = .ok final)
    (untouched : ∀ word ∈ words, store.resolveName word.1 ≠ .ok own) :
    final.entry own = store.entry own := by
  induction words generalizing store with
  | nil =>
      cases all
      rfl
  | cons word rest induction =>
      obtain ⟨next, raw, assigned, later⟩ := setAll_cons_eq_ok_iff.mp all
      have sameNames := resolveName_congr (schema_of_set assigned)
      obtain ⟨addressed, _, stored, resolved, _, _, rfl, _⟩ := set_eq_ok assigned
      have differs : addressed ≠ own := by
        rintro rfl
        exact untouched word List.mem_cons_self resolved
      refine (induction later ?_).trans (by rw [entry_put, if_neg differs])
      intro word member
      rw [sameNames]
      exact untouched word (List.mem_cons_of_mem _ member)

/-- The last assignment to a parameter determines its entry. -/
theorem entry_setAll_of_last (all : store.setAll (front ++ (requested, input) :: back) = .ok final)
    (resolved : store.resolveName requested = .ok own)
    (last : ∀ word ∈ back, store.resolveName word.1 ≠ .ok own) :
    ∃ middle declaration, store.setAll front = .ok middle ∧
      store.schema.find? own = some declaration ∧
      middle.check declaration input = .ok (final.entry own) := by
  obtain ⟨middle, early, late⟩ := setAll_append_eq_ok_iff.mp all
  obtain ⟨next, raw, assigned, later⟩ := setAll_cons_eq_ok_iff.mp late
  have sameSchema := (assigned_of_setAll early).schema_eq
  have sameNames := resolveName_congr ((schema_of_set assigned).trans sameSchema)
  obtain ⟨addressed, declaration, stored, isAddressed, found, checked, rfl, _⟩ := set_eq_ok assigned
  obtain rfl : addressed = own := by
    rw [resolveName_congr sameSchema, resolved] at isAddressed
    exact (Except.ok.inj isAddressed).symm
  have kept : final.entry addressed = stored := by
    refine (entry_setAll_of_untouched later fun word member => ?_).trans (by simp)
    rw [sameNames]
    exact last word member
  exact ⟨middle, declaration, early, sameSchema ▸ found, kept ▸ checked⟩

/-- The check of an input passes a parameter on the way along the redirects that it
looks up. -/
def Consults (store : Store) (declaration : Declaration) (input : Input) (seen : String) : Prop :=
  ∃ target ∈ lookedUp declaration input, ∃ passed value,
    Chain store target passed value ∧ seen ∈ passed ∧ declaration.name ∉ passed

/-- An assignment to another name changes its place with the last assignment to a name:
it is in front of it and comes behind it, or it is behind it and comes in front of it. -/
def Displaced (order front back : List (String × Input)) (name other : String) : Prop :=
  (other ∈ front.map Prod.fst ∧ [name, other].Sublist (order.map Prod.fst)) ∨
    (other ∈ back.map Prod.fst ∧ [other, name].Sublist (order.map Prod.fst))

/-- No assignment changes its place with one to the same parameter, nor with one to a
parameter that its check looks up. -/
structure Undisturbed (store : Store) (words order : List (String × Input)) : Prop where
  apart : ∀ front name input back other, words = front ++ (name, input) :: back →
    name ∉ back.map Prod.fst → other ∈ back.map Prod.fst →
    [other, name].Sublist (order.map Prod.fst) →
    store.resolveName other ≠ store.resolveName name
  unseen : ∀ front name input back middle own declaration other seen,
    words = front ++ (name, input) :: back → name ∉ back.map Prod.fst →
    store.setAll front = .ok middle → store.resolveName name = .ok own →
    store.schema.find? own = some declaration →
    middle.Consults declaration input seen → Displaced order front back name other →
    store.resolveName other ≠ .ok seen

/-- Where no two assignments to a parameter change their places, the parameter has the same
entry after the first assignments and after the first of those in the other order, if they
address it by the same names. -/
theorem entry_setAll_eq (lists : Lists words order) (undisturbed : store.Undisturbed words order)
    (whole : words = front ++ back) (cut : order = done ++ rest)
    (early : store.setAll front = .ok middle) (placed : store.setAll done = .ok changed)
    (kept : ∀ word ∈ front, store.resolveName word.1 = .ok own → word.1 ∈ done.map Prod.fst)
    (ahead : ∀ word ∈ done, store.resolveName word.1 = .ok own → word.1 ∉ back.map Prod.fst) :
    changed.entry own = middle.entry own := by
  by_cases addressed : ∃ word ∈ done, store.resolveName word.1 = .ok own
  · obtain ⟨first, ⟨name, input⟩, later, rfl, isOwn, last⟩ := OrderedMap.exists_last addressed
    have listed : (name, input) ∈ order := by
      rw [cut]
      simp
    have notBack := ahead (name, input) (by simp) isOwn
    obtain ⟨before, behind, rfl, notBehind⟩ := lists.exists_split whole listed notBack
    -- an assignment behind this one would have to come in front of it in the other order
    have lastToo : ∀ word ∈ behind, store.resolveName word.1 ≠ .ok own := by
      intro word member isOwnToo
      have differs : word.1 ≠ name := fun same => notBehind (same ▸ List.mem_map_of_mem member)
      have inDone := kept word (by simp [member]) isOwnToo
      have inFirst : word.1 ∈ first.map Prod.fst := by
        simp only [List.map_append, List.map_cons, List.mem_append, List.mem_cons] at inDone
        rcases inDone with inFirst | same | inLater
        · exact inFirst
        · exact absurd same differs
        · obtain ⟨other, inLater, same⟩ := List.mem_map.mp inLater
          exact absurd (same ▸ isOwnToo) (last other inLater)
      have inFront : [word.1, name].Sublist (order.map Prod.fst) := by
        rw [cut, List.append_assoc, List.map_append, List.cons_append, List.map_cons]
        exact (List.singleton_sublist.mpr inFirst).append ((List.nil_sublist _).cons_cons name)
      refine undisturbed.apart before name input (behind ++ back) word.1 (by simp [whole]) ?_ ?_
        inFront (isOwnToo.trans isOwn.symm)
      · rw [List.map_append, List.mem_append]
        exact not_or.mpr ⟨notBehind, notBack⟩
      · rw [List.map_append, List.mem_append]
        exact .inl (List.mem_map_of_mem member)
    obtain ⟨early, declaration, isEarly, found, checked⟩ := entry_setAll_of_last early isOwn lastToo
    obtain ⟨late, _, isLate, foundToo, checkedToo⟩ := entry_setAll_of_last placed isOwn last
    cases found.symm.trans foundToo
    have sameSchema := (assigned_of_setAll isLate).schema_eq.trans
      (assigned_of_setAll isEarly).schema_eq.symm
    exact (check_unique sameSchema checked checkedToo).symm
  · have untouched : ∀ word ∈ done, store.resolveName word.1 ≠ .ok own :=
      fun word member isOwn => addressed ⟨word, member, isOwn⟩
    rw [entry_setAll_of_untouched placed untouched]
    refine (entry_setAll_of_untouched early fun word member isOwn => ?_).symm
    obtain ⟨again, inDone, same⟩ := List.mem_map.mp (kept word member isOwn)
    exact untouched again inDone (same ▸ isOwn)

/-- An assignment that is accepted in its place is accepted in the other order. -/
theorem check_of_undisturbed (lists : Lists words order)
    (undisturbed : store.Undisturbed words order)
    (whole : words = front ++ (name, input) :: back) (last : name ∉ back.map Prod.fst)
    (cut : order = done ++ (name, input) :: rest)
    (early : store.setAll front = .ok middle) (placed : store.setAll done = .ok changed)
    (resolved : store.resolveName name = .ok own)
    (found : store.schema.find? own = some declaration) {stored : Stored}
    (checked : middle.check declaration input = .ok stored) :
    changed.check declaration input = .ok stored := by
  have middleSchema := (assigned_of_setAll early).schema_eq
  have sameSchema := (assigned_of_setAll placed).schema_eq.trans middleSchema.symm
  have isNamed := (mem_names_of_find? found).2
  refine check_of_ok sameSchema (fun target lookup value followed => ?_) checked
  obtain ⟨declared, passed, chain, avoids⟩ := followTarget_eq_ok_iff.mp followed
  have notOwn : declaration.name ∉ passed :=
    fun member => avoids _ member (List.mem_singleton_self _)
  refine followTarget_eq_ok_iff.mpr ⟨sameSchema ▸ declared, passed, ?_, avoids⟩
  refine chain.congr sameSchema fun seen member => ?_
  have consults : middle.Consults declaration input seen :=
    ⟨target, lookup, passed, value, chain, member, notOwn⟩
  have unseen (other : String) (displaced : Displaced order front back name other) :
      store.resolveName other ≠ .ok seen :=
    undisturbed.unseen front name input back middle own declaration other seen whole last early
      resolved found consults displaced
  have notName (other : String) (isSeen : store.resolveName other = .ok seen) : other ≠ name := by
    rintro rfl
    cases resolved.symm.trans isSeen
    exact notOwn (isNamed ▸ member)
  refine entry_setAll_eq lists undisturbed whole cut early placed ?_ ?_
  · intro word inFront isSeen
    have inWords : word ∈ words := whole ▸ List.mem_append_left _ inFront
    have inOrder := lists.mem_of_mem_keys (List.mem_map_of_mem inWords)
    rw [cut, List.map_append, List.map_cons, List.mem_append, List.mem_cons] at inOrder
    rcases inOrder with inDone | same | inRest
    · exact inDone
    · exact absurd same (notName word.1 isSeen)
    · refine absurd isSeen (unseen word.1 (.inl ⟨List.mem_map_of_mem inFront, ?_⟩))
      rw [cut, List.map_append, List.map_cons]
      exact ((List.singleton_sublist.mpr inRest).cons_cons name).trans
        (List.sublist_append_right _ _)
  · intro word inDone isSeen inBack
    rcases List.mem_cons.mp inBack with same | inBack
    · exact notName word.1 isSeen same
    · refine unseen word.1 (.inr ⟨inBack, ?_⟩) isSeen
      rw [cut, List.map_append, List.map_cons]
      exact (List.singleton_sublist.mpr (List.mem_map_of_mem inDone)).append
        ((List.nil_sublist _).cons_cons name)

/-- Assignments that are accepted one after another are accepted in an order that does not
disturb them, with the same entries. -/
theorem setAll_of_undisturbed (lists : Lists words order)
    (undisturbed : store.Undisturbed words order) (all : store.setAll words = .ok final) :
    ∃ reached, store.setAll order = .ok reached ∧
      ∀ name, reached.entry name = final.entry name := by
  have accepted : ∀ done rest, order = done ++ rest →
      ∃ changed, store.setAll done = .ok changed := by
    intro done
    induction done using List.reverseRecOn with
    | nil => exact fun _ _ => ⟨store, rfl⟩
    | append_singleton done word induction =>
        intro rest cut
        obtain ⟨name, input⟩ := word
        rw [List.append_assoc, List.singleton_append] at cut
        obtain ⟨changed, placed⟩ := induction _ cut
        obtain ⟨front, back, whole, last⟩ := (lists.last (name, input)).mp (by simp [cut])
        obtain ⟨middle, early, late⟩ := setAll_append_eq_ok_iff.mp (whole ▸ all)
        obtain ⟨next, raw, assigned, _⟩ := setAll_cons_eq_ok_iff.mp late
        have middleSchema := (assigned_of_setAll early).schema_eq
        have changedSchema := (assigned_of_setAll placed).schema_eq
        obtain ⟨own, declaration, stored, resolved, found, checked, _⟩ := set_eq_ok assigned
        rw [resolveName_congr middleSchema] at resolved
        rw [middleSchema] at found
        have accepted := check_of_undisturbed lists undisturbed whole last cut early placed resolved
          found checked
        have isSet := set_of_check ((resolveName_congr changedSchema name).trans resolved)
          (changedSchema ▸ found) accepted
        exact ⟨_, setAll_append_eq_ok_iff.mpr
          ⟨changed, placed, setAll_cons_eq_ok_iff.mpr ⟨_, _, isSet, rfl⟩⟩⟩
  obtain ⟨reached, isReached⟩ := accepted order [] (List.append_nil order).symm
  refine ⟨reached, isReached, fun own => ?_⟩
  refine entry_setAll_eq lists undisturbed (List.append_nil words).symm (List.append_nil order).symm
    all isReached ?_ fun _ _ _ => List.not_mem_nil
  exact fun word member _ => lists.mem_of_mem_keys (List.mem_map_of_mem member)

/-- Assignments with different names for different parameters, whose checks look nothing up,
may be made in any order. -/
theorem undisturbed_of_unlinked (lists : Lists words order)
    (apart : ∀ word ∈ words, ∀ other ∈ words,
      store.resolveName other.1 = store.resolveName word.1 → other.1 = word.1)
    (unlinked : ∀ word ∈ words, ∀ declaration ∈ store.declarations,
      store.resolveName word.1 = .ok declaration.name → lookedUp declaration word.2 = []) :
    store.Undisturbed words order where
  apart := by
    rintro front name input back other rfl - later before same
    obtain ⟨word, inBack, rfl⟩ := List.mem_map.mp later
    have isName := apart (name, input) (by simp) word (by simp [inBack]) same
    have differs := before.nodup lists.distinct
    simp [isName] at differs
  unseen := by
    rintro front name input back middle own declaration other seen rfl - - resolved found consults
    obtain ⟨declared, isOwn⟩ := mem_names_of_find? found
    obtain ⟨target, lookup, _⟩ := consults
    rw [unlinked (name, input) (by simp) declaration declared (isOwn ▸ resolved)] at lookup
    cases lookup

end ToolParams.Store
