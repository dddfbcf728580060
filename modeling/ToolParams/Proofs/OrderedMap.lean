import Mathlib.Data.List.Nodup
import ToolParams.OrderedMap.IndexFirst

/-!
# Entries of ordered maps

Storing a value adds one entry, or puts it in the place of the entry of its key.
-/

namespace ToolParams.OrderedMap

variable {κ α : Type} [DecidableEq κ] {key : κ} {value : α} {pairs : List (κ × α)}
  {entry : κ × α}

theorem self_mem_place (key : κ) (value : α) (pairs : List (κ × α)) :
    (key, value) ∈ place key value pairs := by
  induction pairs with
  | nil => exact List.mem_singleton_self _
  | cons head rest induction =>
      unfold place
      split
      · rename_i same
        exact same ▸ List.mem_cons_self
      · exact List.mem_cons_of_mem _ induction

theorem mem_of_mem_place (member : entry ∈ place key value pairs) :
    entry = (key, value) ∨ entry ∈ pairs := by
  induction pairs with
  | nil => exact .inl (List.mem_singleton.mp member)
  | cons head rest induction =>
      unfold place at member
      split at member
      · rename_i same
        rcases List.mem_cons.mp member with first | later
        · exact .inl (same ▸ first)
        · exact .inr (List.mem_cons_of_mem _ later)
      · rcases List.mem_cons.mp member with first | later
        · exact .inr (List.mem_cons.mpr (.inl first))
        · exact (induction later).imp_right (List.mem_cons_of_mem _)

theorem mem_place (member : entry ∈ pairs) (other : entry.1 ≠ key) :
    entry ∈ place key value pairs := by
  induction pairs with
  | nil => cases member
  | cons head rest induction =>
      unfold place
      rcases List.mem_cons.mp member with rfl | later
      · rw [if_neg other]
        exact List.mem_cons_self
      · split
        · exact List.mem_cons_of_mem _ later
        · exact List.mem_cons_of_mem _ (induction later)

theorem mem_keys_iff {entries : OrderedMap κ α} :
    key ∈ entries.keys ↔ (entries.get? key).isSome := by
  obtain ⟨pairs⟩ := entries
  change key ∈ pairs.map Prod.fst ↔ (lookup key pairs).isSome
  induction pairs with
  | nil => simp [lookup]
  | cons head rest induction =>
      rw [List.map_cons, List.mem_cons, induction, lookup]
      by_cases same : head.1 = key
      · simp [same]
      · simp [same, Ne.symm same]

/-- A new key comes last, and a known one keeps its place. -/
theorem keys_insert (entries : OrderedMap κ α) (key : κ) (value : α) :
    (entries.insert key value).keys =
      if key ∈ entries.keys then entries.keys else entries.keys ++ [key] := by
  obtain ⟨pairs⟩ := entries
  change (place key value pairs).map Prod.fst =
    if key ∈ pairs.map Prod.fst then pairs.map Prod.fst else pairs.map Prod.fst ++ [key]
  induction pairs with
  | nil => rfl
  | cons head rest induction =>
      unfold place
      by_cases same : head.1 = key
      · simp [same]
      · rw [if_neg same, List.map_cons, induction, List.map_cons]
        by_cases later : key ∈ rest.map Prod.fst
        · simp [later]
        · simp [later, Ne.symm same]

theorem toList_insert_of_not_mem {entries : OrderedMap κ α} (isNew : key ∉ entries.keys) :
    (entries.insert key value).toList = entries.toList ++ [(key, value)] := by
  obtain ⟨pairs⟩ := entries
  change key ∉ pairs.map Prod.fst at isNew
  change place key value pairs = pairs ++ [(key, value)]
  induction pairs with
  | nil => rfl
  | cons head rest induction =>
      rw [List.map_cons, List.mem_cons, not_or] at isNew
      rw [place, if_neg (Ne.symm isNew.1), induction isNew.2, List.cons_append]

theorem get?_insertAll_of_not_mem (entries : OrderedMap κ α)
    (outside : key ∉ pairs.map Prod.fst) :
    (entries.insertAll pairs).get? key = entries.get? key := by
  induction pairs generalizing entries with
  | nil => rfl
  | cons head rest induction =>
      rw [List.map_cons, List.mem_cons, not_or] at outside
      exact (induction _ outside.2).trans (by rw [get?_insert, if_neg (Ne.symm outside.1)])

theorem get?_insertAll_of_mem (entries : OrderedMap κ α) (distinct : (pairs.map Prod.fst).Nodup)
    (member : entry ∈ pairs) : (entries.insertAll pairs).get? entry.1 = some entry.2 := by
  induction pairs generalizing entries with
  | nil => cases member
  | cons head rest induction =>
      obtain ⟨apart, distinct⟩ := List.nodup_cons.mp distinct
      rcases List.mem_cons.mp member with rfl | later
      · exact (get?_insertAll_of_not_mem _ apart).trans (by rw [get?_insert, if_pos rfl])
      · exact induction _ distinct later

theorem mem_toList_iff {entries : OrderedMap κ α} (distinct : entries.keys.Nodup) :
    entry ∈ entries.toList ↔ entries.get? entry.1 = some entry.2 := by
  obtain ⟨pairs⟩ := entries
  change (pairs.map Prod.fst).Nodup at distinct
  change entry ∈ pairs ↔ lookup entry.1 pairs = some entry.2
  induction pairs with
  | nil => simp [lookup]
  | cons head rest induction =>
      obtain ⟨outside, distinct⟩ := List.nodup_cons.mp distinct
      rw [List.mem_cons, lookup]
      by_cases same : head.1 = entry.1
      · rw [if_pos same, Option.some.injEq]
        constructor
        · rintro (rfl | later)
          · rfl
          · exact absurd (List.mem_map_of_mem later) (same ▸ outside)
        · intro sameValue
          exact .inl (Prod.ext same sameValue).symm
      · rw [if_neg same, induction distinct]
        refine or_iff_right ?_
        rintro rfl
        exact same rfl

theorem nodup_keys_insert {entries : OrderedMap κ α} (distinct : entries.keys.Nodup) :
    (entries.insert key value).keys.Nodup := by
  rw [keys_insert]
  split
  · exact distinct
  · rename_i isNew
    exact List.nodup_append.mpr ⟨distinct, List.nodup_singleton key, by grind⟩

theorem nodup_keys_insertAll {entries : OrderedMap κ α} (distinct : entries.keys.Nodup) :
    (entries.insertAll pairs).keys.Nodup := by
  induction pairs generalizing entries with
  | nil => exact distinct
  | cons head rest induction => exact induction (nodup_keys_insert distinct)

theorem nodup_keys_ofList (pairs : List (κ × α)) : (ofList pairs).keys.Nodup :=
  nodup_keys_insertAll (show (empty : OrderedMap κ α).keys.Nodup from List.nodup_nil)

theorem get?_insertAll_last (entries : OrderedMap κ α) {front back : List (κ × α)}
    (last : key ∉ back.map Prod.fst) :
    (entries.insertAll (front ++ (key, value) :: back)).get? key = some value := by
  rw [insertAll, List.foldl_append, List.foldl_cons]
  exact (get?_insertAll_of_not_mem _ last).trans (by rw [get?_insert, if_pos rfl])

/-- Of the items that meet a condition there is a last one. -/
theorem exists_last {β : Type} {meets : β → Prop} {items : List β}
    (held : ∃ item ∈ items, meets item) :
    ∃ front item back, items = front ++ item :: back ∧ meets item ∧
      ∀ later ∈ back, ¬ meets later := by
  obtain ⟨item, member, isMet⟩ := held
  induction items generalizing item with
  | nil => cases member
  | cons head rest induction =>
      by_cases later : ∃ item ∈ rest, meets item
      · obtain ⟨item, member, isMet⟩ := later
        obtain ⟨front, last, back, rfl, isLast⟩ := induction item member isMet
        exact ⟨head :: front, last, back, rfl, isLast⟩
      · rcases List.mem_cons.mp member with rfl | further
        · exact ⟨[], item, rest, rfl, isMet, fun other inRest isMet =>
            later ⟨other, inRest, isMet⟩⟩
        · exact absurd ⟨item, further, isMet⟩ later

omit [DecidableEq κ] in
theorem exists_lastPair (member : key ∈ pairs.map Prod.fst) :
    ∃ front value back, pairs = front ++ (key, value) :: back ∧ key ∉ back.map Prod.fst := by
  obtain ⟨front, pair, back, rfl, rfl, last⟩ := exists_last (List.mem_map.mp member)
  refine ⟨front, pair.2, back, rfl, fun again => ?_⟩
  obtain ⟨later, inBack, same⟩ := List.mem_map.mp again
  exact last later inBack same

section Members

variable {pairs listed : List (String × α)} {pair : String × α} {name : String}

theorem members_perm (pairs : List (String × α)) :
    (members pairs).Perm (ofList pairs).toList := by
  rw [members, indexFirst, List.partition_eq_filter_filter]
  exact ((List.mergeSort_perm _ _).append_right _).trans (List.filter_append_perm _ _)

/-- A list gives each name of some pairs once, with its last value. -/
structure Lists (pairs listed : List (String × α)) : Prop where
  distinct : (listed.map Prod.fst).Nodup
  last : ∀ pair, pair ∈ listed ↔
    ∃ front back, pairs = front ++ pair :: back ∧ pair.1 ∉ back.map Prod.fst

/-- An object lists the names that it was given. -/
theorem lists_members (pairs : List (String × α)) : Lists pairs (members pairs) where
  distinct := ((members_perm pairs).map Prod.fst).nodup_iff.mpr (nodup_keys_ofList pairs)
  last := by
    intro pair
    rw [(members_perm pairs).mem_iff, mem_toList_iff (nodup_keys_ofList pairs)]
    constructor
    · intro held
      by_cases member : pair.1 ∈ pairs.map Prod.fst
      · obtain ⟨front, value, back, rfl, last⟩ := exists_lastPair member
        rw [ofList, get?_insertAll_last empty last] at held
        cases held
        exact ⟨front, back, rfl, last⟩
      · rw [ofList, get?_insertAll_of_not_mem empty member] at held
        cases held
    · rintro ⟨front, back, rfl, last⟩
      exact get?_insertAll_last empty last

theorem perm_members_of_nodup (distinct : (pairs.map Prod.fst).Nodup) :
    (members pairs).Perm pairs := by
  have lists := lists_members pairs
  refine (List.perm_ext_iff_of_nodup lists.distinct.of_map distinct.of_map).mpr fun pair => ?_
  rw [lists.last]
  constructor
  · rintro ⟨front, back, rfl, _⟩
    exact List.mem_append_right _ List.mem_cons_self
  · intro member
    obtain ⟨front, back, rfl⟩ := List.append_of_mem member
    refine ⟨front, back, rfl, ?_⟩
    rw [List.map_append, List.map_cons] at distinct
    exact (List.nodup_cons.mp (List.nodup_append.mp distinct).2.1).1

namespace Lists

variable (lists : Lists pairs listed)

include lists

theorem mem_of_mem_keys (member : name ∈ pairs.map Prod.fst) : name ∈ listed.map Prod.fst := by
  obtain ⟨front, value, back, isPairs, last⟩ := exists_lastPair member
  exact List.mem_map_of_mem ((lists.last (name, value)).mpr ⟨front, back, isPairs, last⟩)

/-- A listed pair whose name does not come later on is the last one of its name. -/
theorem exists_split {front back : List (String × α)} {value : α} (whole : pairs = front ++ back)
    (member : (name, value) ∈ listed) (ahead : name ∉ back.map Prod.fst) :
    ∃ before behind, front = before ++ (name, value) :: behind ∧
      name ∉ behind.map Prod.fst := by
  obtain ⟨_, _, isPairs, _⟩ := (lists.last _).mp member
  have named : name ∈ pairs.map Prod.fst := by
    rw [isPairs]
    simp
  rw [whole, List.map_append, List.mem_append] at named
  obtain ⟨before, other, behind, rfl, last⟩ := exists_lastPair (named.resolve_right ahead)
  have again : (name, other) ∈ listed := by
    refine (lists.last _).mpr ⟨before, behind ++ back, by simp [whole], ?_⟩
    rw [List.map_append, List.mem_append]
    exact not_or.mpr ⟨last, ahead⟩
  obtain rfl : other = value :=
    congrArg Prod.snd (List.inj_on_of_nodup_map lists.distinct again member rfl)
  exact ⟨before, behind, rfl, last⟩

/-- Values may be changed before or after they are listed. -/
theorem map {β : Type} (change : α → β) :
    Lists (pairs.map fun pair => (pair.1, change pair.2))
      (listed.map fun pair => (pair.1, change pair.2)) where
  distinct := by
    rw [List.map_map]
    exact lists.distinct
  last := by
    intro pair
    rw [List.mem_map]
    constructor
    · rintro ⟨source, member, rfl⟩
      obtain ⟨front, back, rfl, last⟩ := (lists.last source).mp member
      refine ⟨_, _, List.map_append .., ?_⟩
      rw [List.map_map]
      exact last
    · rintro ⟨front, back, whole, last⟩
      obtain ⟨before, behind, rfl, rfl, isBack⟩ := List.map_eq_append_iff.mp whole
      obtain ⟨source, after, rfl, rfl, rfl⟩ := List.map_eq_cons_iff.mp isBack
      refine ⟨source, (lists.last source).mpr ⟨before, after, rfl, ?_⟩, rfl⟩
      rw [List.map_map] at last
      exact last

theorem members : Lists pairs (members listed) where
  distinct := (lists_members listed).distinct
  last := by
    intro pair
    rw [← lists.last, (members_perm listed).mem_iff, mem_toList_iff (nodup_keys_ofList listed)]
    constructor
    · intro held
      by_cases member : pair.1 ∈ listed.map Prod.fst
      · obtain ⟨source, member, same⟩ := List.mem_map.mp member
        rw [← same, ofList, get?_insertAll_of_mem empty lists.distinct member] at held
        rwa [← Prod.ext same (Option.some.inj held)]
      · rw [ofList, get?_insertAll_of_not_mem empty member] at held
        cases held
    · exact get?_insertAll_of_mem empty lists.distinct

end Lists

end Members

end ToolParams.OrderedMap
