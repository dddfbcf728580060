/-!
# Maps in order of first arrival

A map from keys to values that remembers the order in which its keys arrived.
Storing a key again replaces its value and keeps its place.
-/

namespace ToolParams

/-- Pairs in order of arrival. -/
structure OrderedMap (κ α : Type) where
  toList : List (κ × α)
deriving DecidableEq, Repr

namespace OrderedMap

variable {κ α : Type} [DecidableEq κ]

/-- The map without entries. -/
def empty : OrderedMap κ α := ⟨[]⟩

instance : Inhabited (OrderedMap κ α) := ⟨empty⟩

/-- The value of a key in a list of pairs: that of its first pair. -/
def lookup (key : κ) : List (κ × α) → Option α
  | [] => none
  | (other, value) :: rest => if other = key then some value else lookup key rest

def get? (entries : OrderedMap κ α) (key : κ) : Option α :=
  lookup key entries.toList

/-- Whether a key has a value. -/
def contains (entries : OrderedMap κ α) (key : κ) : Bool :=
  (entries.get? key).isSome

/-- The pairs with the value of a key replaced in its place, or with a new last pair. -/
def place (key : κ) (value : α) : List (κ × α) → List (κ × α)
  | [] => [(key, value)]
  | (other, old) :: rest =>
      if other = key then (other, value) :: rest else (other, old) :: place key value rest

def insert (entries : OrderedMap κ α) (key : κ) (value : α) : OrderedMap κ α :=
  ⟨place key value entries.toList⟩

def erase (entries : OrderedMap κ α) (key : κ) : OrderedMap κ α :=
  ⟨entries.toList.filter fun entry => decide (entry.1 ≠ key)⟩

def filterKeys (entries : OrderedMap κ α) (test : κ → Bool) : OrderedMap κ α :=
  ⟨entries.toList.filter fun entry => test entry.1⟩

/-- Stores pairs one after another. -/
def insertAll (entries : OrderedMap κ α) (pairs : List (κ × α)) : OrderedMap κ α :=
  pairs.foldl (fun built entry => built.insert entry.1 entry.2) entries

/-- The map that results from storing the pairs one after another. -/
def ofList (pairs : List (κ × α)) : OrderedMap κ α :=
  empty.insertAll pairs

/-- The keys in order of arrival. -/
def keys (entries : OrderedMap κ α) : List κ :=
  entries.toList.map Prod.fst

/-- The values in order of arrival of their keys. -/
def values (entries : OrderedMap κ α) : List α :=
  entries.toList.map Prod.snd

/-- The number of keys. -/
def size (entries : OrderedMap κ α) : Nat :=
  entries.toList.length

@[simp]
theorem get?_empty (key : κ) : (empty : OrderedMap κ α).get? key = none := rfl

theorem lookup_place (key other : κ) (value : α) (pairs : List (κ × α)) :
    lookup other (place key value pairs) =
      if key = other then some value else lookup other pairs := by
  induction pairs with
  | nil => simp [place, lookup]
  | cons entry rest ih => grind [place, lookup]

@[simp]
theorem get?_insert (entries : OrderedMap κ α) (key other : κ) (value : α) :
    (entries.insert key value).get? other =
      if key = other then some value else entries.get? other :=
  lookup_place key other value entries.toList

theorem lookup_filter (test : κ → Bool) (other : κ) (pairs : List (κ × α)) :
    lookup other (pairs.filter fun entry => test entry.1) =
      if test other then lookup other pairs else none := by
  induction pairs with
  | nil => simp [lookup]
  | cons entry rest ih => grind [lookup]

@[simp]
theorem get?_filterKeys (entries : OrderedMap κ α) (test : κ → Bool) (other : κ) :
    (entries.filterKeys test).get? other =
      if test other then entries.get? other else none :=
  lookup_filter test other entries.toList

@[simp]
theorem get?_erase (entries : OrderedMap κ α) (key other : κ) :
    (entries.erase key).get? other = if other = key then none else entries.get? other := by
  have filtered := lookup_filter (fun name => decide (name ≠ key)) other entries.toList
  simp only [get?, erase]
  rw [filtered]
  by_cases same : other = key <;> simp [same]

end OrderedMap

end ToolParams
