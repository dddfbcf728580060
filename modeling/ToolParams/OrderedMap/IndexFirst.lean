import ToolParams.OrderedMap

/-!
# Keys in index order

Objects list their members with index keys first, in numeric order, and all
other keys after them in order of arrival.  An index key is the usual decimal
text of a number below 4294967295.
-/

namespace ToolParams.OrderedMap

variable {α : Type}

/-- The index that a key spells, if it is an index key. -/
def index? (key : String) : Option Nat :=
  let digits := key.toList
  if !digits.isEmpty && digits.all Char.isDigit then
    let value := Nat.ofDigitChars 10 digits 0
    if Nat.toDigits 10 value = digits ∧ value < 4294967295 then some value else none
  else none

/-- Whether the index of one key is at most that of another. -/
def indexLE (left right : String × α) : Bool :=
  decide ((index? left.1).getD 0 ≤ (index? right.1).getD 0)

/-- The pairs of a map as an object lists them. -/
def indexFirst (entries : OrderedMap String α) : List (String × α) :=
  let (indexed, named) := entries.toList.partition fun entry => (index? entry.1).isSome
  indexed.mergeSort indexLE ++ named

/-- The members of the object that results from setting the pairs one after another. -/
def members (pairs : List (String × α)) : List (String × α) :=
  (ofList pairs).indexFirst

end ToolParams.OrderedMap
