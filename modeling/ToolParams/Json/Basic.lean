import ToolParams.Number.Basic
import ToolParams.OrderedMap.IndexFirst
import ToolParams.Text.Units

/-!
# JSON values

The values of registry files, journal entries and lists of issues.  An object
holds its members in the order in which it lists them.
-/

namespace ToolParams

/-- A JSON value. -/
inductive Json where
  | null
  | bool (value : Bool)
  | number (value : Number)
  | text (value : String)
  /-- a text of one 16-bit unit that is half of a pair and no character by itself -/
  | half (unit : Nat)
  | array (items : List Json)
  | object (members : List (String × Json))
deriving Inhabited, Repr

namespace Json

/-- The object that results from setting the members one after another. -/
def ofMembers (pairs : List (String × Json)) : Json :=
  .object (OrderedMap.members pairs)

def member? : Json → String → Option Json
  | .object members, name => OrderedMap.lookup name members
  | _, _ => none

/-- A natural number as a JSON value. -/
def ofNat (value : Nat) : Json :=
  .number (Number.ofNat value)

/-- A list of texts as a JSON value. -/
def ofTexts (texts : List String) : Json :=
  .array (texts.map .text)

def ofUnit (unit : Nat) : Json :=
  if 0xD800 ≤ unit ∧ unit < 0xE000 then .half unit
  else .text (String.ofList [Char.ofNat unit])

/-- The parts of a value under the names by which it has them: the members of an object,
the items of an array and the units of a text by their index.  Other values have none. -/
def parts : Json → List (String × Json)
  | .object members => members
  | .array items => numbered items
  | .text value => numbered ((Text.units value).map ofUnit)
  | .half unit => numbered [.half unit]
  | _ => []
where
  /-- Values under their indices. -/
  numbered (values : List Json) : List (String × Json) :=
    values.zipIdx.map fun (value, index) => (toString index, value)

end Json

end ToolParams
