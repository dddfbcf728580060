import ToolParams.OrderedMap.IndexFirst
import ToolParams.Text.Pieces

/-!
# Arguments in words

The words behind the name of a tool are values for its parameters: `name=value`
for a parameter by name, any other word for the next parameter in order.
-/

namespace ToolParams

/-- The values in the words of a command. -/
structure ToolArguments where
  positional : List String
  /-- names and values as an object lists them; the last value of a name counts -/
  named : List (String × String)
deriving DecidableEq, Repr

namespace ToolArguments

/-- The name that no word can give a value to. -/
def droppedName : String := "__proto__"

def binding? (word : String) : Option (String × String) :=
  (Text.cut? '=' word).filter fun (name, _) => name ≠ ""

/-- The values in words. -/
def ofWords (words : List String) : ToolArguments :=
  { positional := words.filter fun word => (binding? word).isNone
    named := OrderedMap.members
      ((words.filterMap binding?).filter fun (name, _) => name ≠ droppedName) }

end ToolArguments

end ToolParams
