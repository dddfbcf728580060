/-!
# What every object has

A look-up by name in an object also finds the members that every object has.  A type
column may name one of them, and a text may refer to one as if it were a variable.
-/

namespace ToolParams.Inherited

/-- The names of the members that every object has. -/
def names : List String :=
  ["constructor", "hasOwnProperty", "isPrototypeOf", "propertyIsEnumerable",
    "toLocaleString", "toString", "valueOf", "__proto__", "__defineGetter__",
    "__defineSetter__", "__lookupGetter__", "__lookupSetter__"]

/-- The name that a member is shown with: all of them but one are functions. -/
def functionName? : String → Option String
  | "__proto__" => none
  | "constructor" => some "Object"
  | name => some name

/-- The text of the member that every object has under a name. -/
def text? (name : String) : Option String :=
  if name ∈ names then
    match functionName? name with
    | some function => some ("function " ++ function ++ "() \x7b [native code] \x7d")
    | none => some "[object Object]"
  else none

end ToolParams.Inherited
