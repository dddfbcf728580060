import ToolParams.Json.Printer

/-!
# Issues of checked data

Registry files and settings are checked member by member.  Every departure from
the expected form is an issue with its place; the issues are reported together,
as a JSON list.
-/

namespace ToolParams

/-- A step from a value to one of its parts. -/
inductive Issue.Step where
  | key (name : String)
  | index (position : Nat)
deriving DecidableEq, Repr

/-- One departure from the expected form. -/
inductive Issue where
  | wrongType (expected received : String) (path : List Issue.Step)
  | notWhole (path : List Issue.Step)
  | notPositive (path : List Issue.Step)
  | emptyText (path : List Issue.Step)
  | notAmong (received : String) (options : List String) (path : List Issue.Step)
  | notText (options : List String) (received : String) (path : List Issue.Step)
deriving DecidableEq, Repr

namespace Issue

/-- The name of the kind of a value; a missing value is undefined. -/
def kindName : Option Json → String
  | none => "undefined"
  | some .null => "null"
  | some (.bool _) => "boolean"
  | some (.number value) => if value.isNaN then "nan" else "number"
  | some (.text _) | some (.half _) => "string"
  | some (.array _) => "array"
  | some (.object _) => "object"

/-- A step as JSON. -/
def Step.toJson : Step → Json
  | .key name => .text name
  | .index position => .ofNat position

def choices (options : List String) : String :=
  " | ".intercalate (options.map fun option => s!"'{option}'")

/-- The sentence that describes an issue. -/
def message : Issue → String
  | .wrongType expected received _ =>
      if received = "undefined" then "Required" else s!"Expected {expected}, received {received}"
  | .notWhole _ => "Expected integer, received float"
  | .notPositive _ => "Number must be greater than 0"
  | .emptyText _ => "String must contain at least 1 character(s)"
  | .notAmong received options _ =>
      s!"Invalid enum value. Expected {choices options}, received '{received}'"
  | .notText options received _ =>
      if received = "undefined" then "Required"
      else s!"Expected {choices options}, received {received}"

/-- A place as JSON. -/
def pathJson (path : List Step) : Json :=
  .array (path.map Step.toJson)

/-- An issue as JSON. -/
def toJson (issue : Issue) : Json :=
  let message := ("message", Json.text issue.message)
  match issue with
  | .wrongType expected received path => .object
      [("code", .text "invalid_type"), ("expected", .text expected),
        ("received", .text received), ("path", pathJson path), message]
  | .notWhole path => .object
      [("code", .text "invalid_type"), ("expected", .text "integer"),
        ("received", .text "float"), message, ("path", pathJson path)]
  | .notPositive path => .object
      [("code", .text "too_small"), ("minimum", .ofNat 0), ("type", .text "number"),
        ("inclusive", .bool false), ("exact", .bool false), message, ("path", pathJson path)]
  | .emptyText path => .object
      [("code", .text "too_small"), ("minimum", .ofNat 1), ("type", .text "string"),
        ("inclusive", .bool true), ("exact", .bool false), message, ("path", pathJson path)]
  | .notAmong received options path => .object
      [("received", .text received), ("code", .text "invalid_enum_value"),
        ("options", .ofTexts options), ("path", pathJson path), message]
  | .notText options received path => .object
      [("expected", .text (choices options)), ("received", .text received),
        ("code", .text "invalid_type"), ("path", pathJson path), message]

def report (issues : List Issue) : String :=
  (Json.array (issues.map toJson)).pretty 0

end Issue

end ToolParams
