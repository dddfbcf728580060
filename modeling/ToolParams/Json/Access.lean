import ToolParams.Json.Basic

/-!
# Looking into JSON values

What a value holds, seen as a value of one kind.  A value of another kind holds
nothing, and a member that is `null` counts as one that is missing.
-/

namespace ToolParams.Json

def asText : Json → String
  | .text value => value
  | _ => ""

def asItems : Json → List Json
  | .array items => items
  | _ => []

def asMembers : Json → List (String × Json)
  | .object members => members
  | _ => []

/-- A member that is not missing. -/
def given? (json : Json) (name : String) : Option Json :=
  match json.member? name with
  | some .null => none
  | found => found

/-- The text of a member that is not missing. -/
def text? (json : Json) (name : String) : Option String :=
  (json.given? name).map asText

def textOf (json : Json) (name : String) (default : String := "") : String :=
  (json.text? name).getD default

def listOf (json : Json) (name : String) : List Json :=
  ((json.given? name).map asItems).getD []

def textsOf (json : Json) (name : String) : List String :=
  (json.listOf name).map asText

/-- Whether a member is true. -/
def flag (json : Json) (name : String) (default : Bool := false) : Bool :=
  match json.given? name with
  | some (.bool value) => value
  | _ => default

end ToolParams.Json
