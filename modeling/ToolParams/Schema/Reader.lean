import ToolParams.Number.Numeral
import ToolParams.Parameter.Declaration
import ToolParams.Schema.Fault

/-!
# Reading declarations

A line `name,type,mode,value,min,max,prompt` of a parameter file declares a
parameter.  Lines that only concern how a tool asks for values, the `mode` entry
and choices among one option, declare nothing.
-/

namespace ToolParams.Schema

/-- The number in a column; a blank column and `INDEF` hold none. -/
def readNumber (tool name column : String) : Except SchemaFault (Option Number) :=
  let text := Text.trim column
  if text = "" ∨ text = "INDEF" then .ok none
  else
    let value := Number.read text
    if value.isNaN then .error (.badNumber tool name column) else .ok (some value)

/-- The limit in a column: a redirect as it is written, or a number. -/
def readBound (tool name column : String) : Except SchemaFault Bound :=
  if Redirect.isWritten column then .ok (.text column)
  else (readNumber tool name column).map fun
    | none => .unbounded
    | some value => .number value

/-- The default in a value column: a redirect as it is written, or a value of the type. -/
def readDefault (tool name : String) (type : ParameterType) (column : String) :
    Except SchemaFault Scalar :=
  if Redirect.isWritten column then .ok (.text column)
  else match type with
    | .boolean => .ok (.bool (column = "yes"))
    | .integer | .real => (readNumber tool name column).map fun
        | none => .null
        | some value => .number value
    | .string | .filename => .ok (if column = "" then .null else .text column)
    | .untyped _ => .ok .absent

/-- The constraint in the two limit columns: a list of options with bars between
them, or a range. -/
def readConstraint (tool name : String) (type : ParameterType) (low high : String) :
    Except SchemaFault (Option Constraint) :=
  if type = .boolean then .ok none
  else if low ≠ "" ∧ (Text.has '|' low ∨ type.isText) then
    .ok (some (.options (Text.split '|' low)))
  else if low ≠ "" ∨ high ≠ "" then do
    let lowBound ← readBound tool name low
    let highBound ← readBound tool name high
    .ok (some (.range lowBound highBound))
  else .ok none

/-- Whether a parameter only concerns how values are asked for. -/
def isHidden (name : String) : Option Constraint → Bool
  | some (.options choices) => name = "mode" || choices.length = 1
  | _ => name = "mode"

/-- The declaration in a line, if it declares a parameter. -/
def readLine (tool line : String) : Except SchemaFault (Option Declaration) := do
  let columns ← (Columns.split line).mapError .columns
  if columns.length < 4 then throw (.tooFewColumns tool line)
  let column (position : Nat) := columns.getD position ""
  let name := column 0
  let some type := ParameterType.ofColumn? (column 1)
    | throw (.unknownType tool line (column 1))
  let mode := column 2
  let constraint ← readConstraint tool name type (column 4) (column 5)
  if isHidden name constraint then
    if mode = "a" then throw (.hiddenRequired tool name)
    return none
  let default ← readDefault tool name type (column 3)
  return some
    { name, type, help := Text.trim (column 6), default, required := mode = "a", mode, constraint }

/-- The lines of a file that are neither blank nor comments, without the blanks
around them. -/
def contentLines (text : String) : List String :=
  ((Text.split '\n' text).map Text.trim).filter fun line =>
    line ≠ "" && !Text.startsWith line "#"

def readLines (tool : String) : List String → Except SchemaFault (List Declaration)
  | [] => .ok []
  | line :: rest => do
      let declaration ← readLine tool line
      let others ← readLines tool rest
      return declaration.toList ++ others

/-- The first name that stands a second time in a list. -/
def firstRepeated? : List String → List String → Option String
  | _, [] => none
  | seen, name :: rest =>
      if name ∈ seen then some name else firstRepeated? (name :: seen) rest

/-- The schema that a parameter file declares for a tool. -/
def read (tool text : String) (kind : ToolKind) : Except SchemaFault Schema := do
  let declarations ← readLines tool (contentLines text)
  let schema : Schema :=
    { name := tool, kind, executable := none,
      required := declarations.filter fun declaration => declaration.required,
      optional := declarations.filter fun declaration => !declaration.required }
  match firstRepeated? [] schema.names with
  | some name => throw (.duplicate tool name)
  | none => return schema

end ToolParams.Schema
