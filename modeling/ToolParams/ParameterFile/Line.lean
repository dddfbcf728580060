import ToolParams.Parameter.Declaration
import ToolParams.ParameterFile.Columns

/-!
# Writing parameter lines

A parameter is written as `name,type,mode,value,min,max,"help"`.  Values of text
parameters are quoted, other values stand bare.  The last line of a file sets
the mode in which a tool never asks for values.
-/

namespace ToolParams.ParameterFile

/-- The mode in which a tool does not ask for values. -/
def silentMode : String := "hl"

/-- The last line of a parameter file. -/
def modeLine : String := s!"mode,s,h,\"{silentMode}\",,,"

/-- The mark of a value that names a stack file. -/
def stackMark : String := "@-"

/-- The text of a value in a file, without quotes.  A redirect has a text whatever
the type is, a value of an untyped parameter has none. -/
def valueText? (declaration : Declaration) : Stored → Option String
  | .redirect target => some (Redirect.write target)
  | .literal value =>
      match declaration.type, value with
      | .untyped _, _ => none
      | .boolean, value => some (if value = .bool true then "yes" else "no")
      | .integer, .null => some "INDEF"
      | .real, .null => some "INDEF"
      | _, .null => some ""
      | _, value => some value.shown

/-- The text of a limit. -/
def boundText : Bound → String
  | .unbounded => ""
  | .number value => value.text
  | .text written => written

def limitColumns : Option Constraint → String × String
  | none => ("", "")
  | some (.options choices) => ("|".intercalate choices, "")
  | some (.range low high) => (boundText low, boundText high)

/-- The mode column; an empty one is written by whether the parameter is required. -/
def modeColumn (declaration : Declaration) : String :=
  if declaration.mode = "" then (if declaration.required then "a" else "h")
  else declaration.mode

/-- The line of a parameter whose value has the given text. -/
def line (declaration : Declaration) (text : String) : String :=
  let (low, high) := limitColumns declaration.constraint
  let value := if declaration.type.isText then Columns.quote text else text
  let help := if declaration.help = "" then "" else Columns.quote declaration.help
  Columns.join
    [declaration.name, declaration.type.letter, modeColumn declaration, value, low, high, help]

end ToolParams.ParameterFile
