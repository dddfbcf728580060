import ToolParams.Text.Pieces
import ToolParams.Text.Units

/-!
# Names of parameter files

The parameter file of a tool is named for the tool.
-/

namespace ToolParams.ParameterFile

/-- The ending of parameter files. -/
def ending : String := ".par"

def fileName (tool : String) : String := tool ++ ending

def toolOf (fileName : String) : String :=
  Text.dropEnd ending.toList.length fileName

/-- The names of parameter files among some names, in order. -/
def select (names : List String) : List String :=
  Text.sortByUnits (names.filter (Text.endsWith · ending))

end ToolParams.ParameterFile
