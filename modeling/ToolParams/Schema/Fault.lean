import ToolParams.Issue
import ToolParams.ParameterFile.Columns

/-!
# Faults of schemas

What can be wrong with a parameter file as a declaration of parameters, with a
registry of tools, or with a request for a tool.
-/

namespace ToolParams

/-- A fault of a schema or of a request for one. -/
inductive SchemaFault where
  | columns (fault : ColumnsFault)
  | tooFewColumns (tool line : String)
  | badNumber (tool name written : String)
  | unknownType (tool line column : String)
  | hiddenRequired (tool name : String)
  | duplicate (tool name : String)
  | unknownTool (name : String)
  | notRunnable (tool : String)
  | unreadable (path reason : String)
  | malformed (path : String)
  | invalid (path : String) (issues : List Issue)
deriving DecidableEq, Repr

/-- The text of a fault of a schema. -/
def SchemaFault.message : SchemaFault → String
  | .columns fault => fault.message
  | .tooFewColumns tool line => s!"Unable to process parameter line '{line}' for {tool}"
  | .badNumber tool name written => s!"Invalid number '{written}' for {tool}.{name}"
  | .unknownType tool line column => s!"Unknown parameter type '{column}' in '{line}' for {tool}"
  | .hiddenRequired tool name =>
      s!"Found a required parameter that is to be skipped: {tool}.{name}"
  | .duplicate tool name => s!"Duplicate parameter {tool}.{name}"
  | .unknownTool name => s!"Unknown tool '{name}'"
  | .notRunnable tool => s!"{tool} is a parameter file, not a tool, and can not be run"
  | .unreadable path reason => s!"Unable to read schema registry {path}: {reason}"
  | .malformed path => s!"Invalid JSON in schema registry {path}: the text is no JSON document"
  | .invalid path issues => s!"Invalid schema registry {path}: {Issue.report issues}"

end ToolParams
