import ToolParams.Files.Fault
import ToolParams.Schema.Fault
import ToolParams.Store.Fault
import ToolParams.Text.Blank
import ToolParams.Text.Pieces

/-!
# Failures

Everything that can go wrong while the program works, by its cause.
-/

namespace ToolParams

/-- What is known about a run of a tool. -/
structure RunRecord where
  tool : String
  command : String
  arguments : List String
  /-- names and texts as they were handed to the tool -/
  parameters : List (String × String)
  exitCode : Option Number
  signal : Option String
  output : String
  /-- whether the tool came to an end, be it that it never started -/
  finished : Bool
deriving DecidableEq, Repr

/-- Why a private parameter directory was not entered or left. -/
inductive ScopeFault where
  | cannotCreate (location : String) (cause : FileFault)
  | missingSeed (seed pathVariable searched : String)
  | cannotPopulate (directory : String) (cause : FileFault)
  | notInnermost (directory : String)
deriving DecidableEq, Repr

/-- The text of a fault of a private directory. -/
def ScopeFault.message : ScopeFault → String
  | .cannotCreate location cause =>
      s!"Unable to create a parameter directory in {location}: {cause.message}"
  | .missingSeed seed pathVariable searched =>
      s!"Unable to find the {seed} parameter file in {pathVariable}={searched}"
  | .cannotPopulate directory cause =>
      s!"Unable to populate parameter directory {directory}: {cause.message}"
  | .notInnermost directory => s!"Parameter scopes must be exited innermost first ({directory})"

/-- What the text of a value is needed for. -/
inductive TextUse where
  | writing
  | comparing
deriving DecidableEq, Repr

/-- The text of a failure for want of a text. -/
def TextUse.message : TextUse → String
  | .writing =>
      "The \"string\" argument must be of type string or an instance of Buffer or ArrayBuffer. " ++
        "Received undefined"
  | .comparing => "Cannot read properties of undefined (reading 'replace')"

/-- A failure, by its cause. -/
inductive Failure where
  | store (fault : StoreFault)
  | schema (fault : SchemaFault)
  | file (fault : FileFault)
  | unwritable (path : String) (cause : FileFault)
  | unreadable (path : String) (cause : FileFault)
  | malformed (path : String) (cause : ColumnsFault)
  | execution (tool : String) (exitCode : Option Number) (output : String)
      (record : Option RunRecord)
  | scope (fault : ScopeFault)
  | settings (issues : List Issue)
  /-- the value of an untyped parameter has no text -/
  | textless (use : TextUse)
  | raised (message : String)
deriving DecidableEq, Repr

/-- The classes of the program's own failures. -/
inductive FailureClass where
  | unknownName
  | ambiguousName
  | validation
  | schema
  | write
  | read
  | execution
  | scope
deriving DecidableEq, Repr

namespace FailureClass

def name : FailureClass → String
  | .unknownName => "UnknownNameError"
  | .ambiguousName => "AmbiguousNameError"
  | .validation => "ValidationError"
  | .schema => "SchemaError"
  | .write => "WriteError"
  | .read => "ReadError"
  | .execution => "ToolExecutionError"
  | .scope => "ScopeError"

/-- The stable code that callers tell the classes apart by. -/
def code : FailureClass → String
  | .unknownName => "E_UNKNOWN_NAME"
  | .ambiguousName => "E_AMBIGUOUS_NAME"
  | .validation => "E_VALIDATION"
  | .schema => "E_SCHEMA"
  | .write => "E_WRITE"
  | .read => "E_READ"
  | .execution => "E_TOOL_EXEC"
  | .scope => "E_SCOPE"

theorem code_injective {left right : FailureClass} (same : left.code = right.code) :
    left = right := by
  revert same
  cases left <;> cases right <;> decide

end FailureClass

/-- The lines of an output, each behind a margin; blanks at the end are dropped. -/
def indent (margin output : String) : String :=
  "\n".intercalate ((Text.split '\n' (Text.trimEnd output)).map (margin ++ ·))

namespace Failure

/-- The output of a tool as a message shows it. -/
def outputDetail (output : String) : String :=
  if Text.trim output = "" then "  (no output)" else indent "  " output

/-- The text of a failure. -/
def message : Failure → String
  | .store fault => fault.message
  | .schema fault => fault.message
  | .file fault => fault.message
  | .unwritable path cause => s!"Unable to write parameter file {path}: {cause.message}"
  | .unreadable path cause => s!"Unable to read parameter file {path}: {cause.message}"
  | .malformed path cause => s!"Unable to read parameter file {path}: {cause.message}"
  | .execution tool _ output _ =>
      s!"An error occurred while running '{tool}':\n{outputDetail output}"
  | .scope fault => fault.message
  | .settings issues => Issue.report issues
  | .textless use => use.message
  | .raised message => message

/-- The class of a failure that is one of the program's own. -/
def class? : Failure → Option FailureClass
  | .store (.unknownName ..) => some .unknownName
  | .store (.ambiguousName ..) => some .ambiguousName
  | .store (.value _) => some .validation
  | .schema _ => some .schema
  | .unwritable .. => some .write
  | .unreadable .. => some .read
  | .malformed .. => some .read
  | .execution .. => some .execution
  | .scope _ => some .scope
  | .file _ | .settings _ | .textless _ | .raised _ => none

/-- What a failure is called: its class, or what the runtime calls a failure of its own. -/
def name : Failure → String
  | .file fault => fault.code
  | .settings _ => "ZodError"
  | .textless .writing => "ERR_INVALID_ARG_TYPE"
  | .textless .comparing => "TypeError"
  | failure => failure.class?.elim "Error" FailureClass.name

end Failure

end ToolParams
