import ToolParams.Json.Reader
import ToolParams.ParameterFile.Naming
import ToolParams.Registry.Document
import ToolParams.Schema.Reader
import ToolParams.World

/-!
# The registry of tools

The registry holds the schemas of tools by name.  Tools are registered one after
another, so those in front of a faulty one stay registered.
-/

namespace ToolParams

/-- The schemas of tools by name. -/
structure Registry where
  tools : OrderedMap String Schema
deriving DecidableEq, Repr

namespace Registry

/-- The registry without tools. -/
def empty : Registry := ⟨.empty⟩

/-- Registers a tool, in place of one with its name. -/
def register (registry : Registry) (schema : Schema) : Registry :=
  ⟨registry.tools.insert schema.name schema⟩

def has (registry : Registry) (name : String) : Bool :=
  registry.tools.contains name

def get (registry : Registry) (name : String) : Except SchemaFault Schema :=
  match registry.tools.get? name with
  | some schema => .ok schema
  | none => .error (.unknownTool name)

/-- The names of the tools, sorted. -/
def list (registry : Registry) : List String :=
  Text.sortByUnits registry.tools.keys

def schemaOf (name : String) (entry : ToolEntry) : Except SchemaFault Schema := do
  let schema ← Schema.read name ("\n".intercalate entry.lines) entry.kind
  return { schema with executable := entry.executable.filter (· ≠ "") }

def add (schema : Schema) : Action Registry Unit := do
  Action.putState ((← Action.state).register schema)

/-- Registers the tools of a registry document. -/
def addAll : List (String × ToolEntry) → Action Registry Unit
  | [] => return ()
  | (name, entry) :: rest => do
      add (← Action.lift .schema (schemaOf name entry))
      addAll rest

/-- Registers the tools of a file with a registry document. -/
def loadDocument (path : String) : Action Registry Unit := do
  let text ← Action.look (fun fault => .schema (.unreadable path fault.message)) (·.read path)
  match Json.read? text with
  | none => throw (.schema (.malformed path))
  | some document =>
      match Document.check document with
      | .error issues => throw (.schema (.invalid path issues))
      | .ok tools => addAll tools

/-- Registers the tools of parameter files in a directory. -/
def loadFiles (directory : String) (kind : ToolKind) : List String → Action Registry (List String)
  | [] => return []
  | fileName :: rest => do
      let tool := ParameterFile.toolOf fileName
      let text ← Action.look .file (·.read (Path.join directory fileName))
      add (← Action.lift .schema (Schema.read tool text kind))
      let others ← loadFiles directory kind rest
      return tool :: others

/-- Registers the tool of every parameter file in a directory; gives their names. -/
def loadDirectory (directory : String) (kind : ToolKind) : Action Registry (List String) := do
  let names ← Action.look .file (·.names directory)
  loadFiles directory kind (ParameterFile.select names)

end Registry

end ToolParams
