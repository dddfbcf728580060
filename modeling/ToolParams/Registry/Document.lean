import ToolParams.Issue
import ToolParams.Parameter.Declaration

/-!
# Registry documents

A registry document is an object whose member `tools` gives each tool by its name:
how it takes its parameters, which program it is, and the lines of its parameter
file.  A document is checked as a whole before any of it counts.
-/

namespace ToolParams

/-- A tool in a registry document. -/
structure ToolEntry where
  kind : ToolKind
  /-- an empty text names no program -/
  executable : Option String
  lines : List String
deriving DecidableEq, Repr

namespace ToolKind

/-- The names of the kinds of tools. -/
def names : List String := ["parfile", "direct", "paramonly"]

def name : ToolKind → String
  | .parameterFile => "parfile"
  | .direct => "direct"
  | .parametersOnly => "paramonly"

def ofName? (name : String) : Option ToolKind :=
  [parameterFile, direct, parametersOnly].find? fun kind => kind.name = name

end ToolKind

namespace Registry.Document

/-- The result of a check: a value, or the issues that speak against it. -/
abbrev Checked (α : Type) := Except (List Issue) α

/-- Combines two checks; the issues of both are reported. -/
def both {α β γ : Type} (join : α → β → γ) : Checked α → Checked β → Checked γ
  | .ok first, .ok second => .ok (join first second)
  | .ok _, .error issues => .error issues
  | .error issues, .ok _ => .error issues
  | .error first, .error second => .error (first ++ second)

def wrongType {α : Type} (expected : String) (found : Option Json) (path : List Issue.Step) :
    Checked α :=
  .error [.wrongType expected (Issue.kindName found) path]

/-- Checks the kind of a tool; a missing one is that of tools with a parameter file. -/
def checkKind (path : List Issue.Step) : Option Json → Checked ToolKind
  | none => .ok .parameterFile
  | some (.text name) =>
      match ToolKind.ofName? name with
      | some kind => .ok kind
      | none => .error [.notAmong name ToolKind.names path]
  | found => .error [.notText ToolKind.names (Issue.kindName found) path]

/-- Checks the name of a program, which may be missing. -/
def checkExecutable (path : List Issue.Step) : Option Json → Checked (Option String)
  | none => .ok none
  | some (.text name) => if name = "" then .error [.emptyText path] else .ok (some name)
  | found => wrongType "string" found path

/-- Checks the lines of a parameter file, counted from a position. -/
def checkItems (path : List Issue.Step) : Nat → List Json → Checked (List String)
  | _, [] => .ok []
  | position, item :: rest =>
      let line := match item with
        | .text line => .ok line
        | other => wrongType "string" (some other) (path ++ [.index position])
      both List.cons line (checkItems path (position + 1) rest)

def checkLines (path : List Issue.Step) : Option Json → Checked (List String)
  | some (.array items) => checkItems path 0 items
  | found => wrongType "array" found path

/-- Checks a tool. -/
def checkTool (path : List Issue.Step) : Json → Checked ToolEntry
  | .object members =>
      let member (name : String) := OrderedMap.lookup name members
      let place (name : String) := path ++ [Issue.Step.key name]
      both (fun (kind, executable) lines => { kind, executable, lines })
        (both Prod.mk (checkKind (place "kind") (member "kind"))
          (checkExecutable (place "executable") (member "executable")))
        (checkLines (place "lines") (member "lines"))
  | found => wrongType "object" (some found) path

/-- The name that no tool can have: its entry is checked and then left out. -/
def droppedName : String := "__proto__"

def checkTools (path : List Issue.Step) :
    List (String × Json) → Checked (List (String × ToolEntry))
  | [] => .ok []
  | (name, value) :: rest =>
      both (fun entry others => if name = droppedName then others else (name, entry) :: others)
        (checkTool (path ++ [.key name]) value) (checkTools path rest)

/-- Checks a whole document; gives its tools in the order of its members. -/
def check (document : Json) : Checked (List (String × ToolEntry)) :=
  match document with
  | .object members =>
      let path := [Issue.Step.key "tools"]
      match OrderedMap.lookup "tools" members with
      | some (.object tools) => checkTools path tools
      | found => wrongType "object" found path
  | found => wrongType "object" (some found) []

end Registry.Document

end ToolParams
