import ToolParams.OrderedMap
import ToolParams.ParameterFile.Columns
import ToolParams.Parameter.Value
import ToolParams.Schema.Reader

/-!
# What a parameter file says

The contents of a file are the value columns of its lines by name; the last line
of a name counts.  Redirects among them can be followed within the file.
-/

namespace ToolParams.ParameterFile

/-- Value columns by name. -/
abbrev Contents := OrderedMap String String

/-- The contents after one more line, given by its columns. -/
def addColumns (contents : Contents) (columns : List String) : Contents :=
  let name := columns.getD 0 ""
  if name = "" then contents else contents.insert name (columns.getD 3 "")

def addLines (contents : Contents) : List String → Except ColumnsFault Contents
  | [] => .ok contents
  | line :: rest => do addLines (addColumns contents (← Columns.split line)) rest

def contents (text : String) : Except ColumnsFault Contents :=
  addLines .empty (Schema.contentLines text)

/-- The text that redirects within a file lead to.  The walk stops at a name that
the file does not have or that was passed before, and then gives the redirect. -/
def followText (contents : Contents) : Nat → List String → String → String
  | 0, _, text => text
  | steps + 1, seen, text =>
      if Redirect.isWritten text then
        let target := Redirect.target text
        match contents.get? target with
        | none => text
        | some next =>
            if target ∈ seen then text else followText contents steps (target :: seen) next
      else text

/-- The text that redirects within a file lead to; each step passes another name,
so there are no more steps than names. -/
def follow (contents : Contents) (text : String) : String :=
  followText contents (contents.size + 1) [] text

end ToolParams.ParameterFile
