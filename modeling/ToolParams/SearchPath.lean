import ToolParams.Text.Blank
import ToolParams.Text.Pieces

/-!
# Search paths

Parameter files are looked for in private directories first and then in those of
the system.  A search path is written with colons between the directories of a
part and a semicolon between the parts; without a semicolon all directories
belong to the system.
-/

namespace ToolParams

/-- The directories in which parameter files are looked for. -/
structure SearchPath where
  user : List String
  system : List String
deriving DecidableEq, Repr

namespace SearchPath

/-- The directories of a part, without blanks around them and without empty ones. -/
def directories (part : String) : List String :=
  ((Text.split ':' part).map Text.trim).filter (· ≠ "")

def read (text : String) : SearchPath :=
  match Text.cut? ';' text with
  | none => { user := [], system := directories text }
  | some (user, system) => { user := directories user, system := directories system }

def ofVariable (value : Option String) : SearchPath :=
  read (value.getD "")

def write (path : SearchPath) : String :=
  ":".intercalate path.user ++ ";" ++ ":".intercalate path.system

end SearchPath

end ToolParams
