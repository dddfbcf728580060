import ToolParams.Programs.Executable
import ToolParams.Programs.Utility.Calculating
import ToolParams.Programs.Utility.Columns
import ToolParams.Programs.Utility.Editing
import ToolParams.Programs.Utility.Keeping
import ToolParams.Programs.Utility.Listing
import ToolParams.Programs.Utility.Matching
import ToolParams.Programs.Utility.Printing
import ToolParams.Programs.Utility.Replacing
import ToolParams.Programs.Utility.Sorting
import ToolParams.Programs.Utility.Telling
import ToolParams.Programs.Utility.Viewing

/-!
# The programs of the system

The small programs that can be started by name, and those that start others.
-/

namespace ToolParams.Programs

/-- The utilities that do their work alone, by name. -/
def utilities : List (String × Utility) :=
  [("true", fun _ => Work.finish 0),
    ("false", fun _ => Work.finish 1),
    ("echo", Printing.echo),
    ("printf", Printing.printf .system),
    ("cat", Viewing.cat),
    ("head", Viewing.head),
    ("tail", Viewing.tail),
    ("wc", Viewing.wc),
    ("cut", Columns.cut),
    ("tr", Replacing.tr),
    ("sort", Sorting.sort),
    ("uniq", Sorting.uniq),
    ("grep", Matching.grep .basic),
    ("sed", Editing.sed),
    ("expr", Calculating.expr),
    ("seq", Calculating.seq),
    ("rm", Keeping.rm),
    ("rmdir", Keeping.rmdir),
    ("mkdir", Keeping.mkdir),
    ("touch", Keeping.touch),
    ("chmod", Keeping.chmod),
    ("mv", Keeping.mv),
    ("cp", Keeping.cp),
    ("ln", Keeping.ln),
    ("tee", Keeping.tee),
    ("ls", Listing.ls),
    ("readlink", Listing.readlink),
    ("pwd", Telling.pwd),
    ("basename", Telling.basename),
    ("dirname", Telling.dirname),
    ("sleep", Telling.sleep),
    ("printenv", Telling.printenv)]

/-- The programs that start other programs. -/
def starters : List String := ["sh", "dash", "bash", "env"]

/-- The files with the programs of the system. -/
def install (files : FileTree) : FileTree :=
  installNamed (utilities.map (·.1) ++ starters) files

end ToolParams.Programs
