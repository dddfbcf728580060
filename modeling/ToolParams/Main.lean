import Std.Time.DateTime.Timestamp
import ToolParams.CommandLine
import ToolParams.Journal.Moment
import ToolParams.Programs
import ToolParams.Registry.Bundled

/-!
# The program

Reads the environment and the files that the settings name, performs the command,
prints the report, and writes the files that changed.
-/

namespace ToolParams.Main

/-- Where the registry that comes with the program is. -/
def bundledPath : String := "/usr/share/toolparams/schemas.json"

/-- The file in which the system keeps the variables of the process. -/
def environmentFile : String := "/proc/self/environ"

/-- The variables of the process. -/
def readEnvironment : IO Environment := do
  let text ← try IO.FS.readFile environmentFile catch _ => pure ""
  let settings := (Text.split '\x00' text).filterMap (Text.cut? '=')
  return .ofList settings

/-- Puts a file at a path; one that begins like a script may be run. -/
def put (path content : String) (files : FileTree) : FileTree :=
  let isScript := Text.startsWith content "#!"
  (files.put path content (if isScript then some FileTree.directoryMode else none)).2

/-- Reads a file, if it is there. -/
def readFile (files : FileTree) (path : String) : IO FileTree := do
  try return put path (← IO.FS.readFile path) files catch _ => return files

/-- Reads the files of a directory, if it is there. -/
def readDirectory (files : FileTree) (path : String) : IO FileTree := do
  try
    let mut found := (files.makeDirectories path).2
    for entry in ← (← IO.FS.realPath path).readDir do
      found ← readFile found (Path.join path entry.fileName)
    return found
  catch _ => return files

/-- Reads what the settings name. -/
def readNamed (settings : Settings) (files : FileTree) : IO FileTree := do
  let mut files ← readFile files settings.registry
  for directory in [some settings.scratch, settings.programs, settings.parameterFiles] do
    if let some path := directory then files ← readDirectory files path
  return files

def now : IO Moment := do
  return ⟨(← Std.Time.Timestamp.now).toMillisecondsSinceUnixEpoch.toInt.toNat⟩

/-- The world as the program finds it.  Fresh names count on from the time, so that
two runs do not share one. -/
def readWorld : IO World := do
  let directory := toString (← IO.currentDir)
  let base := put bundledPath Registry.bundledDocument (Programs.install .empty)
  let base := (base.makeDirectories directory).2
  let base := { base with here := (Path.steps directory).filter (· ≠ "") }
  let world := { World.empty with
    files := ← readFile (← readFile base CommandLine.variableFile) CommandLine.vaultFile
    environment := ← readEnvironment
    namesGiven := (← now).milliseconds }
  let bindings := (CommandLine.withVariables world).1.toOption.getD world.environment
  match Settings.load bundledPath (Settings.temporaryDirectory bindings) bindings with
  | .ok settings => return { world with files := ← readNamed settings world.files }
  | .error _ => return world

/-- Writes the files that differ from what was read, and removes those that are gone. -/
def writeChanges (before after : FileTree) : IO Unit := do
  for (place, node) in after.nodes.toList do
    if before.node? place ≠ some node then
      let path := "/" ++ "/".intercalate place
      match node with
      | .file content _ => IO.FS.writeFile path content
      | .directory _ => IO.FS.createDirAll path
      | .link _ => pure ()
  for (place, node) in before.nodes.toList do
    if (after.node? place).isNone then
      match node with
      | .file .. => IO.FS.removeFile ("/" ++ "/".intercalate place)
      | _ => pure ()

/-- Prints a report and gives the code that ends the program. -/
def printReport (report : CommandLine.Report) : IO UInt32 := do
  let time := (← now).text
  for entry in report.entries do
    IO.eprintln (entry.line time)
  if let some message := report.complaint then IO.eprintln message
  IO.print report.output
  return report.exitCode.toUInt32

def perform (words : List String) : IO UInt32 := do
  let world ← readWorld
  let (report, final) := CommandLine.run Programs.launcher bundledPath words world
  writeChanges world.files final.files
  printReport report

end ToolParams.Main

/-- The program. -/
def main (words : List String) : IO UInt32 :=
  ToolParams.Main.perform words
