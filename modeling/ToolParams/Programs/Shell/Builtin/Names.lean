import ToolParams.Programs.Executable
import ToolParams.Programs.Shell.Builtin.Basic
import ToolParams.Programs.Shell.Token

/-!
# Commands for the names of commands

What a name of a command stands for: a keyword, a function, a command of the shell or a
program.
-/

namespace ToolParams.Shell

/-- The commands of the shell that are special: their faults end a script. -/
def specialCommands : List String :=
  [".", ":", "break", "continue", "eval", "exec", "exit", "export", "local", "readonly",
    "return", "set", "shift", "trap", "unset"]

/-- The other commands of the shell. -/
def regularCommands : List String :=
  ["[", "cd", "chdir", "command", "echo", "false", "kill", "printf", "pwd", "read", "test",
    "true", "type", "wait"]

def State.searchPath (state : State) : String :=
  (state.value? "PATH").getD ""

/-- The search path that finds the programs of the system. -/
def systemPath : String := "/usr/sbin:/usr/bin:/sbin:/bin"

/-- The path of the program that a search path has for a name, or why there is none. -/
def findProgram (files : FileTree) (searchPath name : String) : Except FileCause String :=
  let candidates := (Text.split ':' searchPath).map fun directory =>
    if directory = "" then name else directory ++ "/" ++ name
  let runs (path : String) : Option Bool :=
    match files.lookup path with
    | .ok (.file _ mode) => some (FileTree.isRunnable mode)
    | .ok _ => some false
    | .error _ => none
  match candidates.find? fun path => runs path = some true with
  | some path => .ok path
  | none => .error (if candidates.any fun path => (runs path).isSome then .denied else .notFound)

/-- Why a program cannot be started, for a complaint. -/
def startReason : FileCause → String
  | .notFound | .notDirectory => "not found"
  | cause => cause.sentence

def startStatus : FileCause → Nat
  | .notFound | .notDirectory | .tooManyLinks | .nameTooLong => 127
  | _ => 126

namespace Builtin

/-- What a name of a command stands for, in a sentence or in short; nothing, if it stands for
nothing. -/
def description? (state : State) (searchPath : Option String) (verbose : Bool) (name : String) :
    Option String :=
  let told (story : String) : Option String := some (if verbose then s!"{name} {story}" else name)
  let ofPath (path : String) : String := if verbose then s!"{name} is {path}" else path
  if keywords.contains name then told "is a shell keyword"
  else if Text.has '/' name then
    match state.files.lookup name with
    | .ok (.file _ mode) => if FileTree.isRunnable mode then some (ofPath name) else none
    | _ => none
  else if state.functions.contains name then told "is a shell function"
  else if specialCommands.contains name then told "is a special shell builtin"
  else if regularCommands.contains name then told "is a shell builtin"
  else (findProgram state.files (searchPath.getD state.searchPath) name).toOption.map ofPath

/-- Tells what a name of a command stands for. -/
def describe (searchPath : Option String) (verbose : Bool) (name : String) : Act Unit := do
  match description? (← get) searchPath verbose name with
  | some text => say (text ++ "\n")
  | none =>
      if verbose then say s!"{name}: not found\n"
      Act.report 127

/-- Tells what names of commands stand for. -/
def type : Builtin := fun names => do
  Act.report 0
  for name in names do
    describe none true name

/-- Tells what one name of a command stands for; running it is not the work of this command. -/
def command : Builtin :=
  withOptions "pvV" fun options names => do
    Act.report 0
    let searchPath := if options.any (·.1 = 'p') then some systemPath else none
    match (options.filter (·.1 ≠ 'p')).getLast?, names with
    | some (letter, _), name :: _ => describe searchPath (letter = 'V') name
    | _, _ => return ()

end Builtin

end ToolParams.Shell
