import ToolParams.Programs.Shell.Builtin.Names

/-!
# Commands for the course of a script

Leaving loops, functions and scripts, running texts and files as commands, and moving to
other directories.
-/

namespace ToolParams.Shell.Builtin

/-- Ends the script. -/
def exit : Builtin := fun arguments => do
  match arguments with
  | argument :: _ =>
      let status ← number argument
      Act.report status
      modify fun state => { state with savedStatus := some state.status }
  | [] => modify fun state => { state with status := state.savedStatus.getD state.status }
  throw .exit

/-- Ends the function or the file that runs. -/
def return_ : Builtin := fun arguments => do
  match arguments with
  | argument :: _ =>
      let status ← number argument
      modify fun state => { state with status }
  | [] => pure ()
  throw .returned

/-- Ends loops, or only their current round. -/
def leave (again : Bool) : Builtin := fun arguments => do
  let count ← match arguments with
    | argument :: _ => number argument
    | [] => pure 1
  if count = 0 then
    let given := arguments.headD ""
    Act.fail s!"Illegal number: {given}"
  Act.report 0
  let count := min count (← get).loops
  if count ≠ 0 then throw (.leave count again)

/-- Runs arguments as commands. -/
def eval (perform : Performer) (manner : Manner) : Builtin := fun arguments => do
  if arguments.isEmpty then Act.report 0
  else perform (.text (" ".intercalate arguments) { manner with final := false })

/-- The path of a file of commands. -/
def findSource (name : String) : Act String := do
  if Text.has '/' name then return name
  let state ← get
  let candidates := (Text.split ':' state.searchPath).map fun directory =>
    if directory = "" then name else directory ++ "/" ++ name
  let isFile (path : String) : Bool :=
    match state.files.lookup path with
    | .ok (.file ..) => true
    | _ => false
  match candidates.find? isFile with
  | some path => return path
  | none => Act.fail s!"{name}: not found"

/-- Runs a file as commands of the script. -/
def source (perform : Performer) (manner : Manner) : Builtin :=
  withOptions "" fun _ arguments => do
    match arguments with
    | [] => Act.report 0
    | name :: _ =>
        let path ← findSource name
        match (← get).files.read path with
        | .error fault =>
            Act.fail s!"cannot open {path}: {Opener.reason .reading fault.cause}"
        | .ok text =>
            modify fun state => { state with speaking := some path }
            match ← Act.outcome (perform (.text text { manner with final := false })) with
            | .error .returned => return ()
            | result => Act.resume result

/-- The path that leads from the working directory along another one, links not looked at. -/
def logicalPath (directory path : String) : String :=
  let whole := if Path.isAbsolute path then path else directory ++ "/" ++ path
  let normal := Path.normalize whole
  if normal ≠ "/" && Text.endsWith normal "/" then Text.dropEnd 1 normal else normal

/-- Moves to a directory; says whether that was possible. -/
def moveTo (physical : Bool) (path : String) : Act Bool := do
  let state ← get
  let logical := logicalPath state.directory path
  let target := if physical then path else logical
  match state.files.locate target .followed with
  | .error _ => return false
  | .ok place =>
      if !state.files.isSearchable place then return false
      let directory := if physical then "/" ++ "/".intercalate place else logical
      set { state.withFiles { state.files with here := place } with directory }
      Act.assign "OLDPWD" state.directory
      Act.assign "PWD" directory
      modify fun state => { state with
        bindings := ["OLDPWD", "PWD"].foldl (fun bindings name =>
          match bindings.get? name with
          | some binding => bindings.insert name { binding with exported := true }
          | none => bindings) state.bindings }
      return true

/-- The directories in which a relative path is looked for. -/
def startingPoints (state : State) (path : String) : List String :=
  let direct := Path.isAbsolute path || ["." , ".."].contains ((Path.steps path).headD "")
  match state.value? "CDPATH" with
  | some directories => if direct then [] else Text.split ':' directories
  | none => []

/-- Moves to another directory. -/
def cd : Builtin :=
  withOptions "LP" fun options arguments => do
    Act.report 0
    let physical := options.getLast?.any (·.1 = 'P')
    let state ← get
    let returns := arguments.head? = some "-"
    let path := match arguments with
      | [] => (state.value? "HOME").getD ""
      | "-" :: _ => (state.value? "OLDPWD").getD ""
      | path :: _ => path
    let candidates := (startingPoints state path).filterMap fun directory =>
      let candidate := if directory = "" then path else directory ++ "/" ++ path
      match state.files.lookup candidate with
      | .ok (.directory _) => some (candidate, decide (directory ≠ ""))
      | _ => none
    let (target, found) := candidates.headD (if path = "" then "." else path, false)
    if ← moveTo physical target then
      if returns || found then say ((← get).directory ++ "\n")
    else Act.fail s!"can't cd to {path}"

/-- The path of the working directory without links. -/
def physicalDirectory (state : State) : String := "/" ++ "/".intercalate state.files.here

/-- Writes the path of the working directory. -/
def pwd : Builtin :=
  withOptions "LP" fun options _ => do
    let state ← get
    let physical := options.getLast?.any (·.1 = 'P')
    say ((if physical then physicalDirectory state else state.directory) ++ "\n")
    Act.report 0

end ToolParams.Shell.Builtin
