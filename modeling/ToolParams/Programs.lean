import ToolParams.Programs.Shell.Starting
import ToolParams.World

/-!
# Starting programs

A program is started in a directory and runs to its end, or until it is stopped.
What it writes to its two streams is one text.  It cannot be started if its
directory or its file is missing or not what it has to be.
-/

namespace ToolParams.Programs

def firstProcess : Nat := 4242

def startingProcess : Nat := 4200

/-- The bytes that a word for a program may have. -/
def longestWord : Nat := 131071

/-- The fault of a start.  Only the two most common causes tell the command. -/
def startFault (command : String) (cause : FileCause) : FileFault :=
  if cause = .notFound ∨ cause = .denied then .onStart cause (some command)
  else .onStart cause none

/-- The texts of a start that may not hold a null character, each with the name by which it
is told and whether it is a path. -/
def guardedTexts (request : LaunchRequest) : List (String × Bool × String) :=
  let arguments := request.arguments.zipIdx.map fun (argument, index) =>
    (s!"args[{index}]", false, argument)
  let directory := request.directory.toList.map fun path => ("options.cwd", true, path)
  let bindings := request.environment.toList.flatMap fun (name, value) =>
    let label := "options.env['" ++ name ++ "']"
    [(label, false, name), (label, false, value)]
  arguments ++ directory ++ bindings

/-- Refuses words that no program can be given. -/
def checkWords (request : LaunchRequest) : Except FileFault Unit := do
  if Text.has '\x00' request.command then throw (.holdsNull "file" false request.command)
  if request.command = "" then throw .noCommand
  match (guardedTexts request).find? fun (_, _, text) => Text.has '\x00' text with
  | some (label, isPath, text) => throw (.holdsNull label isPath text)
  | none => return ()

/-- Whether a word is longer than the system lets it be. -/
def hasLongWord (request : LaunchRequest) : Bool :=
  (request.command :: request.arguments).any (fun word => longestWord < word.utf8ByteSize) ||
    request.environment.toList.any fun (name, value) =>
      longestWord < name.utf8ByteSize + value.utf8ByteSize + 1

/-- The files seen from the directory that a program is started in. -/
def enter (directory : Option String) (files : FileTree) : Except FileCause FileTree :=
  match directory with
  | none | some "" => .ok files
  | some path => do
      let place ← files.locate path .followed
      match files.node? place with
      | some (.directory mode) =>
          if FileTree.isRunnable mode then return { files with here := place } else throw .denied
      | some _ => throw .notDirectory
      | none => throw .notFound

def microseconds : Number → Nat
  | .finite false magnitude => magnitude.units * 1000 / Magnitude.unitsPerOne
  | _ => 0

/-- How a program that was asked to end ended. -/
def terminated (output : String) : Completion :=
  { code := none, signal := some (Signal.name Signal.terminate), output }

/-- The state in which the first program runs. -/
def initialState (request : LaunchRequest) (environment : Environment) (files : FileTree) :
    Shell.State :=
  let machine : Machine :=
    { files
      openings := #[⟨.nothing, 0, false⟩, ⟨.outside, 0, false⟩]
      uttered := []
      nextProcess := firstProcess + 1
      signals := []
      endings := [] }
  let state : Shell.State :=
    { machine
      time := 0
      deadline := match request.abort with
        | some (.after time) => some (microseconds time)
        | _ => none
      process := firstProcess
      shell := firstProcess
      ancestors := [startingProcess]
      descriptors := [(0, 0), (1, 1), (2, 1)]
      mask := 0o022
      bindings := .empty
      inRows := false
      functions := .empty
      arguments := []
      name := ""
      directory := "/" ++ "/".intercalate files.here
      line := 0
      speaking := none
      status := 0
      substituted := 0
      options := []
      loops := 0
      calls := 0
      frames := []
      traps := []
      savedStatus := none
      lastJob := none
      jobs := []
      patience := 5000000 }
  state.withEnvironment environment

/-- How the first program ended, and what was written in the end. -/
def completion (result : Except Shell.Jump Unit) (final : Shell.State) : Completion :=
  let stopped := final.deadline.filter (· ≤ final.time)
  let machine := match stopped with
    | some moment => final.machine.silence firstProcess moment
    | none => final.machine
  let output := Octets.read (String.join (machine.inTime.map (·.text)))
  match result, stopped with
  | .error (.killed signal), _ => { code := none, signal := some (Signal.name signal), output }
  | _, some _ | .error .stopped, _ => terminated output
  | _, none => { code := some (.ofNat (final.status % 256)), signal := none, output }

/-- Starts a program that was found, in the place of the first process. -/
def run (words : List String) (state : Shell.State) : Except Shell.Jump Unit × Shell.State :=
  let perform := Shell.performer Shell.depthLimit
  let body : Shell.Act Unit := do
    let _ ← Shell.launch perform Shell.mostStarters words
    Shell.Act.attend perform
  (ExceptT.run body).run state

/-- Starts a program and waits for its end. -/
def start (request : LaunchRequest) (files : FileTree) :
    Except FileFault Completion × FileTree :=
  match checkWords request with
  | .error fault => (.error fault, files)
  | .ok () =>
      let spelled := files.mapTexts Octets.spell
      let words := (request.command :: request.arguments).map Octets.spell
      let environment : Environment :=
        ⟨request.environment.toList.map fun (name, value) =>
          (Octets.spell name, Octets.spell value)⟩
      let found : Except FileCause FileTree := do
        let entered ← enter (request.directory.map Octets.spell) spelled
        if hasLongWord request then throw .wordTooLong
        let _ ← find entered (environment.get? "PATH") words
        return entered
      match found with
      | .error cause => (.error (startFault request.command cause), files)
      | .ok entered =>
          if request.abort = some .atOnce then (.ok (terminated ""), files)
          else
            let (result, final) := run words (initialState request environment entered)
            let left := final.files.mapTexts Octets.read
            (.ok (completion result final), { left with here := files.here })

/-- Starts programs for the tools. -/
def launcher : Launcher := fun request files =>
  let (result, files) := start request files
  (result.mapError FileFault.message, files)

end ToolParams.Programs
