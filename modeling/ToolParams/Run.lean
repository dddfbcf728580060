import ToolParams.FreshName
import ToolParams.ParameterFile.Exchange
import ToolParams.ParameterFile.Naming

/-!
# Running tools

A run binds its arguments to a store, writes the store to a fresh parameter file,
starts the tool on it, and reads the file back when the tool succeeds.  A run
that fails leaves the store as it was, and the files it made are removed in any
case.
-/

namespace ToolParams

/-- What a run is asked to do. -/
structure RunOptions where
  /-- values for parameters in the order of their declarations -/
  arguments : List Input
  /-- values by name -/
  parameters : List (String × Input)
  /-- the variables that the tool sees, unless they are those of the program -/
  environment : Option Environment
  directory : Option String
  abort : Option Abort
deriving DecidableEq, Repr

def RunOptions.none : RunOptions :=
  { arguments := [], parameters := [], environment := .none, directory := .none, abort := .none }

/-- What a successful run gives. -/
structure RunResult where
  /-- the output without blanks around it, if there is any -/
  output : Option String
  record : RunRecord
deriving DecidableEq, Repr

/-- How tools are run. -/
structure Runner where
  /-- where the programs are; otherwise they are looked for along the path -/
  programs : Option String
  /-- where parameter files are written -/
  scratch : String
  limit : Number
  /-- whether a file is held against the store before the tool starts -/
  verify : Bool
deriving DecidableEq, Repr

/-- The stages of a run. -/
inductive RunStage where
  | idle
  | bound
  | written
  | running
  | reread
  | failed
deriving DecidableEq, Repr

/-- The name of a stage. -/
def RunStage.name : RunStage → String
  | .idle => "idle"
  | .bound => "arguments_bound"
  | .written => "config_written"
  | .running => "process_running"
  | .reread => "config_reread"
  | .failed => "failed"

namespace Runner

/-- The argument that keeps a tool from asking for values. -/
def silentArgument : String := "mode=h"

/-- The program of a tool. -/
def command (runner : Runner) (schema : Schema) : String :=
  let program := schema.executable.getD schema.name
  match runner.programs with
  | none => program
  | some directory => if Text.has '/' program then program else Path.join directory program

def parameterFile (runner : Runner) (schema : Schema) (number : Nat) : String :=
  Path.join runner.scratch (ParameterFile.fileName s!"{schema.name}.{FreshName.long number}")

/-- Assigns values to parameters by their declarations. -/
def bindInOrder : List Declaration → List Input → Action Store Unit
  | declaration :: declarations, input :: inputs => do
      let _ ← Store.assign declaration.name input
      bindInOrder declarations inputs
  | _, _ => return ()

/-- Assigns values to parameters by name. -/
def bindByName : List (String × Input) → Action Store Unit
  | [] => return ()
  | (name, input) :: rest => do
      let _ ← Store.assign name input
      bindByName rest

/-- Binds the arguments of a run to the store, those in order before those by name. -/
def bindArguments (options : RunOptions) : Action Store Unit := do
  let store ← Action.state
  let declared := store.declarations.length
  if declared < options.arguments.length then
    throw (.store (.value (.tooManyArguments store.tool declared options.arguments.length)))
  bindInOrder store.declarations options.arguments
  bindByName (OrderedMap.members options.parameters)

/-- Records that a run goes from one stage to another. -/
def enter {σ : Type} (tool : String) (source target : RunStage) : Action σ Unit :=
  Action.note .debug "runner.state"
    [("tool", .text tool), ("from", .text source.name), ("to", .text target.name)]

/-- Names and texts as a tool gets them. -/
def handedOver (store : Store) (overflow : ParameterFile.Overflow) : List (String × String) :=
  store.declarations.map fun declaration =>
    (declaration.name, match overflow.get? declaration.name with
      | some stack => ParameterFile.stackReference stack
      | none => (ParameterFile.valueText? declaration (store.entry declaration.name)).getD "")

/-- The arguments that a program is started with. -/
def programArguments (kind : ToolKind) (file : String) (parameters : List (String × String)) :
    List String :=
  match kind with
  | .direct => silentArgument :: parameters.map fun (name, text) => s!"{name}={text}"
  | _ => [s!"@@{file}", silentArgument]

/-- Starts a program and remembers the start. -/
def launch {σ : Type} (launcher : Launcher) (request : LaunchRequest) :
    Action σ (Except String Completion) := do
  let files := (← Action.world).files
  let (result, after) := launcher request files
  Action.change fun world =>
    World.withFiles { world with launches := world.launches ++ [⟨request, files⟩] } after
  return result

def isSuccess : Option Number → Bool
  | some code => code.eqv (.ofNat 0)
  | none => false

def codeJson : Option Number → Json
  | some code => .number code
  | none => .null

/-- The part of a run in which the tool works: it is started, and on success its
file is read back. -/
def operate (launcher : Launcher) (options : RunOptions) (command file : String)
    (overflow : ParameterFile.Overflow) : Action Store RunResult := do
  let store ← Action.state
  let tool := store.tool
  let parameters := handedOver store overflow
  let arguments := programArguments store.schema.kind file parameters
  let record : RunRecord :=
    { tool, command, arguments, parameters, exitCode := none, signal := none, output := "",
      finished := true }
  enter tool .written .running
  Action.note .info "runner.spawn_start"
    [("tool", .text tool), ("command", .text command), ("args", .ofTexts arguments)]
  let environment := options.environment.getD (← Action.world).environment
  let request : LaunchRequest :=
    { command, arguments, environment, directory := options.directory, abort := options.abort }
  match ← launch launcher request with
  | .error message =>
      Action.note .error "runner.spawn_failed"
        [("tool", .text tool), ("command", .text command), ("error", .text message)]
      throw (.execution tool none message (some { record with output := message }))
  | .ok completion =>
      let record := { record with
        exitCode := completion.code, signal := completion.signal, output := completion.output }
      Action.note .info "runner.spawn_exit"
        [("tool", .text tool), ("exitCode", codeJson completion.code),
          ("signal", match completion.signal with | some name => .text name | none => .null),
          ("outputBytes", .ofNat (Text.width completion.output))]
      if !isSuccess completion.code then
        throw (.execution tool completion.code completion.output (some record))
      ParameterFile.read file overflow
      enter tool .running .reread
      let output := Text.trim completion.output
      return { output := if output = "" then none else some output, record }

/-- The part of a run from the written file on. -/
def afterWriting (runner : Runner) (launcher : Launcher) (options : RunOptions)
    (command file : String) (written : Except Failure Unit) (overflow : ParameterFile.Overflow) :
    Action Store RunResult := do
  Action.yield written
  let store ← Action.state
  enter store.tool .bound .written
  if runner.verify then
    let _ ← ParameterFile.verify store file overflow
  operate launcher options command file overflow

/-- Removes files; one that cannot be removed is recorded. -/
def removeAll {σ : Type} : List String → Action σ Unit
  | [] => return ()
  | path :: rest => do
      match ← Action.outcome (Action.advance .file (·.remove path false)) with
      | .ok _ => pure ()
      | .error failure =>
          Action.note .warn "runner.cleanup_failed"
            [("path", .text path), ("error", .text failure.message)]
      removeAll rest

/-- The stage in which a run failed: starting the tool and reading its file back
belong to the stage in which the tool runs. -/
def failedIn : Except Failure Unit → RunStage
  | .error _ => .bound
  | .ok _ => .running

/-- Runs the tool of the store. -/
def run (runner : Runner) (launcher : Launcher) (options : RunOptions) :
    Action Store RunResult := do
  let store ← Action.state
  let schema := store.schema
  if schema.kind = .parametersOnly then throw (.schema (.notRunnable schema.name))
  let before := store.snapshot
  Store.orRestore (bindArguments options)
  enter schema.name .idle .bound
  let file := runner.parameterFile schema (← Action.freshNumber)
  let (written, overflow) ← Action.outcomeOn .empty
    (ParameterFile.write runner.limit (← Action.state) file)
  let outcome ← Action.outcome
    (runner.afterWriting launcher options (runner.command schema) file written overflow)
  if let .error _ := outcome then
    enter schema.name (failedIn written) .failed
    Action.putState ((← Action.state).restore before)
  removeAll (file :: overflow.values)
  Action.yield outcome

end Runner

end ToolParams
