import ToolParams.Environment
import ToolParams.Failure
import ToolParams.Files.Removal
import ToolParams.Journal

/-!
# The world of the program, and actions in it

The world is what the program can see and change outside its own data: files,
environment variables and the journal.  It also remembers what every change made
of the files and which programs were started, and counts the fresh names that were
given out.

An action works on the world and on a state of its own.  When it fails, all it
did before stays done.
-/

namespace ToolParams

/-- When a started program is to be stopped. -/
inductive Abort where
  /-- before it can do anything -/
  | atOnce
  /-- after a number of milliseconds -/
  | after (milliseconds : Number)
deriving DecidableEq, Repr

/-- What a program is started with. -/
structure LaunchRequest where
  command : String
  arguments : List String
  environment : Environment
  directory : Option String
  abort : Option Abort
deriving DecidableEq, Repr

/-- How a program ended: with a code, or by a signal. -/
structure Completion where
  code : Option Number
  signal : Option String
  output : String
deriving DecidableEq, Repr

/-- Starts a program and waits for its end.  It may change files in any way, and it
may fail with a message. -/
abbrev Launcher := LaunchRequest → FileTree → Except String Completion × FileTree

/-- A start of a program, with the files as they were then. -/
structure Launch where
  request : LaunchRequest
  files : FileTree
deriving DecidableEq, Repr

/-- What the program can see and change outside its own data. -/
structure World where
  files : FileTree
  /-- the files as every change to them left them, the oldest first -/
  trees : List FileTree
  environment : Environment
  /-- entries, the oldest first -/
  journal : List Entry
  /-- starts of programs, the oldest first -/
  launches : List Launch
  /-- how many fresh names were given out -/
  namesGiven : Nat
deriving Repr

/-- The world without files, variables and history. -/
def World.empty : World :=
  { files := .empty
    trees := []
    environment := .empty
    journal := []
    launches := []
    namesGiven := 0 }

def World.withFiles (world : World) (files : FileTree) : World :=
  { world with files, trees := world.trees ++ [files] }

/-- An action on the world and a state of its own, which gives a result or fails. -/
abbrev Action (σ α : Type) := ExceptT Failure (StateM (World × σ)) α

namespace Action

variable {σ τ α : Type}

/-- The outcome of an action, and the world and state that it leaves. -/
def perform (action : Action σ α) (world : World) (state : σ) :
    Except Failure α × World × σ :=
  (ExceptT.run action).run (world, state)

def world : Action σ World := do return (← get).1

def state : Action σ σ := do return (← get).2

def putState (next : σ) : Action σ Unit :=
  modify fun current => (current.1, next)

def change (step : World → World) : Action σ Unit :=
  modify fun current => (step current.1, current.2)

/-- Gives a result, or fails with a fault that becomes a failure. -/
def lift {ε : Type} (wrap : ε → Failure) : Except ε α → Action σ α
  | .ok value => pure value
  | .error fault => throw (wrap fault)

def note (level : Level) (event : String) (data : List (String × Json)) : Action σ Unit :=
  change fun world => { world with journal := world.journal ++ [⟨level, event, data⟩] }

/-- Performs an action and gives its outcome, a failure included. -/
def outcome (action : Action σ α) : Action σ (Except Failure α) :=
  ExceptT.mk (do return .ok (← ExceptT.run action))

/-- Performs an action on another state; gives its outcome and the state it leaves. -/
def outcomeOn (initial : τ) (action : Action τ α) : Action σ (Except Failure α × τ) := do
  let current ← get
  let (result, world, final) := action.perform current.1 initial
  set (world, current.2)
  return (result, final)

/-- Gives an earlier outcome. -/
def yield : Except Failure α → Action σ α
  | .ok value => pure value
  | .error failure => throw failure

/-- Performs an action on the first part of a state. -/
def onFirst (action : Action σ α) : Action (σ × τ) α := do
  let (world, first, second) ← get
  let (result, world, first) := action.perform world first
  set (world, first, second)
  yield result

def look (wrap : FileFault → Failure) (query : FileTree → Except FileFault α) : Action σ α := do
  lift wrap (query (← world).files)

/-- Changes the files. -/
def alter (wrap : FileFault → Failure) (step : FileTree → Except FileFault FileTree) :
    Action σ Unit := do
  let files ← lift wrap (step (← world).files)
  change (·.withFiles files)

/-- Changes the files as far as a step gets. -/
def advance (wrap : FileFault → Failure)
    (step : FileTree → Except FileFault Unit × FileTree) : Action σ Unit := do
  let (result, files) := step (← world).files
  change (·.withFiles files)
  lift wrap result

/-- A number that was not given out before. -/
def freshNumber : Action σ Nat := do
  let number := (← world).namesGiven
  change fun world => { world with namesGiven := number + 1 }
  return number

end Action

end ToolParams
