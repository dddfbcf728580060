import ToolParams.OrderedMap
import ToolParams.Programs.Machine
import ToolParams.Programs.Shell.Command
import ToolParams.Programs.Shell.Signal

/-!
# The state of a shell

What a running script can change, and how it goes on.  A state is that of one process: it
holds what is its own, and the machine that all processes share.
-/

namespace ToolParams.Shell

open Programs (Machine Opening Channel)

/-- Why a script does not go on with the next command. -/
inductive Jump where
  /-- a number of loops end, the last of them perhaps only for this time -/
  | leave (loops : Nat) (again : Bool)
  /-- the function or the file that runs ends -/
  | returned
  | exit
  /-- the shell met a fault -/
  | failed
  | killed (signal : Nat)
  /-- it took too long -/
  | stopped
deriving DecidableEq, Repr

/-- A variable, which may be known without having a value. -/
structure Variable where
  value : Option String
  /-- whether programs are started with it -/
  exported : Bool
  /-- whether it keeps its value -/
  fixed : Bool
deriving DecidableEq, Repr

/-- What the variables were before a function changed them, the latest first. -/
abbrev Frame := List (String × Option Variable)

/-- How a command runs. -/
structure Manner where
  /-- whether its status is looked at, so that a failure is none of the script -/
  tested : Bool
  /-- whether the process has nothing to do behind it -/
  final : Bool
deriving DecidableEq, Repr

/-- A command among others. -/
def Manner.usual : Manner := ⟨false, false⟩

/-- A command of which the status is looked at. -/
def Manner.test : Manner := ⟨true, false⟩

/-- What a running script can change. -/
structure State where
  machine : Machine
  /-- the microseconds that went by -/
  time : Nat
  /-- the time at which the process is asked to end -/
  deadline : Option Nat
  process : Nat
  /-- the process of the script -/
  shell : Nat
  /-- the processes above this one, the nearest first -/
  ancestors : List Nat
  /-- the openings behind the numbers of streams -/
  descriptors : List (Nat × Nat)
  mask : Nat
  bindings : OrderedMap String Variable
  /-- whether programs get the variables in the order of their rows -/
  inRows : Bool
  functions : OrderedMap String (Option Command)
  arguments : List String
  name : String
  /-- the path of the working directory as it was reached, and the one before -/
  directory : String
  /-- the line of the command that runs -/
  line : Nat
  /-- the command that complains -/
  speaking : Option String
  status : Nat
  /-- the status of the last substitution -/
  substituted : Nat
  /-- the names of options that are set -/
  options : List String
  /-- the number of loops around the command -/
  loops : Nat
  /-- the number of functions around the command -/
  calls : Nat
  /-- the changes of the functions that run, the latest first -/
  frames : List Frame
  /-- texts to run for signals -/
  traps : List (Nat × String)
  /-- the status that a trap leaves as it was -/
  savedStatus : Option Nat
  lastJob : Option Nat
  jobs : List Nat
  /-- commands that may still run -/
  patience : Nat

/-- What a script does on the way to a result. -/
abbrev Act := ExceptT Jump (StateM State)

/-- What is to be done. -/
inductive Task where
  | command (body : Option Command) (manner : Manner)
  /-- a text that is read as commands -/
  | text (source : String) (manner : Manner)
  /-- starts a program in the place of the process -/
  | program (words : List String)

/-- Does what a command runs in turn. -/
abbrev Performer := Task → Act Unit

namespace State

def has (state : State) (option : String) : Bool := state.options.contains option

def value? (state : State) (name : String) : Option String :=
  (state.bindings.get? name).bind (·.value)

def files (state : State) : FileTree := state.machine.files

def withFiles (state : State) (files : FileTree) : State :=
  { state with machine := { state.machine with files } }

/-- The place of a variable in the order in which programs get them: they are kept in 39
rows, and each row in the order of arrival. -/
def row (name : String) : Nat :=
  let codes := name.toList.map Char.toNat
  codes.foldl (· + ·) (codes.headD 0 * 16) % 39

/-- The variables that programs are started with. -/
def environment (state : State) : Environment :=
  let entries := state.bindings.toList.filterMap fun (name, binding) =>
    if binding.exported then binding.value.map fun value => (name, value) else none
  ⟨if state.inRows then entries.mergeSort fun left right => row left.1 ≤ row right.1
    else entries⟩

/-- What stands in front of complaints. -/
def introduction (state : State) : String :=
  match state.speaking with
  | none => s!"{state.name}: {state.line}: "
  | some command => s!"{state.name}: {state.line}: {command}: "

/-- The opening behind a stream. -/
def opening? (state : State) (descriptor : Nat) : Option Nat :=
  state.descriptors.lookup descriptor

def connect (state : State) (descriptor opening : Nat) : State :=
  { state with
    descriptors := (descriptor, opening) :: state.descriptors.filter (·.1 ≠ descriptor) }

/-- The state with a stream closed. -/
def disconnect (state : State) (descriptor : Nat) : State :=
  { state with descriptors := state.descriptors.filter (·.1 ≠ descriptor) }

end State

namespace Act

variable {α : Type}

def onMachine (step : Machine → Machine) : Act Unit :=
  modify fun state => { state with machine := step state.machine }

/-- Writes a text to a stream; says whether it is open. -/
def write (descriptor : Nat) (text : String) : Act Bool := do
  let state ← get
  match state.opening? descriptor with
  | none => return false
  | some number =>
      if text ≠ "" then
        onMachine fun machine => machine.write number state.time state.process text
      return true

/-- Writes to the stream of complaints. -/
def remark (text : String) : Act Unit := do
  let _ ← write 2 text

/-- Complains in the name of the script and of the command. -/
def complain (text : String) : Act Unit := do
  remark ((← get).introduction ++ text ++ "\n")

def report (status : Nat) : Act Unit :=
  modify fun state => { state with status := status % 256 }

/-- Complains and ends what runs. -/
def fail (text : String) : Act α := do
  complain text
  report 2
  throw .failed

def pass (microseconds : Nat) : Act Unit :=
  modify fun state => { state with time := state.time + microseconds }

/-- Lets time pass up to a moment. -/
def waitUntil (moment : Nat) : Act Unit :=
  modify fun state => { state with time := max state.time moment }

/-- Does something and gives how it ended. -/
def outcome (body : Act α) : Act (Except Jump α) :=
  ExceptT.mk (do return .ok (← ExceptT.run body))

/-- Ends as something ended. -/
def resume : Except Jump α → Act α
  | .ok value => pure value
  | .error jump => throw jump

/-- Does something and restores a part of the state, however it ends. -/
def restoring (restore : State → State) (body : Act α) : Act α := do
  let result ← outcome body
  modify restore
  resume result

/-- Sets a variable, unless it keeps its value. -/
def assign (name value : String) : Act Unit := do
  let state ← get
  let old := state.bindings.get? name
  if old.any (·.fixed) then fail s!"{name}: is read only"
  let exported := old.any (·.exported) || state.has "allexport"
  set { state with
    bindings := state.bindings.insert name ⟨some value, exported, false⟩ }

/-- Takes the value of a variable away. -/
def unassign (name : String) : Act Unit := do
  let state ← get
  if (state.bindings.get? name).any (·.fixed) then fail s!"{name}: is read only"
  set { state with bindings := state.bindings.erase name }

end Act

end ToolParams.Shell
