import ToolParams.Programs.Shell.Builtin.Basic

/-!
# Commands for processes

Sending signals and keeping texts for them, and waiting for processes.
-/

namespace ToolParams.Shell.Builtin

open Programs (Machine Ending)

/-- The number of a signal that is written as a number or as a short name. -/
def signal? (least : Nat) (text : String) : Option Nat :=
  match Scanning.natural? text with
  | some number => if least ≤ number && number < 65 then some number else none
  | none =>
      let capitals := String.ofList (text.toList.map Char.toUpper)
      if capitals = "EXIT" && least = 0 then some 0
      else (Signal.names.idxOf? capitals).map (· + 1)

def trapName (number : Nat) : String :=
  if number = 0 then "EXIT" else (Signal.shortName? number).getD (toString number)

/-- Keeps a text for a signal, or forgets it. -/
def setTrap (signal : Nat) (text : Option String) : Act Unit :=
  modify fun state =>
    let others := state.traps.filter (·.1 ≠ signal)
    { state with traps := match text with
      | some text => (signal, text) :: others
      | none => others }

/-- Keeps texts that are run when signals come, or at the end. -/
def trap : Builtin :=
  withOptions "" fun _ arguments => do
    Act.report 0
    match arguments with
    | [] =>
        let traps := (← get).traps.mergeSort fun left right => left.1 ≤ right.1
        say (String.join (traps.map fun (number, text) =>
          s!"trap -- {quoted text} {trapName number}\n"))
    | first :: rest =>
        let resets := rest.isEmpty || (Scanning.natural? first).any (· < 65)
        let text := if resets || first = "-" then none else some first
        keepAll text (if resets then arguments else rest)
where
  keepAll (text : Option String) : List String → Act Unit
    | [] => return ()
    | name :: others => do
        match signal? 0 name with
        | some number =>
            setTrap number text
            keepAll text others
        | none =>
            Act.remark s!"trap: {name}: bad trap\n"
            Act.report 1

/-- How to send signals. -/
def killUsage : String :=
  "Usage: kill [-s sigspec | -signum | -sigspec] [pid | job]... or\nkill -l [exitstatus]"

/-- Ends a process that is known to have run on past the present. -/
def cutShort (ending : Ending) (moment signal : Nat) (machine : Machine) : Machine :=
  let short : Ending := ⟨ending.process, moment, 128 + signal, some signal⟩
  let machine := machine.silence ending.process (moment + 1)
  { machine with
    endings := machine.endings.map fun other =>
      if other.process = ending.process then short else other }

/-- Sends a signal to a process; says whether there is one. -/
def send (signal process : Nat) : Act Bool := do
  let state ← get
  if process = state.process || process = 0 || state.ancestors.contains process then
    if signal ≠ 0 then
      let target := if process = 0 then state.process else process
      Act.onMachine fun machine =>
        { machine with signals := (target, signal) :: machine.signals }
    return true
  else
    match state.machine.endings.find? (·.process = process) with
    | some ending =>
        if state.jobs.contains process || state.time < ending.time then
          if state.time < ending.time && signal ≠ 0 && !Signal.harmless.contains signal then
            Act.onMachine (cutShort ending state.time signal)
          return true
        else return false
    | none => return false

/-- Sends a signal to the processes that arguments name. -/
def sendAll (signal : Nat) : List String → Act Unit
  | [] => return ()
  | argument :: rest => do
      let found ← if Text.startsWith argument "%" then pure false
        else if Text.startsWith argument "-" then do
          let _ ← number (Text.drop 1 argument)
          pure false
        else send signal (← number argument)
      if !found then
        Act.complain "No such process\n"
        Act.report 1
      sendAll signal rest

/-- Writes the name of a signal, or of the one that a status tells of. -/
def nameSignals : Builtin := fun arguments => do
  match arguments with
  | [] =>
      say ("0\n" ++ String.join ((List.range 64).map fun index =>
        trapName (index + 1) ++ "\n"))
  | argument :: _ =>
      let status ← number argument
      let signal := if 128 < status then status - 128 else status
      if 0 < signal && signal < 65 then say (trapName signal ++ "\n")
      else Act.fail s!"invalid signal number or exit status: {argument}"

/-- Sends signals to processes. -/
def kill : Builtin := fun arguments => do
  Act.report 0
  match arguments with
  | [] => Act.fail killUsage
  | first :: rest =>
      let direct := if Text.startsWith first "-" then signal? 1 (Text.drop 1 first) else none
      let direct := if first = "-0" then some 0 else direct
      match direct with
      | some signal =>
          if rest.isEmpty then Act.fail killUsage else sendAll signal rest
      | none =>
          let (options, targets) ← readOptions "ls:" (arguments.length + 1) arguments
          let lists := options.any (·.1 = 'l')
          let named := (options.reverse.find? (·.1 = 's')).map (·.2)
          match named with
          | some name =>
              match signal? 1 name with
              | some signal =>
                  if lists || targets.isEmpty then Act.fail killUsage
                  else sendAll signal targets
              | none => Act.fail s!"invalid signal number or name: {name}"
          | none =>
              if lists then nameSignals targets
              else if targets.isEmpty then Act.fail killUsage
              else sendAll Signal.terminate targets

/-- Waits for the end of a process; its status is that of the command. -/
def await (process : Nat) : Act Unit := do
  let state ← get
  match state.machine.endings.find? (·.process = process) with
  | some ending =>
      if state.jobs.contains process then
        Act.waitUntil ending.time
        tellEnding ending
        Act.report ending.status
      else Act.report 127
  | none => Act.report 127

/-- Waits for processes, or for all that run. -/
def waitFor (perform : Performer) : Builtin :=
  withOptions "" fun _ arguments => do
    if arguments.isEmpty then
      let state ← get
      for ending in state.machine.endings do
        if state.jobs.contains ending.process then Act.waitUntil ending.time
      Act.report 0
    else
      for argument in arguments do
        if Text.startsWith argument "%" then
          match (← get).lastJob with
          | some process => await process
          | none => Act.fail s!"No such job: {argument}"
        else await (← number argument)
    Act.attend perform

end ToolParams.Shell.Builtin
