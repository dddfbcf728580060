import ToolParams.Programs.Shell.Redirecting

/-!
# Processes of a shell

A shell starts processes, each on a copy of its state, and waits for them.  It takes up
signals between its commands.  What a process shares with others outlives it.
-/

namespace ToolParams.Shell

open Programs (Machine Opening Channel Ending)

/-- The microseconds until a new process begins. -/
def forkTime : Nat := 400

/-- The microseconds until a program begins. -/
def startTime : Nat := 600

/-- The commands that a process may run whose output nobody reads any more. -/
def lonelyPatience : Nat := 200000

namespace Act

/-- Takes the signals that this process got, the oldest first.  When its time is up, it
gets one that asks it to end. -/
def takeSignals : Act (List Nat) := do
  let state ← get
  let due := state.deadline.any (· ≤ state.time)
  let mine := (state.machine.signals.filter (·.1 = state.process)).reverse.map (·.2)
  if due || !mine.isEmpty then
    set { state with
      deadline := if due then none else state.deadline
      machine := { state.machine with
        signals := state.machine.signals.filter (·.1 ≠ state.process) } }
  return if due then mine ++ [Signal.terminate] else mine

/-- Runs the text of a trap, after which the status is what it was. -/
def runTrap (perform : Performer) (text : String) : Act Unit := do
  let before := (← get).savedStatus
  let status := before.getD (← get).status
  modify fun state => { state with savedStatus := some status }
  let result ← outcome (perform (.text text .usual))
  modify fun state => { state with savedStatus := before }
  match result with
  | .ok () => report status
  | .error jump => throw jump

/-- Takes up the signals that came in. -/
def attend (perform : Performer) : Act Unit := do
  for signal in ← takeSignals do
    let traps := (← get).traps
    match if signal = Signal.kill then none else traps.lookup signal with
    | some "" => pure ()
    | some text => runTrap perform text
    | none => if Signal.harmless.contains signal then pure () else throw (.killed signal)

/-- Does something as the last of a process: at its end, it runs the text that was kept for
it. -/
def untilEnd (perform : Performer) (body : Act Unit) : Act Unit := do
  let ending : Except Jump Unit → Option Jump
    | .error (.killed signal) => some (.killed signal)
    | .error .stopped => some .stopped
    | _ => none
  match ending (← outcome body) with
  | some jump => throw jump
  | none =>
      match (← get).traps.lookup 0 with
      | none | some "" => return ()
      | some text =>
          let status := (← get).status
          modify fun state => { state with
            traps := state.traps.filter (·.1 ≠ 0), savedStatus := some status }
          let result ← outcome (perform (.text text .usual))
          match ending result, result with
          | some jump, _ => throw jump
          | none, .error .exit => report ((← get).savedStatus.getD status)
          | none, _ => report status

end Act

/-- The state of a new process. -/
def State.fork (state : State) : State :=
  { state with
    machine := { state.machine with nextProcess := state.machine.nextProcess + 1 }
    time := state.time + forkTime
    deadline := none
    process := state.machine.nextProcess
    ancestors := state.process :: state.ancestors
    traps := state.traps.filter (·.2 = "")
    savedStatus := none
    jobs := [] }

/-- Does something in a process of its own, and gives how that ended. -/
def inChild (perform : Performer) (prepare : State → State) (body : Act Unit) :
    Act Ending := do
  let parent ← get
  let child := prepare parent.fork
  let (result, after) := (ExceptT.run (Act.untilEnd perform body)).run child
  let files := { after.machine.files with here := parent.machine.files.here }
  set { parent with
    machine := { after.machine with files }
    patience := if child.patience = parent.fork.patience then after.patience else parent.patience }
  match result with
  | .error .stopped => throw .stopped
  | .error (.killed signal) => return ⟨child.process, after.time, 128 + signal, some signal⟩
  | _ => return ⟨child.process, after.time, after.status % 256, none⟩

/-- Tells that a signal ended a process, unless that is no news. -/
def tellEnding (ending : Ending) : Act Unit :=
  match ending.signal.bind fun signal => Signal.stories.lookup signal with
  | some story => Act.remark (story ++ "\n")
  | none => return ()

/-- Does something in a process of its own and waits for its end. -/
def awaited (perform : Performer) (body : Act Unit) : Act Unit := do
  let ending ← inChild perform id body
  Act.waitUntil ending.time
  tellEnding ending
  Act.report ending.status
  Act.attend perform

/-- Remembers a process that nothing waits for yet. -/
def leaveRunning (ending : Ending) : Act Unit := do
  modify fun state => { state with
    machine := { state.machine with endings := ending :: state.machine.endings }
    lastJob := some ending.process
    jobs := ending.process :: state.jobs }

/-- The text that a process writes on a new pipe, and how it ended. -/
def outputOf (perform : Performer) (body : Act Unit) : Act (String × Ending) := do
  let (state, number) := (← get).add ⟨.pipe [] [], 0, false⟩
  set state
  let ending ← inChild perform (·.connect 1 number) body
  return ((← get).machine.readable number, ending)

/-- Finds the output of commands. -/
def substitution (perform : Performer) : Substitution := fun body => do
  match body with
  | none =>
      modify fun state => { state with substituted := 0 }
      return ""
  | some body =>
      let (text, ending) ← outputOf perform (perform (.command (some body) ⟨false, true⟩))
      Act.waitUntil ending.time
      tellEnding ending
      modify fun state => { state with substituted := ending.status }
      Act.attend perform
      return text

/-- Runs a utility on the streams of the process, under the name by which it complains.
The last action is for results that are lost because their stream is closed. -/
def runUtility (utility : Utility) (name : String) (arguments : List String)
    (whenLost : Act Unit) : Act Unit := do
  let state ← get
  let input := state.opening? 0
  let available := input.map state.machine.readable
  let channel := input.map state.machine.channel
  let working : Working :=
    { name
      environment := state.environment
      files := state.files
      mask := state.mask
      input := available
      inputFile := match channel with
        | some (.file place) =>
            some (place, ((input.bind (state.machine.openings[·]?)).map (·.position)).getD 0)
        | _ => none
      inputIsDirectory := channel = some .directory
      resultFile := match (state.opening? 1).map state.machine.channel with
        | some (.file place) => some place
        | _ => none
      written := []
      status := 0
      time := 0 }
  let after := ((utility arguments).run working).2
  set (state.withFiles after.files)
  match input with
  | some number =>
      let before := (available.getD "").length
      let left := (after.input.getD "").length
      if left < before then
        let (machine, time) := state.machine.consume number (before - left)
        modify fun state => { state with
          machine := { machine with files := after.files }, time := max state.time time }
  | none => pure ()
  Act.pass after.time
  for (stream, text) in after.written.reverse do
    let _ ← Act.write (match stream with
      | .results => 1
      | .complaints => 2) text
  Act.report after.status
  if (state.opening? 1).isNone && after.written.any (·.1 = .results) then whenLost

end ToolParams.Shell
