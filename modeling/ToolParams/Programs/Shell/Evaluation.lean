import ToolParams.Programs.Shell.Builtin.Flow
import ToolParams.Programs.Shell.Builtin.Processes
import ToolParams.Programs.Shell.Builtin.Variables
import ToolParams.Programs.Shell.Grammar
import ToolParams.Programs.Utility.Condition
import ToolParams.Programs.Utility.Printing

/-!
# Running commands

A command changes the state of the shell and may end more than itself.  Functions, texts
that are read as commands and programs are run by a performer, so that everything here
follows the commands themselves.
-/

namespace ToolParams.Shell

open Programs (Machine Opening Channel Ending)

/-- The microseconds that a simple command takes. -/
def commandTime : Nat := 3

/-- How deeply functions may call each other. -/
def deepestCalls : Nat := 1000

/-- The utilities that the shell has of its own. -/
def ownUtilities : List (String × Utility) :=
  [("true", fun _ => Work.finish 0),
    ("false", fun _ => Work.finish 1),
    ("echo", Printing.shellEcho),
    ("printf", Printing.printf .shell),
    ("test", Condition.test),
    ("[", Condition.bracket)]

/-- The commands of the shell itself, by name. -/
def builtin? (perform : Performer) (manner : Manner) (name : String) : Option Builtin :=
  match ownUtilities.lookup name with
  | some utility => some fun arguments => do
      let speaker := Text.dropEnd 2 (← get).introduction
      runUtility utility speaker arguments do
        Act.complain s!"{name}: I/O error"
        Act.report 1
  | none =>
      match name with
      | ":" => some fun _ => Act.report 0
      | "." => some (Builtin.source perform manner)
      | "break" => some (Builtin.leave false)
      | "cd" | "chdir" => some Builtin.cd
      | "command" => some Builtin.command
      | "continue" => some (Builtin.leave true)
      | "eval" => some (Builtin.eval perform manner)
      | "exec" => some fun words => do
          if words.isEmpty then Act.report 0 else perform (.program words)
      | "exit" => some Builtin.exit
      | "export" => some Builtin.exportNames
      | "kill" => some Builtin.kill
      | "local" => some Builtin.localNames
      | "pwd" => some Builtin.pwd
      | "read" => some Builtin.readInput
      | "readonly" => some Builtin.readonly
      | "return" => some Builtin.return_
      | "set" => some Builtin.setAll
      | "shift" => some Builtin.shift
      | "trap" => some Builtin.trap
      | "type" => some Builtin.type
      | "unset" => some Builtin.unsetNames
      | "wait" => some (Builtin.waitFor perform)
      | _ => none

/-- The commands of the shell whose arguments may be assignments. -/
def assigningCommands : List String := ["export", "local", "readonly"]

/-- What the first field of a simple command stands for. -/
inductive Role where
  | builtin (name : String)
  | function (body : Option Command)
  | program
  /-- there is no field -/
  | nothing

/-- The fields of a simple command that are known, and the words that are left. -/
structure Beginning where
  fields : List String
  rest : List Word
  /-- whether a function of the name is passed over -/
  noFunctions : Bool
  /-- where programs are looked for -/
  searchPath : Option String
  /-- whether the first command of the shell is special -/
  special : Option Bool

/-- Replaces words until there is a field. -/
def fillFields (substitute : Substitution) : List Word → Act (List String × List Word)
  | [] => return ([], [])
  | word :: rest => do
      match ← expandFields substitute word with
      | [] => fillFields substitute rest
      | fields => return (fields, rest)

/-- What a field stands for. -/
def roleOf (state : State) (noFunctions : Bool) (name : String) : Role :=
  if Text.has '/' name then .program
  else match if noFunctions then none else state.functions.get? name with
    | some body => .function body
    | none =>
        if specialCommands.contains name || regularCommands.contains name then .builtin name
        else .program

/-- Passes over the options behind `command`; nothing, if the command is to run itself.  The
first list has the fields that were seen. -/
def skipOptions (substitute : Substitution) :
    Nat → List String → Beginning → Act (Option Beginning × List String × List Word)
  | 0, seen, beginning => return (none, seen, beginning.rest)
  | fuel + 1, seen, beginning => do
      let (fields, rest) ← if beginning.fields.isEmpty then fillFields substitute beginning.rest
        else pure (beginning.fields, beginning.rest)
      match fields with
      | [] => return (none, seen, rest)
      | first :: others =>
          let beginning := { beginning with fields := others, rest }
          let seen := seen ++ [first]
          match first.toList with
          | ['-', '-'] =>
              let (fields, rest) ← if others.isEmpty then fillFields substitute rest
                else pure (others, rest)
              if fields.isEmpty then return (none, seen, rest)
              else return (some { beginning with fields, rest }, [], [])
          | '-' :: letter :: letters =>
              if (letter :: letters).all (· = 'p') then
                skipOptions substitute fuel seen { beginning with searchPath := some systemPath }
              else return (none, seen ++ others, rest)
          | _ => return (some { beginning with fields := first :: others }, [], [])

/-- Finds the role of a simple command. -/
def findRole (substitute : Substitution) : Nat → Beginning → Act (Beginning × Role)
  | 0, beginning => return (beginning, .nothing)
  | fuel + 1, beginning => do
      match beginning.fields with
      | [] => return (beginning, .nothing)
      | name :: others =>
          match roleOf (← get) beginning.noFunctions name with
          | .builtin name =>
              let special := beginning.special.getD (specialCommands.contains name)
              let beginning := { beginning with special := some special }
              if name = "command" then
                match ← skipOptions substitute (beginning.rest.length + others.length + 2) []
                    { beginning with fields := others } with
                | (some next, _, _) => findRole substitute fuel { next with noFunctions := true }
                | (none, seen, rest) =>
                    return ({ beginning with fields := name :: seen, rest }, .builtin name)
              else return (beginning, .builtin name)
          | role => return (beginning, role)

/-- Replaces the words behind the first fields. -/
def restFields (substitute : Substitution) (assigning : Bool) : List Word → Act (List String)
  | [] => return []
  | word :: rest => do
      let fields ← match if assigning then assignment? word else none with
        | some (name, value) => do
            let value ← expandWhole substitute .value value
            pure [name ++ "=" ++ value]
        | none => expandFields substitute word
      return fields ++ (← restFields substitute assigning rest)

/-- Sets the variables in front of a command, perhaps only for as long as it runs. -/
def assignAll (substitute : Substitution) (temporary exporting : Bool) :
    List (String × Word) → Act (List String)
  | [] => return []
  | (name, word) :: rest => do
      let value ← expandWhole substitute .value word
      if temporary then Builtin.keepInFrame name
      Act.assign name value
      if temporary || exporting then
        modify fun state => { state with
          bindings := match state.bindings.get? name with
            | some binding => state.bindings.insert name { binding with exported := true }
            | none => state.bindings }
      return (name ++ "=" ++ value) :: (← assignAll substitute temporary exporting rest)

/-- Shows a command before it runs. -/
def trace (substitute : Substitution) (opening : Option Nat) (fields : List String) :
    Act Unit := do
  let state ← get
  if state.has "xtrace" then
    let lead := (state.value? "PS4").getD ""
    let lead ← match (readWord (fun _ => return none) .document).run
        (Source.ofText lead.toList) with
      | .ok (word, _) => do
          modify fun state => { state with options := state.options.filter (· ≠ "xtrace") }
          let text ← expandWhole substitute .text word
          modify fun after => { after with options := state.options }
          pure text
      | .error _ => pure lead
    match opening with
    | some number =>
        Act.onMachine fun machine =>
          machine.write number state.time state.process (lead ++ " ".intercalate fields ++ "\n")
    | none => pure ()

/-- Runs a command of the shell.  A fault in one that is not special ends only itself. -/
def runBuiltin (name : String) (special : Bool) (body : Act Unit) : Act Unit := do
  let before := (← get).speaking
  modify fun state => { state with speaking := some name }
  let result ← Act.outcome body
  modify fun state => { state with speaking := before }
  match result with
  | .error .failed => if special then throw .failed else return ()
  | result => Act.resume result

/-- Runs a function. -/
def runFunction (perform : Performer) (manner : Manner) (body : Option Command)
    (arguments : List String) : Act Unit := do
  let before ← get
  if deepestCalls ≤ before.calls then
    Act.fail s!"Maximum function recursion depth ({deepestCalls}) reached"
  set { before with
    arguments, calls := before.calls + 1, loops := 0 }
  let result ← Act.outcome (perform (.command body { manner with final := false }))
  modify fun state => { state with
    arguments := before.arguments
    calls := before.calls
    loops := before.loops }
  match result with
  | .error .returned => return ()
  | result => Act.resume result

/-- Runs a program, in the place of the process if that has nothing else to do. -/
def runProgram (perform : Performer) (manner : Manner) (searchPath : Option String)
    (fields : List String) : Act Unit := do
  let name := fields.headD ""
  let state ← get
  let found := if Text.has '/' name then .ok name
    else findProgram state.files (searchPath.getD state.searchPath) name
  match found with
  | .error cause =>
      Act.complain s!"{name}: {startReason cause}"
      Act.report 127
  | .ok _ =>
      if manner.final && state.traps.isEmpty then perform (.program fields)
      else awaited perform (perform (.program fields))

/-- Counts a command, and ends a process that runs too many.  One whose output goes to
another process is taken to have lost its reader. -/
def spend : Act Unit := do
  let state ← get
  if state.patience = 0 then
    match (state.opening? 1).map state.machine.channel with
    | some (.pipe ..) => throw (.killed Signal.brokenPipe)
    | _ => throw .stopped
  set { state with patience := state.patience - 1, time := state.time + commandTime }

/-- Runs a simple command. -/
def runSimple (perform : Performer) (manner : Manner) (line : Nat)
    (assignments : List (String × Word)) (words : List Word)
    (redirections : List Redirection) : Act Unit := do
  spend
  modify fun state => { state with line, substituted := 0 }
  let substitute := substitution perform
  let (fields, rest) ← fillFields substitute words
  let (beginning, role) ← findRole substitute (words.length + fields.length + 2)
    ⟨fields, rest, false, none, none⟩
  let assigning := match role with
    | .builtin name => assigningCommands.contains name
    | _ => false
  let fields := beginning.fields ++ (← restFields substitute assigning beginning.rest)
  let special := beginning.special.getD false
  let temporary := match role with
    | .nothing => false
    | _ => !special
  let replaces := match role with
    | .builtin "exec" => true
    | _ => false
  let before := (← get).descriptors
  if temporary then modify fun state => { state with frames := [] :: state.frames }
  let close (state : State) : State :=
    let state := if replaces then state else { state with descriptors := before }
    if temporary then state.closeFrame else state
  Act.restoring close do
    let opening := (← get).opening? 2
    if ← redirect substitute redirections then
      let assigned ← assignAll substitute temporary (replaces && 1 < fields.length) assignments
      if !(assigned.isEmpty && fields.isEmpty) then trace substitute opening (assigned ++ fields)
      match role with
      | .nothing => Act.report (← get).substituted
      | .function body => runFunction perform manner body (fields.drop 1)
      | .builtin name =>
          match builtin? perform manner name with
          | some body => runBuiltin name special (body (fields.drop 1))
          | none => Act.report 127
      | .program => runProgram perform manner beginning.searchPath fields
    else if special then throw .failed

/-- Takes up signals behind a command, and ends a script whose command failed if it is to be
ended then. -/
def conclude (perform : Performer) (manner : Manner) (checked : Bool) : Act Unit := do
  Act.attend perform
  let state ← get
  if checked && !manner.tested && state.status ≠ 0 && state.has "errexit" then throw .exit

/-- How a round of a loop ended. -/
inductive Round where
  | done
  | again
  | over
deriving DecidableEq, Repr

/-- Runs a part of a round of a loop. -/
def runRound (body : Act Unit) : Act Round := do
  match ← Act.outcome body with
  | .ok () => return .done
  | .error (.leave loops again) =>
      if 1 < loops then throw (.leave (loops - 1) again)
      else return if again then .again else .over
  | .error jump => throw jump

def mostRounds : Nat := 100000000

/-- Repeats a body as long as a condition holds, or as long as it does not; the status is
that of the last round. -/
def repeatRounds (holds : Bool) (condition body : Act Unit) : Nat → Nat → Act Unit
  | 0, _ => throw .stopped
  | fuel + 1, status => do
      match ← runRound condition with
      | .over => Act.report status
      | .again => repeatRounds holds condition body fuel status
      | .done =>
          if ((← get).status = 0) = holds then
            match ← runRound body with
            | .over => return ()
            | _ => do
                let status := (← get).status
                repeatRounds holds condition body fuel status
          else Act.report status

/-- Runs a body for each field. -/
def runForEach (name : String) (body : Act Unit) : List String → Act Unit
  | [] => return ()
  | field :: rest => do
      Act.assign name field
      match ← runRound body with
      | .over => return ()
      | _ => runForEach name body rest

/-- Runs something inside a loop. -/
def insideLoop (body : Act Unit) : Act Unit := do
  let loops := (← get).loops
  modify fun state => { state with loops := loops + 1 }
  Act.restoring (fun state => { state with loops }) body

/-- Whether a text looks like one of some patterns. -/
def matchesAny (substitute : Substitution) (text : List Char) : List Word → Act Bool
  | [] => return false
  | word :: rest => do
      let glyphs ← expandPieces substitute .whole true word
      if (glyphPattern glyphs).isFull text then return true
      else matchesAny substitute text rest

def State.withoutInput (state : State) : State :=
  let (state, number) := state.add ⟨.nothing, 0, false⟩
  state.connect 0 number

mutual

/-- Runs a command. -/
def evaluate (perform : Performer) (manner : Manner) : Command → Act Unit
  | .simple line assignments words redirections => do
      runSimple perform manner line assignments words redirections
      conclude perform manner true
  | .redirected line body redirections => do
      modify fun state => { state with line }
      redirected (substitution perform) redirections
        (evaluateAll perform ⟨manner.tested, false⟩ body)
      conclude perform manner false
  | .subshell line body redirections => do
      modify fun state => { state with line }
      let inside : Act Unit := do
        if ← redirect (substitution perform) redirections then
          evaluateAll perform ⟨manner.tested, true⟩ body
        else throw .failed
      if manner.final && (← get).traps.isEmpty then inside
      else awaited perform inside
      conclude perform manner true
  | .background line body redirections => do
      modify fun state => { state with line }
      leaveRunning (← inChild perform State.withoutInput do
        if ← redirect (substitution perform) redirections then
          evaluateAll perform ⟨false, true⟩ body
        else throw .failed)
      Act.report 0
      conclude perform manner true
  | .pipeline background parts => do
      let endings ← evaluateParts perform ⟨manner.tested && !background, true⟩ none background parts
      let last := endings.foldl (fun last ending =>
        { ending with time := max last.time ending.time }) ⟨0, 0, 0, none⟩
      if background then
        leaveRunning last
        Act.report 0
      else
        Act.waitUntil last.time
        for ending in endings.mergeSort fun left right => left.time ≤ right.time do
          tellEnding ending
        Act.report last.status
      conclude perform manner true
  | .sequence first second => do
      evaluateAll perform ⟨manner.tested, false⟩ first
      evaluateAll perform manner second
  | .both first second => do
      evaluateAll perform .test first
      if (← get).status = 0 then evaluateAll perform manner second
  | .either first second => do
      evaluateAll perform .test first
      if (← get).status ≠ 0 then evaluateAll perform manner second
  | .negation body => do
      evaluateAll perform .test body
      Act.report (if (← get).status = 0 then 1 else 0)
  | .choice condition yes no => do
      evaluateAll perform .test condition
      if (← get).status = 0 then evaluateAll perform manner yes
      else match no with
        | some other => evaluate perform manner other
        | none => Act.report 0
  | .loop holds condition body => do
      insideLoop (repeatRounds holds
        (do
          spend
          evaluateAll perform .test condition)
        (evaluateAll perform ⟨manner.tested, false⟩ body) mostRounds 0)
      conclude perform manner false
  | .forEach line name words body => do
      modify fun state => { state with line }
      let mut fields : List String := []
      for word in words do
        fields := fields ++ (← expandFields (substitution perform) word)
      if fields.isEmpty then Act.report 0
      insideLoop (runForEach name (evaluateAll perform ⟨manner.tested, false⟩ body) fields)
      conclude perform manner false
  | .selection line subject cases => do
      modify fun state => { state with line }
      let text ← expandWhole (substitution perform) .whole subject
      evaluateCases perform manner text.toList cases
      conclude perform manner false
  | .define name body => do
      modify fun state => { state with functions := state.functions.insert name body }
      Act.report 0

/-- Runs a command that may be empty. -/
def evaluateAll (perform : Performer) (manner : Manner) : Option Command → Act Unit
  | none => return ()
  | some body => do
      if !(← get).has "noexec" then
        Act.attend perform
        evaluate perform manner body

/-- Runs the commands of a pipeline, each in a process of its own; the input of the first is
an opening that may be given. -/
def evaluateParts (perform : Performer) (manner : Manner) (input : Option Nat)
    (idle : Bool) : List (Option Command) → Act (List Ending)
  | [] => return []
  | part :: rest => do
      let feed (state : State) : State :=
        match input with
        | some number => state.connect 0 number
        | none => if idle then state.withoutInput else state
      if rest.isEmpty then
        return [← inChild perform feed (evaluateAll perform manner part)]
      else
        let (state, number) := (← get).add ⟨.pipe [] [], 0, false⟩
        set state
        let ending ← inChild perform
          (fun state =>
            { (feed state).connect 1 number with
              patience := min state.patience lonelyPatience })
          (evaluateAll perform manner part)
        return ending :: (← evaluateParts perform manner (some number) idle rest)

/-- Runs the first case with a pattern that a text looks like. -/
def evaluateCases (perform : Performer) (manner : Manner) (text : List Char) :
    List (List (List Piece) × Option Command) → Act Unit
  | [] => Act.report 0
  | (patterns, body) :: rest => do
      if ← matchesAny (substitution perform) text patterns then
        if body.isNone then Act.report 0
        evaluateAll perform manner body
      else evaluateCases perform manner text rest

end

/-- Runs the lines of a script one after the other; says whether there was a command. -/
def runLines (perform : Performer) (manner : Manner) : Nat → Bool → Source → Act Bool
  | 0, ran, _ => return ran
  | fuel + 1, ran, source => do
      match readLine.run source with
      | .error fault =>
          modify fun state => { state with line := fault.line }
          Act.fail s!"Syntax error: {fault.problem.message}"
      | .ok (none, _) => return ran
      | .ok (some body, source) =>
          let last := match source.pushed with
            | some .ending => true
            | _ => false
          evaluateAll perform { manner with final := manner.final && last } body
          runLines perform manner fuel (ran || body.isSome) source

def runText (perform : Performer) (manner : Manner) (text : String) : Act Unit := do
  let ran ← runLines perform manner (text.length + 2) false (.ofText text.toList)
  if !ran then Act.report 0

end ToolParams.Shell
