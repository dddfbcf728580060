import ToolParams.Programs.Executable
import ToolParams.Programs.Shell.Evaluation
import ToolParams.Programs.Utility

/-!
# Starting programs

A program takes the place of a process: a utility, a shell with a script, or a program that
starts another one.
-/

namespace ToolParams.Shell

open Programs (Machine Opening Channel)

/-- The search path of a shell that is given none. -/
def standardSearchPath : String :=
  "/usr/local/sbin:/usr/local/bin:/usr/sbin:/usr/bin:/sbin:/bin"

/-- The variables of a shell, before those that it is given. -/
def firstVariables : List (String × String) :=
  [("PATH", standardSearchPath), ("IFS", standardSeparators), ("OPTIND", "1"), ("PS1", "# "),
    ("PS2", "> "), ("PS4", "+ ")]

/-- The variables of a shell with an environment; its own separators stay. -/
def variablesOf (environment : Environment) : OrderedMap String Variable :=
  let own : OrderedMap String Variable :=
    ⟨firstVariables.map fun (name, value) => (name, ⟨some value, false, false⟩)⟩
  (environment.toList.filter fun entry => isName entry.1.toList && entry.1 ≠ "IFS").foldl
    (fun bindings (name, value) => bindings.insert name ⟨some value, true, false⟩) own

/-- The working directory as an environment tells it, if that is right. -/
def toldDirectory? (state : State) (environment : Environment) : Option String :=
  (environment.get? "PWD").bind fun path =>
    if Path.isAbsolute path && (state.files.locate path .followed).toOption = some state.files.here
    then some path else none

/-- The state in which a shell begins. -/
def State.beginShell (state : State) : State :=
  let environment := state.environment
  let directory := (toldDirectory? state environment).getD (Builtin.physicalDirectory state)
  let parent := toString (state.ancestors.headD 1)
  let bindings := (variablesOf environment).insert "PPID" ⟨some parent, false, false⟩
  { state with
    bindings := bindings.insert "PWD" ⟨some directory, true, false⟩
    inRows := true
    directory
    functions := .empty
    shell := state.process
    line := 0
    speaking := none
    status := 0
    options := []
    loops := 0
    calls := 0
    frames := []
    traps := state.traps.filter (·.2 = "")
    savedStatus := none
    lastJob := none
    jobs := [] }

/-- What a shell is asked to run. -/
structure Invocation where
  /-- a script among the arguments, and not in a file -/
  direct : Bool
  rest : List String
deriving DecidableEq, Repr

/-- Reads the options of a shell. -/
def readInvocation : Nat → Bool → List String → Act Invocation
  | 0, direct, arguments => return ⟨direct, arguments⟩
  | _, direct, [] => return ⟨direct, []⟩
  | fuel + 1, direct, argument :: rest => do
      match argument.toList with
      | ['-'] | ['-', '-'] => return ⟨direct, rest⟩
      | '-' :: letters =>
          let others ← Builtin.switchLetters true
            (letters.filter fun letter => letter ≠ 'c' && letter ≠ 'l') rest
          readInvocation fuel (direct || letters.contains 'c') others
      | '+' :: letters => readInvocation fuel direct (← Builtin.switchLetters false letters rest)
      | _ => return ⟨direct, argument :: rest⟩

/-- Takes all of the input. -/
def takeInput : Act String := do
  let state ← get
  match state.opening? 0 with
  | some number =>
      let text := state.machine.readable number
      let (machine, time) := state.machine.consume number text.length
      set { state with machine, time := max state.time time }
      return text
  | none => return ""

/-- Finds the script of a shell, and sets its name and arguments. -/
def findScript (invocation : Invocation) : Act String := do
  let named (words : List String) : Act Unit :=
    modify fun state =>
      match words with
      | name :: arguments => { state with name, arguments }
      | [] => { state with arguments := [] }
  match invocation.direct, invocation.rest with
  | true, [] => Act.fail "-c requires an argument"
  | true, script :: words =>
      named words
      return script
  | false, words =>
      let state ← get
      if words.isEmpty || state.has "stdin" then
        set { state with arguments := words }
        takeInput
      else
        let path := words.headD ""
        match state.files.read path with
        | .ok text =>
            named words
            return text
        | .error fault =>
            Act.fail s!"cannot open {path}: {Opener.reason .reading fault.cause}"

/-- Runs a shell in the place of the process. -/
def runShell (perform : Performer) (words : List String) : Act Unit := do
  let arguments := words.drop 1
  modify fun state =>
    { state.beginShell with name := words.headD "sh", arguments := [] }
  let body : Act Unit := do
    let invocation ← readInvocation (arguments.length + 1) false arguments
    let script ← findScript invocation
    perform (.text script ⟨false, invocation.direct⟩)
  Act.untilEnd perform body

/-- Starts the program that words name, with what it needs to know of the process; fails with
a cause. -/
def startFound (perform : Performer) (starter : List String → Act Unit)
    (program : String) (words : List String) : Act Unit := do
  modify fun state => { state with
    traps := state.traps.filter (·.2 = "")
    speaking := none }
  Act.pass startTime
  let name := words.headD program
  if ["sh", "dash", "bash"].contains program then runShell perform words
  else if program = "env" then starter words
  else match Programs.utilities.lookup program with
    | some utility =>
        runUtility utility name (words.drop 1) do
          Act.remark s!"{name}: write error: Bad file descriptor\n"
          Act.report 1
    | none => Act.report 0

def environmentForm : OptionForm :=
  .of "iv0" "uCS" [("ignore-environment", 'i'), ("unset", 'u'), ("chdir", 'C'), ("null", '0'),
    ("split-string", 'S'), ("debug", 'v')]

def State.withEnvironment (state : State) (environment : Environment) : State :=
  { state with
    bindings := ⟨environment.toList.map fun (name, value) => (name, ⟨some value, true, false⟩)⟩
    inRows := false }

/-- Starts a program with a changed environment, or writes the environment. -/
def runEnv (launch : List String → Act (Option FileCause)) (words : List String) : Act Unit := do
  let name := words.headD "env"
  let complain (text : String) : Act Unit := Act.remark s!"{name}: {text}\n"
  let help : Act Unit := Act.remark s!"Try '{name} --help' for more information.\n"
  match Options.readLeading environmentForm (words.drop 1) with
  | .error fault =>
      complain fault.message
      help
      Act.report 125
  | .ok options =>
      let state ← get
      let operands := ((options.values 'S').flatMap (Text.split ' ')).filter (· ≠ "") ++
        options.operands
      let (alone, operands) := match operands with
        | "-" :: rest => (true, rest)
        | _ => (false, operands)
      let start : Environment :=
        if options.has 'i' || alone then .empty else state.environment
      let start := (options.values 'u').foldl (fun (found : Environment) name => found.erase name)
        start
      let isSetting (operand : String) : Bool := Text.has '=' operand
      let environment := (operands.takeWhile isSetting).foldl
        (fun (found : Environment) operand =>
          match Text.cut? '=' operand with
          | some (name, value) => found.insert name value
          | none => found) start
      set (state.withEnvironment environment)
      let moved ← match options.value? 'C' with
        | none => pure true
        | some path => Builtin.moveTo true path
      if !moved then
        let path := Quoting.always ((options.value? 'C').getD "")
        complain s!"cannot change directory to {path}: No such file or directory"
        Act.report 125
      else match operands.dropWhile isSetting with
        | [] =>
            let ending := if options.has '0' then "\x00" else "\n"
            let _ ← Act.write 1 (String.join (environment.toList.map fun (name, value) =>
              s!"{name}={value}{ending}"))
            Act.report 0
        | command =>
            match ← launch command with
            | none => return ()
            | some cause =>
                let shown := Quoting.always (command.headD "")
                complain s!"{shown}: {cause.sentence}"
                if Text.has ' ' (command.headD "") && cause = .notFound then
                  complain "use -[v]S to pass options in shebang lines"
                Act.report (if cause = .notFound then 127 else 126)

/-- Starts the program that words name, found as the system finds programs; the cause is that
of a failure. -/
def launch (perform : Performer) : Nat → List String → Act (Option FileCause)
  | 0, _ => return some .tooManyLinks
  | fuel + 1, words => do
      let state ← get
      match Programs.find state.files (state.value? "PATH") words with
      | .error cause => return some cause
      | .ok (program, words) =>
          startFound perform (runEnv (launch perform fuel)) program words
          return none

/-- How many programs may start each other in the place of one process. -/
def mostStarters : Nat := 50

/-- Starts the program that words name in the place of the process, or complains. -/
def startProgram (perform : Performer) (words : List String) : Act Unit := do
  let state ← get
  let name := words.headD ""
  let found : Except FileCause (String × List String) := do
    let path ← if Text.has '/' name then pure name
      else findProgram state.files state.searchPath name
    Programs.resolve state.files path words
  match found with
  | .ok (program, words) =>
      startFound perform (runEnv (launch perform mostStarters)) program words
  | .error cause =>
      Act.complain s!"{name}: {startReason cause}"
      Act.report (startStatus cause)
  throw .exit

/-- Does what commands run in turn, down to a depth. -/
def performer : Nat → Performer
  | 0 => fun _ => throw .stopped
  | depth + 1 => fun task =>
      match task with
      | .command body manner => evaluateAll (performer depth) manner body
      | .text source manner => runText (performer depth) manner source
      | .program words => startProgram (performer depth) words

/-- How deeply commands, texts and programs may run each other. -/
def depthLimit : Nat := 4000

end ToolParams.Shell
