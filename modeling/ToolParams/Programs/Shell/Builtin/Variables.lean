import ToolParams.Programs.Shell.Builtin.Basic

/-!
# Commands for variables and arguments

Setting, marking and forgetting variables, options and arguments, and reading values from
the input.
-/

namespace ToolParams.Shell

/-- Gives the variables of the innermost frame back what they were. -/
def State.closeFrame (state : State) : State :=
  match state.frames with
  | frame :: others =>
      frame.foldl (fun state (name, old) =>
        { state with
          bindings := match old with
            | some binding => state.bindings.insert name binding
            | none => state.bindings.erase name })
        { state with frames := others }
  | [] => state

def State.switch (state : State) (name : String) (on : Bool) : State :=
  let others := state.options.filter fun option =>
    option ≠ name && !(on && [("vi", "emacs"), ("emacs", "vi")].contains (name, option))
  { state with options := if on then name :: others else others }

namespace Builtin

/-- Marks variables, and sets those that have a value. -/
def mark (word : String) (shown : Variable → Bool) (change : Variable → Variable) : Builtin :=
  withOptions "p" fun options arguments => do
    if !options.isEmpty || arguments.isEmpty then sayVariables s!"{word} " shown
    else
      for argument in arguments do
        let (name, value) := nameOf argument
        checkName name
        match value with
        | some value => Act.assign name value
        | none => pure ()
        modify fun state => { state with
          bindings := state.bindings.insert name
            (change ((state.bindings.get? name).getD ⟨none, false, false⟩)) }
    Act.report 0

/-- Marks variables for the programs that are started. -/
def exportNames : Builtin := mark "export" (·.exported) fun binding => { binding with exported := true }

/-- Marks variables that keep their values. -/
def readonly : Builtin := mark "readonly" (·.fixed) fun binding => { binding with fixed := true }

/-- Remembers a variable in the innermost frame, where it comes back from at the end. -/
def keepInFrame (name : String) : Act Unit :=
  modify fun state =>
    match state.frames with
    | frame :: others =>
        { state with frames := ((name, state.bindings.get? name) :: frame) :: others }
    | [] => state

/-- Makes variables local to the function that runs. -/
def localNames : Builtin := fun arguments => do
  if (← get).frames.isEmpty then Act.fail "not in a function"
  for argument in arguments do
    let (name, value) := nameOf argument
    if argument ≠ "-" then
      checkName name
      keepInFrame name
      match value with
      | some value => Act.assign name value
      | none =>
          modify fun state =>
            if state.bindings.contains name then state
            else { state with bindings := state.bindings.insert name ⟨none, false, false⟩ }
  Act.report 0

/-- Forgets variables or functions. -/
def unsetNames : Builtin :=
  withOptions "vf" fun options arguments => do
    let ofFunctions := options.getLast?.any (·.1 = 'f')
    for name in arguments do
      if ofFunctions then
        modify fun state => { state with functions := state.functions.erase name }
      else
        checkName name
        Act.unassign name
    Act.report 0

/-- The names of all options in their order. -/
def optionNames : List String := optionLetters.map (·.1) ++ ["nolog", "debug"]

/-- Writes all options, as a table or as commands. -/
def sayOptions (on : Bool) : Act Unit := do
  let state ← get
  if on then
    say ("Current option settings\n" ++ String.join (optionNames.map fun name =>
      let setting := if state.has name then "on" else "off"
      let blanks := String.ofList (List.replicate (16 - name.length) ' ')
      s!"{name}{blanks}{setting}\n"))
  else
    say (String.join (optionNames.map fun name =>
      let sign := if state.has name then "-" else "+"
      s!"set {sign}o {name}\n"))

/-- Reads the letters of options behind a sign; the second list has the arguments that
follow. -/
def switchLetters (on : Bool) : List Char → List String → Act (List String)
  | [], rest => return rest
  | 'o' :: letters, rest => do
      match rest with
      | [] =>
          sayOptions on
          switchLetters on letters []
      | name :: others =>
          if optionNames.contains name then
            modify fun state => state.switch name on
            switchLetters on letters others
          else Act.fail s!"Illegal option -o {name}"
  | letter :: letters, rest => do
      match optionLetters.find? (·.2 = letter) with
      | some (name, _) =>
          modify fun state => state.switch name on
          switchLetters on letters rest
      | none => Act.fail s!"Illegal option -{letter}"

/-- Reads options of the shell; gives the arguments that follow, and whether they are the
arguments even if there are none. -/
def switchAll : Nat → List String → Act (List String × Bool)
  | 0, arguments => return (arguments, false)
  | _, [] => return ([], false)
  | fuel + 1, argument :: rest => do
      match argument.toList with
      | ['-', '-'] => return (rest, true)
      | ['-'] =>
          modify fun state => (state.switch "xtrace" false).switch "verbose" false
          return (rest, false)
      | '-' :: letters => switchAll fuel (← switchLetters true letters rest)
      | '+' :: letters => switchAll fuel (← switchLetters false letters rest)
      | _ => return (argument :: rest, false)

/-- Sets options and arguments, or writes all variables. -/
def setAll : Builtin := fun arguments => do
  if arguments.isEmpty then sayVariables "" (·.value.isSome)
  else
    let (rest, final) ← switchAll (arguments.length + 1) arguments
    if final || !rest.isEmpty then
      modify fun state =>
        { state with
          arguments := rest
          bindings := state.bindings.insert "OPTIND" ⟨some "1", false, false⟩ }
  Act.report 0

/-- Drops arguments at the front. -/
def shift : Builtin := fun arguments => do
  let count ← match arguments with
    | [] => pure 1
    | argument :: _ => number argument
  if (← get).arguments.length < count then Act.fail "can't shift that many"
  modify fun state => { state with
    arguments := state.arguments.drop count
    bindings := state.bindings.insert "OPTIND" ⟨some "1", false, false⟩ }
  Act.report 0

/-- A line of the input with the backslashes taken out, whether its end was there, and the
number of characters that were read, which counts on from a given one.  Characters behind a
backslash separate no fields. -/
def readLogical (raw : Bool) :
    List (Char × Bool) → Nat → List Char → List (Char × Bool) × Bool × Nat
  | soFar, count, [] => (soFar.reverse, false, count)
  | soFar, count, '\x00' :: rest => readLogical raw soFar (count + 1) rest
  | soFar, count, '\n' :: _ => (soFar.reverse, true, count + 1)
  | soFar, count, '\\' :: character :: rest =>
      if raw then readLogical raw (('\\', true) :: soFar) (count + 1) (character :: rest)
      else if character = '\n' then readLogical raw soFar (count + 2) rest
      else readLogical raw ((character, false) :: soFar) (count + 2) rest
  | soFar, count, character :: rest =>
      if !raw && character = '\\' then readLogical raw soFar (count + 1) rest
      else readLogical raw ((character, true) :: soFar) (count + 1) rest

/-- Whether a sign separates fields, and whether it is a blank that does. -/
def separates (separators : List Char) (sign : Char × Bool) : Bool :=
  sign.2 && separators.contains sign.1

def separatesAsBlank (separators : List Char) (sign : Char × Bool) : Bool :=
  separates separators sign && Splitting.isBlank sign.1

/-- The end of the last field: a mark where it may be cut off, whether the first separator
was seen, and whether one that is no blank may still follow. -/
structure LastField where
  cut : Option Nat
  begun : Bool
  absorbs : Bool

/-- The last field of a line, which takes all that is left but separators at its end. -/
def lastField (separators : List Char) (signs : List (Char × Bool)) : List Char :=
  let step (last : LastField) (entry : (Char × Bool) × Nat) : LastField :=
    let (sign, index) := entry
    let blank := separatesAsBlank separators sign
    let separator := separates separators sign
    if !last.begun then
      if separator then ⟨some index, true, blank⟩ else last
    else if blank then { last with cut := some (last.cut.getD index) }
    else if separator && last.absorbs then { last with absorbs := false }
    else { last with cut := none, absorbs := false }
  let last := signs.zipIdx.foldl step ⟨none, false, false⟩
  let kept := match last.cut with
    | some count => signs.take count
    | none => signs
  kept.map fun sign => sign.1

/-- The values of a number of fields. -/
def shareFields (separators : List Char) : Nat → List (Char × Bool) → List (List Char)
  | 0, _ => []
  | 1, signs => [lastField separators (signs.dropWhile (separatesAsBlank separators))]
  | count + 1, signs =>
      let body := signs.dropWhile (separatesAsBlank separators)
      let field := body.takeWhile fun sign => !separates separators sign
      let rest := match body.drop field.length with
        | [] => []
        | separator :: others =>
            let others := others.dropWhile (separatesAsBlank separators)
            match others with
            | next :: behind =>
                if separatesAsBlank separators separator && separates separators next then
                  behind.dropWhile (separatesAsBlank separators)
                else others
            | [] => []
      field.map (·.1) :: shareFields separators count rest

/-- Reads a line of the input into variables. -/
def readInput : Builtin :=
  withOptions "p:r" fun options names => do
    if names.isEmpty then Act.fail "arg count"
    let state ← get
    let raw := options.any (·.1 = 'r')
    let (line, ended) ← match state.opening? 0 with
      | none => pure ([], false)
      | some number => do
          let (machine, offered) := state.machine.offer number
          let (line, ended, taken) := readLogical raw [] 0 offered
          let (line, ended, taken) :=
            if ended then (line, ended, taken)
            else readLogical raw [] 0 (machine.readable number).toList
          let (machine, time) := machine.consume number taken
          set { state with machine, time := max state.time time }
          pure (line, ended)
    let values := shareFields state.separators names.length line
    for (name, value) in names.zip values do
      checkName name
      Act.assign name (String.ofList value)
    Act.report (if ended then 0 else 1)

end Builtin

end ToolParams.Shell
