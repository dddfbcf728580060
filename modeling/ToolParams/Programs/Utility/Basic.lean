import ToolParams.Environment
import ToolParams.Programs.Octets

/-!
# Utilities

A utility is a small program of the system.  It is given its arguments and works on
the files, its input and what it has written so far.  All texts spell bytes.
-/

namespace ToolParams

/-- The two streams that a program writes to. -/
inductive Stream where
  | results
  | complaints
deriving DecidableEq, Repr

/-- What a utility works on. -/
structure Working where
  /-- the name by which it complains -/
  name : String
  environment : Environment
  files : FileTree
  /-- the bits that new files do not get -/
  mask : Nat
  /-- what is left of the input; nothing, if there is no input at all -/
  input : Option String
  /-- the file that the input comes from, and the position in it -/
  inputFile : Option (Place × Nat)
  inputIsDirectory : Bool
  /-- the file that results go to, and whether they go behind what it has -/
  resultFile : Option Place
  /-- what was written, the latest first -/
  written : List (Stream × String)
  status : Nat
  /-- the microseconds that went by -/
  time : Nat
deriving Repr

/-- What a utility does on the way to a result. -/
abbrev Work := StateM Working

/-- A small program of the system. -/
abbrev Utility := List String → Work Unit

namespace FileCause

/-- A cause as programs tell it. -/
def sentence : FileCause → String
  | .notFound => "No such file or directory"
  | .notDirectory => "Not a directory"
  | .isDirectory => "Is a directory"
  | .exists => "File exists"
  | .denied => "Permission denied"
  | .nameTooLong => "File name too long"
  | .tooManyLinks => "Too many levels of symbolic links"
  | .wordTooLong => "Argument list too long"
  | .senseless => "Invalid argument"

end FileCause

namespace FileFault

/-- The cause of a fault. -/
def cause : FileFault → FileCause
  | .onPath cause .. => cause
  | .onPaths cause .. => cause
  | .onOpenFile cause _ => cause
  | .removesDirectory _ => .isDirectory
  | .onStart cause _ => cause
  | .noCommand => .notFound
  | .holdsNull .. => .notFound

end FileFault

namespace Work

/-- Writes a text. -/
def say (text : String) : Work Unit :=
  modify fun working =>
    if text = "" then working
    else { working with written := (.results, text) :: working.written }

def remark (text : String) : Work Unit :=
  modify fun working => { working with written := (.complaints, text) :: working.written }

/-- Sets the status, unless it is a worse one already. -/
def worsen (status : Nat) : Work Unit :=
  modify fun working => { working with status := max working.status status }

def finish (status : Nat) : Work Unit :=
  modify fun working => { working with status }

/-- Puts the complaints in front of the results that were held back meanwhile. -/
def complaintsFirst : Work Unit :=
  modify fun working =>
    let (results, complaints) := working.written.partition (·.1 = .results)
    { working with written := results ++ complaints }

def complain (status : Nat) (text : String) : Work Unit := do
  remark s!"{(← get).name}: {text}\n"
  worsen status

/-- Complains about wrong arguments and tells where help is. -/
def refuse (status : Nat) (text : String) : Work Unit := do
  complain status text
  remark s!"Try '{(← get).name} --help' for more information.\n"

def files : Work FileTree := return (← get).files

/-- Puts changed files in the place of the files. -/
def keep (files : FileTree) : Work Unit := modify fun working => { working with files }

/-- Keeps changed files, or complains. -/
def attempt (complaint : String) : Except FileCause FileTree → Work Unit
  | .ok files => keep files
  | .error cause => complain 1 s!"{complaint}: {cause.sentence}"

/-- Takes all that is left of the input. -/
def takeInput : Work String := do
  let working ← get
  set { working with input := working.input.map fun _ => "" }
  return working.input.getD ""

def inputNames : List String := ["-", "/dev/stdin", "/dev/fd/0", "/proc/self/fd/0"]

/-- The content of a file, or the input where that is named. -/
def content (name : String) : Work (Except String String) := do
  if inputNames.contains name then
    let working ← get
    if working.input.isNone then return .error "Bad file descriptor"
    if working.inputIsDirectory then return .error FileCause.isDirectory.sentence
    return .ok (← takeInput)
  match (← files).read name with
  | .ok text => return .ok text
  | .error fault => return .error fault.cause.sentence

/-- How much is still to be read of the file that results go to, if a name stands for
that. -/
def readsResults (name : String) : Work (Option Nat) := do
  let working ← get
  match working.resultFile with
  | none => return none
  | some goal =>
      let source : Option (Place × Nat) :=
        if inputNames.contains name then working.inputFile
        else (working.files.locate name .followed).toOption.map fun place => (place, 0)
      match source, working.files.node? goal with
      | some (place, position), some (.file content _) =>
          return if place = goal then some (content.length - position) else none
      | _, _ => return none

/-- The files that writing to has no effect. -/
def discarding : List Place := [["dev", "null"], ["dev", "zero"]]

/-- The files with a new content for one of them, which gets a mode if it is new. -/
def write (files : FileTree) (mask : Nat) (path text : String) : Except FileCause FileTree := do
  let place ← files.locate path .writable
  if discarding.contains place then return files
  let isNew := (files.node? place).isNone
  let files ← (files.write path text).mapError FileFault.cause
  if isNew then
    return files.place place (.file text (0o666 - (0o666 &&& mask)))
  return files

/-- Does something with the content of each named file, or with the input if none is
named; a complaint about a file that cannot be read begins as given. -/
def overContents (names : List String) (complaint : String → String)
    (body : String → String → Work Unit) : Work Unit := do
  for name in (if names.isEmpty then ["-"] else names) do
    match ← content name with
    | .ok text => body name text
    | .error why => complain 1 s!"{complaint name}: {why}"

def pass (microseconds : Nat) : Work Unit :=
  modify fun working => { working with time := working.time + microseconds }

end Work

/-- How the options of a utility are written: letters that stand alone, letters with a
value, and long names, each with its letter.  Some letters have a value only if it stands
right behind them. -/
structure OptionForm where
  plain : String
  valued : String
  long : List (String × Char)
  attached : String := ""
deriving DecidableEq, Repr

/-- Options whose letters stand alone or have a value. -/
def OptionForm.of (plain valued : String) (long : List (String × Char)) : OptionForm where
  plain := plain
  valued := valued
  long := long

/-- Options with their values, which are empty for those without, and the other
arguments. -/
structure Options where
  given : List (Char × String)
  operands : List String
deriving DecidableEq, Repr

/-- What is wrong with an option. -/
inductive OptionFault where
  | unknown (letter : Char)
  | unknownLong (name : String)
  | ambiguous (name : String) (candidates : List String)
  | withoutValue (letter : Char)
  | longWithoutValue (name : String)
  | unwantedValue (name : String)
deriving DecidableEq, Repr

/-- The text of a fault. -/
def OptionFault.message : OptionFault → String
  | .unknown letter => s!"invalid option -- '{letter}'"
  | .unknownLong name => s!"unrecognized option '--{name}'"
  | .ambiguous name candidates =>
      let shown := " ".intercalate (candidates.map fun candidate => s!"'--{candidate}'")
      s!"option '--{name}' is ambiguous; possibilities: {shown}"
  | .withoutValue letter => s!"option requires an argument -- '{letter}'"
  | .longWithoutValue name => s!"option '--{name}' requires an argument"
  | .unwantedValue name => s!"option '--{name}' doesn't allow an argument"

namespace Options

def has (options : Options) (letter : Char) : Bool :=
  options.given.any (·.1 = letter)

def value? (options : Options) (letter : Char) : Option String :=
  (options.given.reverse.find? (·.1 = letter)).map (·.2)

def values (options : Options) (letter : Char) : List String :=
  (options.given.filter (·.1 = letter)).map (·.2)

def last? (options : Options) (letters : List Char) : Option Char :=
  (options.given.reverse.find? fun entry => letters.contains entry.1).map (·.1)

/-- Reads letters behind one dash; the second list has the arguments that follow. -/
def readLetters (form : OptionForm) :
    List Char → List String → Except OptionFault (List (Char × String) × List String)
  | [], rest => .ok ([], rest)
  | letter :: letters, rest =>
      if Text.has letter form.attached then .ok ([(letter, String.ofList letters)], rest)
      else if Text.has letter form.valued then
        if letters.isEmpty then
          match rest with
          | value :: others => .ok ([(letter, value)], others)
          | [] => .error (.withoutValue letter)
        else .ok ([(letter, String.ofList letters)], rest)
      else if Text.has letter form.plain then do
        let (others, left) ← readLetters form letters rest
        return ((letter, "") :: others, left)
      else .error (.unknown letter)

/-- The letter of a long name, of which the beginning is enough. -/
def readLongName (form : OptionForm) (name : String) : Except OptionFault (String × Char) :=
  match form.long.find? (·.1 = name) with
  | some entry => .ok entry
  | none =>
      match form.long.filter fun entry => Text.startsWith entry.1 name with
      | [entry] => .ok entry
      | [] => .error (.unknownLong name)
      | first :: others =>
          if others.all (·.2 = first.2) then .ok first
          else .error (.ambiguous name ((first :: others).map (·.1)))

/-- Reads a long option, which may have its value behind an equality sign. -/
def readLong (form : OptionForm) (argument : String) (rest : List String) :
    Except OptionFault ((Char × String) × List String) := do
  let (name, value) := match Text.cut? '=' argument with
    | some (name, value) => (name, some value)
    | none => (argument, none)
  let (full, letter) ← readLongName form name
  if Text.has letter form.attached then return ((letter, value.getD ""), rest)
  else if Text.has letter form.valued then
    match value, rest with
    | some value, _ => return ((letter, value), rest)
    | none, value :: others => return ((letter, value), others)
    | none, [] => throw (.longWithoutValue full)
  else if value.isSome then throw (.unwantedValue full)
  else return ((letter, ""), rest)

/-- Reads arguments.  Options may stand behind other arguments unless `inOrder` is
set; two dashes end them. -/
def readFrom (form : OptionForm) (inOrder : Bool) :
    Nat → List String → Except OptionFault Options
  | 0, arguments => .ok ⟨[], arguments⟩
  | _, [] => .ok ⟨[], []⟩
  | fuel + 1, argument :: rest =>
      match argument.toList with
      | ['-', '-'] => .ok ⟨[], rest⟩
      | '-' :: '-' :: name => do
          let (option, left) ← readLong form (String.ofList name) rest
          let others ← readFrom form inOrder fuel left
          return { others with given := option :: others.given }
      | '-' :: letter :: letters => do
          let (options, left) ← readLetters form (letter :: letters) rest
          let others ← readFrom form inOrder fuel left
          return { others with given := options ++ others.given }
      | _ =>
          if inOrder then .ok ⟨[], argument :: rest⟩
          else do
            let others ← readFrom form inOrder fuel rest
            return { others with operands := argument :: others.operands }

/-- Reads arguments, options and others in any order. -/
def read (form : OptionForm) (arguments : List String) : Except OptionFault Options :=
  readFrom form false (arguments.length + 1) arguments

def readLeading (form : OptionForm) (arguments : List String) : Except OptionFault Options :=
  readFrom form true (arguments.length + 1) arguments

end Options

namespace Work

/-- Reads the arguments of a utility and goes on with them, or complains. -/
def withOptions (form : OptionForm) (status : Nat) (arguments : List String)
    (body : Options → Work Unit) : Work Unit :=
  match Options.read form arguments with
  | .ok options => body options
  | .error fault => refuse status fault.message

end Work

namespace Lines

/-- The lines of a text without their ends, which are a given mark. -/
def upTo (mark : Char) (text : String) : List (List Char) :=
  let pieces := text.toList.splitOn mark
  if pieces.getLast? = some [] then pieces.dropLast else pieces

/-- The lines of a text without their ends. -/
def of (text : String) : List (List Char) := upTo '\n' text

/-- The lines of a text with their ends, which are a given mark; the last one may have
none. -/
def wholeUpTo (mark : Char) (text : String) : List String :=
  let pieces := text.toList.splitOn mark
  let ended := pieces.dropLast.map fun line => String.ofList (line ++ [mark])
  match pieces.getLast? with
  | none | some [] => ended
  | some rest => ended ++ [String.ofList rest]

/-- The lines of a text with their ends; the last one may have none. -/
def whole (text : String) : List String := wholeUpTo '\n' text

/-- Lines as one text, each with a mark as its end. -/
def join (mark : Char) (lines : List (List Char)) : String :=
  String.ofList (lines.flatMap (· ++ [mark]))

end Lines

end ToolParams
