import ToolParams.Programs.Shell.Process

/-!
# Commands of the shell itself

What the commands that the shell does itself have in common: how they read options and
numbers, and how they write values that can be read again.
-/

namespace ToolParams.Shell

/-- A command that the shell does itself. -/
abbrev Builtin := List String → Act Unit

namespace Builtin

/-- The number that an argument writes with digits alone. -/
def number (argument : String) : Act Nat := do
  match Scanning.natural? argument with
  | some value => return value
  | none => Act.fail s!"Illegal number: {argument}"

/-- Whether an option letter has a value in a form, where those letters have a colon behind
them; nothing for a letter that is no option. -/
def takesValue? : List Char → Char → Option Bool
  | [], _ => none
  | known :: ':' :: rest, letter =>
      if known = letter then some true else takesValue? rest letter
  | known :: rest, letter =>
      if known = letter then some false else takesValue? rest letter

/-- Reads the letters behind one dash. -/
def readLetters (form : List Char) :
    List Char → List String → Act (List (Char × String) × List String)
  | [], rest => return ([], rest)
  | letter :: letters, rest => do
      match takesValue? form letter with
      | none => Act.fail s!"Illegal option -{letter}"
      | some false =>
          let (others, left) ← readLetters form letters rest
          return ((letter, "") :: others, left)
      | some true =>
          if !letters.isEmpty then return ([(letter, String.ofList letters)], rest)
          else match rest with
            | value :: others => return ([(letter, value)], others)
            | [] => Act.fail s!"No arg for -{letter} option"

/-- Reads the options in front of arguments. -/
def readOptions (form : String) :
    Nat → List String → Act (List (Char × String) × List String)
  | 0, arguments => return ([], arguments)
  | _, [] => return ([], [])
  | fuel + 1, argument :: rest => do
      match argument.toList with
      | ['-', '-'] => return ([], rest)
      | '-' :: letter :: letters =>
          let (found, left) ← readLetters form.toList (letter :: letters) rest
          let (others, left) ← readOptions form fuel left
          return (found ++ others, left)
      | _ => return ([], argument :: rest)

/-- Reads the options in front of arguments and goes on with both. -/
def withOptions (form : String) (body : List (Char × String) → Builtin) : Builtin :=
  fun arguments => do
    let (options, rest) ← readOptions form (arguments.length + 1) arguments
    body options rest

/-- A text in single quotes, with the single quotes in it between double quotes. -/
def quotedChars : Nat → List Char → List Char
  | 0, _ => []
  | fuel + 1, characters =>
      let body := characters.takeWhile (· ≠ apostrophe)
      let rest := characters.drop body.length
      let marks := rest.takeWhile (· = apostrophe)
      let left := rest.drop marks.length
      [apostrophe] ++ body ++ [apostrophe] ++
        (if marks.isEmpty then []
        else [doubleQuote] ++ marks ++ [doubleQuote] ++
          (if left.isEmpty then [] else quotedChars fuel left))

/-- A text as a script would write it. -/
def quoted (text : String) : String :=
  String.ofList (quotedChars (text.length + 1) text.toList)

/-- Writes to the stream of results. -/
def say (text : String) : Act Unit := do
  let _ ← Act.write 1 text

/-- Writes variables, each behind a word, in the order of their names. -/
def sayVariables (word : String) (shown : Variable → Bool) : Act Unit := do
  let entries := ((← get).bindings.toList.filter fun entry => shown entry.2).mergeSort
    fun left right => left.1 ≤ right.1
  say (String.join (entries.map fun (name, binding) =>
    let value := match binding.value with
      | some value => s!"={quoted value}"
      | none => ""
    s!"{word}{name}{value}\n"))

/-- The name of a variable that an argument names or sets. -/
def nameOf (argument : String) : String × Option String :=
  match Text.cut? '=' argument with
  | some (name, value) => (name, some value)
  | none => (argument, none)

def checkName (name : String) : Act Unit := do
  if !isName name.toList then Act.fail s!"{name}: bad variable name"

end Builtin

end ToolParams.Shell
