import ToolParams.Environment
import ToolParams.Programs.Shell.Command

/-!
# Scripts that are being read

What is left of a script, with the number of the line.  A backslash at the end of a
line joins it with the next one.  Reading fails with a fault that knows its line.
-/

namespace ToolParams.Shell

/-- What can be wrong in a script. -/
inductive SyntaxProblem where
  /-- a token at the wrong place, and the one that should be there -/
  | unexpected (found : String) (wanted : Option String)
  | openQuote
  | openBrace
  | openArithmetic
  | openBackquote
  | loopVariable
  | functionName
  | tooDeep
deriving DecidableEq, Repr

/-- The text of a problem. -/
def SyntaxProblem.message : SyntaxProblem → String
  | .unexpected found none => s!"{found} unexpected"
  | .unexpected found (some wanted) => s!"{found} unexpected (expecting {wanted})"
  | .openQuote => "Unterminated quoted string"
  | .openBrace => "Missing '\x7d'"
  | .openArithmetic => "Missing '))'"
  | .openBackquote => "EOF in backquote substitution"
  | .loopVariable => "Bad for loop variable"
  | .functionName => "Bad function name"
  | .tooDeep => "too deeply nested"

/-- A problem and its line. -/
structure SyntaxFault where
  line : Nat
  problem : SyntaxProblem
deriving DecidableEq, Repr

/-- A token of a script. -/
inductive Token where
  | word (pieces : Word) (quoted : Bool)
  | keyword (name : String)
  | sign (text : String)
  /-- a redirection, whose target the next word names -/
  | redirect (descriptor : Nat) (sign : String)
  | newline
  | ending

/-- What is left of a script. -/
structure Source where
  rest : List Char
  line : Nat
  /-- lines that were taken out behind the current one -/
  owed : Nat
  /-- a token that was read already -/
  pushed : Option Token
  /-- no fewer than the tokens that are left -/
  bound : Nat

/-- Reads something of a script. -/
abbrev Reader := StateT Source (Except SyntaxFault)

/-- A script at its first line. -/
def Source.ofText (text : List Char) : Source where
  rest := text
  line := 1
  owed := 0
  pushed := none
  bound := text.length + 1

/-- The rest of a text behind line ends that a backslash takes away, and their number. -/
def joinLines : List Char → List Char × Nat
  | '\\' :: '\n' :: rest =>
      let (left, passed) := joinLines rest
      (left, passed + 1)
  | characters => (characters, 0)

namespace Reader

def fail {α : Type} (problem : SyntaxProblem) : Reader α := do
  throw ⟨(← get).line, problem⟩

/-- Passes over joined line ends and looks at the next character. -/
def look : Reader (Option Char) := do
  let source ← get
  match source.rest with
  | '\\' :: _ =>
      let (rest, passed) := joinLines source.rest
      set { source with rest, line := source.line + passed }
      return rest.head?
  | rest => return rest.head?

/-- Takes the next character; the end of a line is counted. -/
def skip : Reader Unit := do
  let source ← get
  match source.rest with
  | [] => return ()
  | character :: rest =>
      if character = '\n' then
        set { source with rest, line := source.line + 1 + source.owed, owed := 0 }
      else set { source with rest }

/-- Looks at the next character and takes it. -/
def take : Reader (Option Char) := do
  let character ← look
  skip
  return character

/-- Takes the next character as it is written. -/
def takeExactly : Reader (Option Char) := do
  let character := (← get).rest.head?
  skip
  return character

/-- Takes the next character if it is a given one. -/
def takeIf (wanted : Char) : Reader Bool := do
  if (← look) = some wanted then
    skip
    return true
  return false

/-- The characters of a name at the front. -/
def takeWhile (accepted : Char → Bool) : Nat → Reader (List Char)
  | 0 => return []
  | fuel + 1 => do
      match ← look with
      | some character =>
          if accepted character then
            skip
            return character :: (← takeWhile accepted fuel)
          return []
      | none => return []

/-- A bound on the tokens that are left: one for every character, and one for a token
that was put back. -/
def size : Reader Nat := return (← get).bound

/-- Reads another text, with its own lines, in the place of the script. -/
def within {α : Type} (text : List Char) (line : Nat) (body : Reader α) : Reader α := do
  let source ← get
  set { Source.ofText text with line }
  let result ← body
  set source
  return result

end Reader

end ToolParams.Shell
