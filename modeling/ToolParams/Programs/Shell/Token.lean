import ToolParams.Programs.Shell.Word

/-!
# Tokens of a script

A script is cut into words, operators, keywords and redirections.  Which words are
keywords depends on where they stand.  A text that is read from the following lines is
taken out of them where it is announced.
-/

namespace ToolParams.Shell

/-- How a token is read. -/
structure TokenMode where
  /-- whether ends of lines are passed over -/
  overLines : Bool
  keywords : Bool
deriving DecidableEq, Repr

namespace TokenMode

def plain : TokenMode := ⟨false, false⟩

def first : TokenMode := ⟨false, true⟩

/-- The first token of a command that may stand on a later line. -/
def onward : TokenMode := ⟨true, true⟩

end TokenMode

/-- The words that are keywords where a command may begin. -/
def keywords : List String :=
  ["!", "case", "do", "done", "elif", "else", "esac", "fi", "for", "if", "in", "then",
    "until", "while", "\x7b", "\x7d"]

/-- The tokens that a list of commands can end with. -/
def endsList : Token → Bool
  | .ending => true
  | .sign text => [")", ";;"].contains text
  | .keyword name => ["do", "done", "elif", "else", "esac", "fi", "then", "\x7d"].contains name
  | _ => false

/-- A token as faults tell it. -/
def Token.shown : Token → String
  | .word .. => "word"
  | .keyword name => s!"\"{name}\""
  | .sign text => s!"\"{text}\""
  | .redirect .. => "redirection"
  | .newline => "newline"
  | .ending => "end of file"

/-- Reads the sign of a redirection. -/
def readRedirectionSign : Reader (Nat × String) := do
  if ← Reader.takeIf '>' then
    if ← Reader.takeIf '>' then return (1, ">>")
    else if ← Reader.takeIf '|' then return (1, ">|")
    else if ← Reader.takeIf '&' then return (1, ">&")
    else return (1, ">")
  else
    Reader.skip
    if ← Reader.takeIf '<' then
      if ← Reader.takeIf '-' then return (0, "<<-") else return (0, "<<")
    else if ← Reader.takeIf '&' then return (0, "<&")
    else if ← Reader.takeIf '>' then return (0, "<>")
    else return (0, "<")

/-- The descriptor in front of a redirection: one digit, or none at all. -/
def descriptor? : Word → Option (Option Nat)
  | [] => some none
  | [.text [digit] false] => if digit.isDigit then some (some (digit.toNat - 48)) else none
  | _ => none

/-- Passes over a comment, up to the end of its line. -/
def skipComment : Nat → Reader Unit
  | 0 => return ()
  | fuel + 1 => do
      match (← get).rest with
      | [] | '\n' :: _ => return ()
      | _ =>
          Reader.skip
          skipComment fuel

/-- Reads a token as it stands. -/
def scan (bodies : Bodies) (ground : Ground) : Nat → Reader Token
  | 0 => return .ending
  | fuel + 1 => do
      let doubled (sign : Char) : Reader Token := do
        Reader.skip
        if ← Reader.takeIf sign then return .sign (String.ofList [sign, sign])
        else return .sign (String.singleton sign)
      match ← Reader.look with
      | none => return .ending
      | some '\n' =>
          Reader.skip
          return .newline
      | some '#' =>
          skipComment (← Reader.size)
          scan bodies ground fuel
      | some character =>
          if character = ' ' || character = '\t' then
            Reader.skip
            scan bodies ground fuel
          else if ['&', '|', ';'].contains character then doubled character
          else if character = '(' || character = ')' then
            Reader.skip
            return .sign (String.singleton character)
          else
            let word ← readWord bodies ground
            let following ← Reader.look
            let redirects := following = some '<' || following = some '>'
            match if redirects then descriptor? word else none with
            | some descriptor =>
                let (standard, sign) ← readRedirectionSign
                return .redirect (descriptor.getD standard) sign
            | none => return .word word word.hasQuotes

/-- Takes the token that was put back, or reads one. -/
def nextToken (bodies : Bodies) (ground : Ground) : Reader Token := do
  let source ← get
  match source.pushed with
  | some token =>
      set { source with pushed := none }
      return token
  | none => scan bodies ground (← Reader.size)

def putBack (token : Token) : Reader Unit :=
  modify fun source => { source with pushed := some token }

/-- Reads a token in a mode. -/
def readTokenFrom (bodies : Bodies) (mode : TokenMode) : Nat → Reader Token
  | 0 => Reader.fail .tooDeep
  | fuel + 1 => do
      match ← nextToken bodies .bare with
      | .newline =>
          if mode.overLines then readTokenFrom bodies mode fuel else return .newline
      | .word pieces false =>
          match Word.literal? pieces with
          | none => return .word pieces false
          | some characters =>
              let name := String.ofList characters
              if mode.keywords && keywords.contains name then return .keyword name
              else return .word pieces false
      | token => return token

def readToken (bodies : Bodies) (mode : TokenMode) : Reader Token := do
  readTokenFrom bodies mode (← Reader.size)

def unexpected {α : Type} (found : Token) (wanted : Option String) : Reader α :=
  Reader.fail (.unexpected found.shown wanted)

/-- Splits a script behind its current line, which a backslash may lengthen. -/
def spanLine : List Char → List Char → List Char × List Char
  | soFar, [] => (soFar.reverse, [])
  | soFar, '\\' :: '\n' :: rest => spanLine ('\n' :: '\\' :: soFar) rest
  | soFar, '\n' :: rest => (soFar.reverse, rest)
  | soFar, character :: rest => spanLine (character :: soFar) rest

/-- Whether an end of line behind a line counts for nothing. -/
def isContinued (line : List Char) : Bool :=
  (line.reverse.takeWhile (· = '\\')).length % 2 = 1

/-- The text up to the line that ends it, the number of lines, and what follows. -/
def documentLines (delimiter : List Char) (dropTabs literal : Bool) :
    Nat → Bool → List Char → List Char → Nat → List Char × Nat × List Char
  | 0, _, soFar, rest, count => (soFar, count, rest)
  | fuel + 1, continued, soFar, rest, count =>
      if rest.isEmpty then (soFar, count, [])
      else
        let line := rest.takeWhile (· ≠ '\n')
        let others := rest.drop (line.length + 1)
        let ended := !(rest.drop line.length).isEmpty
        let line := if dropTabs && !continued then line.dropWhile (· = '\t') else line
        if line = delimiter && !continued then (soFar, count + 1, others)
        else
          let soFar := line.reverse ++ soFar
          documentLines delimiter dropTabs literal fuel (!literal && isContinued line)
            (if ended then '\n' :: soFar else soFar) others (count + 1)

/-- Takes the lines of a text out of those that follow the current line. -/
def takeDocument (bodies : Bodies) (dropTabs literal : Bool) (delimiter : List Char) :
    Reader Word := do
  let source ← get
  let (line, following) := spanLine [] source.rest
  let (reversed, count, others) :=
    documentLines delimiter dropTabs literal (following.length + 1) false [] following 0
  let body := reversed.reverse
  let word ← if literal then pure [.text body true]
    else Reader.within body (source.line + source.owed + 1) (readWord bodies .document)
  let rest := if line.length < source.rest.length then line ++ '\n' :: others else line
  set { source with rest, owed := source.owed + count }
  return word

/-- The text of a word that announces the end of a text. -/
def delimiterText (word : Word) : List Char :=
  word.flatMap fun
    | .text content _ => content
    | .parameter name _ _ => '$' :: name.toList
    | _ => []

/-- Reads the target of a redirection. -/
def readRedirection (bodies : Bodies) (descriptor : Nat) (sign : String) :
    Reader Redirection := do
  let ofDocument := sign = "<<" || sign = "<<-"
  match ← nextToken bodies (if ofDocument then .delimiter else .bare) with
  | .word word quoted =>
      match sign with
      | "<<" | "<<-" =>
          return .document descriptor
            (← takeDocument bodies (sign = "<<-") quoted (delimiterText word))
      | ">&" | "<&" =>
          match word with
          | [.text ['-'] false] => return .copy descriptor none
          | [.text [digit] false] =>
              if digit.isDigit then return .copy descriptor (some (digit.toNat - 48))
              else return .copyNamed descriptor word
          | _ => return .copyNamed descriptor word
      | "<" => return .file descriptor .reading word
      | "<>" => return .file descriptor .both word
      | ">>" => return .file descriptor .appending word
      | ">|" => return .file descriptor .overwriting word
      | _ => return .file descriptor .writing word
  | token => unexpected token none

end ToolParams.Shell
