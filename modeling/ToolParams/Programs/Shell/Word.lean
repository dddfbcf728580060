import ToolParams.Programs.Shell.Source

/-!
# Reading words

A word ends at a blank or an operator that is not quoted.  Single quotes keep
everything, double quotes let dollar signs and back quotes through.  How a character is
read depends on the ground it stands on.
-/

namespace ToolParams.Shell

/-- The ground that pieces are read on. -/
inductive Ground where
  /-- in a command, up to a blank or an operator -/
  | bare
  /-- the mark that ends a text in the script, where dollar signs mean nothing -/
  | delimiter
  /-- between braces, up to the closing one -/
  | braced
  /-- between double quotes, up to the closing one -/
  | double
  /-- between braces inside double quotes; perhaps between further double quotes, where
  the closing brace means nothing -/
  | bracedDouble (inner inDocument : Bool)
  /-- a text in the script -/
  | document
  /-- an expression, inside a number of brackets -/
  | arithmetic (depth : Nat)
deriving DecidableEq, Repr

namespace Ground

/-- Whether characters stand for themselves there. -/
def isQuoted : Ground → Bool
  | .bare | .delimiter | .braced => false
  | _ => true

/-- Whether words end at blanks and operators there. -/
def isOpen : Ground → Bool
  | .bare | .delimiter => true
  | _ => false

/-- The problem of a script that ends there. -/
def problem? : Ground → Option SyntaxProblem
  | .bare | .delimiter | .document => none
  | .braced => some .openBrace
  | .double | .bracedDouble .. => some .openQuote
  | .arithmetic _ => some .openArithmetic

/-- The ground between the braces of a parameter; patterns are read afresh. -/
def inBraces (ofPattern : Bool) (ground : Ground) : Ground :=
  if ofPattern || !ground.isQuoted then .braced
  else match ground with
    | .document => .bracedDouble false true
    | .bracedDouble _ inDocument => .bracedDouble false inDocument
    | _ => .bracedDouble false false

/-- Whether a backslash takes the meaning of a character there and vanishes. -/
def isEscaped (ground : Ground) (character : Char) : Bool :=
  !ground.isQuoted || ['\\', '\x60', '$'].contains character ||
    (character = '\x22' && ground ≠ .document) ||
    (character = '\x7d' && match ground with
      | .bracedDouble .. => true
      | _ => false)

end Ground

/-- The single quote. -/
def apostrophe : Char := '\x27'

def doubleQuote : Char := '\x22'

def backQuote : Char := '\x60'

def endsWord (character : Char) : Bool :=
  [' ', '\t', '\n', ';', '&', '|', '<', '>', '(', ')'].contains character

def startsName (character : Char) : Bool := character.isAlpha || character = '_'

def isName (characters : List Char) : Bool :=
  characters.head?.any startsName && characters.all Environment.isNameChar

/-- The parameters whose names are single signs. -/
def specialNames : List Char := ['#', '?', '@', '*', '$', '!', '-']

/-- Whether a sign alone is the name of a parameter. -/
def isSpecial (character : Char) : Bool :=
  character.isDigit || specialNames.contains character

/-- Reads the commands inside a word, up to a closing bracket or to the end. -/
abbrev Bodies := (closed : Bool) → Reader (Option Command)

abbrev Pieces := Ground → Reader Word

/-- The text up to a single quote. -/
def readSingle : Nat → List Char → Reader (List Char)
  | 0, _ => Reader.fail .openQuote
  | fuel + 1, soFar => do
      match ← Reader.takeExactly with
      | none => Reader.fail .openQuote
      | some character =>
          if character = apostrophe then return soFar.reverse
          else readSingle fuel (character :: soFar)

/-- The text up to a back quote, with those backslashes taken out that are read twice. -/
def readBackquoted (quoted : Bool) : Nat → List Char → Reader (List Char)
  | 0, _ => Reader.fail .openBackquote
  | fuel + 1, soFar => do
      match ← Reader.take with
      | none => Reader.fail .openBackquote
      | some character =>
          if character = backQuote then return soFar.reverse
          else if character = '\\' then
            match ← Reader.takeExactly with
            | none => Reader.fail .openBackquote
            | some following =>
                let vanishes := ['\\', backQuote, '$'].contains following ||
                  (quoted && following = doubleQuote)
                readBackquoted quoted fuel
                  (following :: (if vanishes then soFar else '\\' :: soFar))
          else readBackquoted quoted fuel (character :: soFar)

/-- Reads the rest of braces with what follows the name of a parameter. -/
def readEdit (pieces : Pieces) (ground : Ground) : Reader Edit := do
  let content (ofPattern : Bool) : Reader Word := pieces (ground.inBraces ofPattern)
  let replaced (emptyToo : Bool) (sign : Option Char) : Reader Edit := do
    let word ← content false
    match sign with
    | some '-' => return .ifMissing emptyToo word
    | some '=' => return .setIfMissing emptyToo word
    | some '+' => return .ifPresent emptyToo word
    | some '?' => return .demanded emptyToo word
    | _ => return .impossible
  match ← Reader.take with
  | some '\x7d' => return .asIs
  | some ':' => replaced true (← Reader.take)
  | some '%' =>
      let longest ← Reader.takeIf '%'
      return .trimmed true longest (← content true)
  | some '#' =>
      let longest ← Reader.takeIf '#'
      return .trimmed false longest (← content true)
  | sign => replaced false sign

/-- Reads a parameter between braces. -/
def readBraced (pieces : Pieces) (ground : Ground) : Reader Piece := do
  let quoted := ground.isQuoted
  let fuel ← Reader.size
  let name (first : Char) : Reader String := do
    let accepted := if first.isDigit then Char.isDigit else Environment.isNameChar
    return String.ofList (← Reader.takeWhile accepted fuel)
  let impossible : Reader Piece := do
    let _ ← pieces (ground.inBraces false)
    return .parameter "" .impossible quoted
  match ← Reader.look with
  | none => impossible
  | some '#' =>
      Reader.skip
      match ← Reader.look with
      | none => return .parameter "#" (← readEdit pieces ground) quoted
      | some first =>
          if first.isDigit || startsName first then
            let name ← name first
            if ← Reader.takeIf '\x7d' then return .parameter name .length quoted
            else impossible
          else if first ≠ '\x7d' && ((← get).rest.drop 1).head? = some '\x7d' then
            if isSpecial first then
              Reader.skip
              Reader.skip
              return .parameter (String.singleton first) .length quoted
            else impossible
          else return .parameter "#" (← readEdit pieces ground) quoted
  | some first =>
      if first.isDigit || startsName first then
        let name ← name first
        return .parameter name (← readEdit pieces ground) quoted
      else if isSpecial first then
        Reader.skip
        return .parameter (String.singleton first) (← readEdit pieces ground) quoted
      else impossible

/-- Reads what follows a dollar sign, which stands for itself where nothing fits. -/
def readDollar (bodies : Bodies) (pieces : Pieces) (ground : Ground) : Reader Piece := do
  let quoted := ground.isQuoted
  match ← Reader.look with
  | some '(' =>
      Reader.skip
      if ← Reader.takeIf '(' then return .arithmetic (← pieces (.arithmetic 0)) quoted
      else return .output (← bodies true) quoted
  | some '\x7b' =>
      Reader.skip
      readBraced pieces ground
  | some first =>
      if startsName first then
        let name ← Reader.takeWhile Environment.isNameChar (← Reader.size)
        return .parameter (String.ofList name) .asIs quoted
      else if isSpecial first then
        Reader.skip
        return .parameter (String.singleton first) .asIs quoted
      else return .text ['$'] quoted
  | none => return .text ['$'] quoted

/-- The pieces of double quotes.  All arguments alone leave no mark, so that there can be
no field for them. -/
def quotedPieces : Word → Word
  | [.parameter "@" .asIs quoted] => [.parameter "@" .asIs quoted]
  | inside => .mark :: inside

/-- The word that pieces make, the last one first. -/
def finished (soFar : List Piece) : Reader Word := return Word.normal soFar.reverse

/-- Reads pieces up to the end of their ground, behind those that were read already,
the last one first. -/
def readPieces (bodies : Bodies) : Nat → List Piece → Ground → Reader Word
  | 0, _, _ => Reader.fail .tooDeep
  | fuel + 1, soFar, ground => do
      let quoted := ground.isQuoted
      let onward (found : Word) : Reader Word :=
        readPieces bodies fuel (found.reverse ++ soFar) ground
      let literal (character : Char) : Reader Word := onward [.text [character] quoted]
      match ← Reader.look with
      | none =>
          match ground.problem? with
          | some problem => Reader.fail problem
          | none => finished soFar
      | some character =>
          if ground.isOpen && endsWord character then finished soFar
          else
            Reader.skip
            if character = '\\' then
              match ← Reader.takeExactly with
              | none => onward [.text ['\\'] true]
              | some following =>
                  onward [.text
                    (if ground.isEscaped following then [following] else ['\\', following]) true]
            else if character = apostrophe && !quoted then
              let inside ← readSingle (← Reader.size) []
              onward [.mark, .text inside true]
            else if character = doubleQuote then
              match ground with
              | .double => finished soFar
              | .document | .arithmetic _ => literal character
              | .bracedDouble inner inDocument =>
                  readPieces bodies fuel (if inDocument then soFar else .mark :: soFar)
                    (.bracedDouble (!inner) inDocument)
              | _ =>
                  let inside ← readPieces bodies fuel [] .double
                  onward (quotedPieces inside)
            else if character = '\x7d' then
              match ground with
              | .braced | .bracedDouble false _ => finished soFar
              | _ => literal character
            else if character = '$' && ground ≠ .delimiter then
              onward [← readDollar bodies (readPieces bodies fuel []) ground]
            else if character = backQuote && ground ≠ .delimiter then
              let text ← readBackquoted quoted (← Reader.size) []
              onward [.output (← Reader.within text 1 (bodies false)) quoted]
            else match ground, character with
              | .arithmetic depth, '(' =>
                  readPieces bodies fuel (.text [character] true :: soFar)
                    (.arithmetic (depth + 1))
              | .arithmetic (depth + 1), ')' =>
                  readPieces bodies fuel (.text [character] true :: soFar) (.arithmetic depth)
              | .arithmetic 0, ')' =>
                  if ← Reader.takeIf ')' then finished soFar else literal character
              | _, _ => literal character

/-- Reads a word, or a text of another kind, on its ground. -/
def readWord (bodies : Bodies) (ground : Ground) : Reader Word := do
  readPieces bodies (2 * (← Reader.size)) [] ground

/-- Whether a word has quotes in it. -/
def Word.hasQuotes (word : Word) : Bool :=
  word.any fun
    | .text _ quoted => quoted
    | .mark => true
    | .parameter _ _ quoted => quoted
    | .arithmetic _ quoted => quoted
    | .output _ quoted => quoted

end ToolParams.Shell
