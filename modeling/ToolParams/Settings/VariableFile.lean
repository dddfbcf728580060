import ToolParams.Environment
import ToolParams.OrderedMap.IndexFirst
import ToolParams.Text.Blank
import ToolParams.Text.Pieces

/-!
# Files of variables

A file of variables holds lines `NAME=value` or `NAME: value`, possibly behind the
word `export`.  A value in quotes may contain line ends and comment signs and ends
at a quote with nothing but a comment behind it on its line; any other value ends
at a comment sign or the end of the line.  Lines of another form do not count.
-/

namespace ToolParams.VariableFile

def isLineEnd (character : Char) : Bool :=
  character = '\n' || character = '\u2028' || character = '\u2029'

/-- Characters of names. -/
def isNameChar (character : Char) : Bool :=
  Environment.isNameChar character || character = '.' || character = '-'

/-- Marks that may enclose a value. -/
def isQuote (character : Char) : Bool :=
  character = '"' || character.toNat = 0x27 || character.toNat = 0x60

def nextLine (characters : List Char) : List Char :=
  (characters.dropWhile (!isLineEnd ·)).drop 1

/-- The text with all line ends written alike. -/
def unifyLineEnds : List Char → List Char
  | '\r' :: '\n' :: rest => '\n' :: unifyLineEnds rest
  | '\r' :: rest => '\n' :: unifyLineEnds rest
  | character :: rest => character :: unifyLineEnds rest
  | [] => []

/-- The ways to end a quoted value, each with the text before the quote and what
follows it: at the first quote that is not behind a backslash, or else at a quote
before that, the last first. -/
def closings (quote : Char) : List Char → List (List Char × List Char)
  | [] => []
  | '\\' :: character :: rest =>
      if character = quote then
        ((closings quote rest).map fun (text, behind) => ('\\' :: character :: text, behind)) ++
          [(['\\'], rest)]
      else (closings quote (character :: rest)).map fun (text, behind) => ('\\' :: text, behind)
  | character :: rest =>
      if character = quote then [([], rest)]
      else (closings quote rest).map fun (text, behind) => (character :: text, behind)

/-- Whether nothing but blanks or a comment stands on a line. -/
def isLineDone (characters : List Char) : Bool :=
  let behind := characters.dropWhile Text.isBlank
  behind.isEmpty || behind.head? = some '#' ||
    (characters.takeWhile Text.isBlank).any isLineEnd

/-- What follows a line that is done, with a comment behind it. -/
def afterLine (characters : List Char) : List Char :=
  match characters.dropWhile Text.isBlank with
  | '#' :: comment => nextLine comment
  | _ => nextLine characters

/-- What stands before the last quote that ends a line or the text, and what follows
that quote. -/
def lastClosing? (quote : Char) : List Char → Option (List Char × List Char)
  | [] => none
  | character :: rest =>
      match lastClosing? quote rest with
      | some (inside, behind) => some (character :: inside, behind)
      | none =>
          if character = quote && (rest.head?.map isLineEnd).getD true then some ([], rest)
          else none

/-- A text without the quotes that enclose it, or that enclose some of its lines: a
quote that begins a line is taken out with the last one of its kind that ends a line. -/
def unquote : Nat → Bool → List Char → List Char
  | 0, _, characters => characters
  | _, _, [] => []
  | steps + 1, atStart, character :: rest =>
      let plain := character :: unquote steps (isLineEnd character) rest
      if atStart && isQuote character then
        match lastClosing? character rest with
        | some (inside, behind) => inside ++ unquote steps false behind
        | none => plain
      else plain

/-- Line ends put in for their escapes. -/
def unescape : List Char → List Char
  | '\\' :: 'n' :: rest => '\n' :: unescape rest
  | '\\' :: 'r' :: rest => '\r' :: unescape rest
  | character :: rest => character :: unescape rest
  | [] => []

/-- The value that a written one stands for. -/
def interpret (written : List Char) : String :=
  let text := Text.trimChars written
  let bare := unquote (text.length + 1) true text
  String.ofList (if text.head? = some '"' then unescape bare else bare)

/-- The quoted value at the front, and what follows its line. -/
def quoted? (characters : List Char) : Option (List Char × List Char) :=
  match characters.dropWhile Text.isBlank with
  | quote :: inner =>
      if isQuote quote then
        ((closings quote inner).find? fun closing => isLineDone closing.2).map
          fun (text, behind) => (quote :: (text ++ [quote]), afterLine behind)
      else none
  | [] => none

/-- The value at the front, and what follows its line. -/
def value (characters : List Char) : String × List Char :=
  match quoted? characters with
  | some (written, rest) => (interpret written, rest)
  | none =>
      let isEnd (character : Char) := character = '#' || character = '\n'
      (interpret (characters.takeWhile (!isEnd ·)),
        afterLine (characters.dropWhile (!isEnd ·)))

/-- The name and value at the front, and what follows their line. -/
def named? (characters : List Char) : Option (String × String × List Char) :=
  let name := characters.takeWhile isNameChar
  let behind := characters.dropWhile isNameChar
  if name.isEmpty then none
  else match behind.dropWhile Text.isBlank, behind with
    | '=' :: rest, _ => some (String.ofList name, value rest)
    | _, ':' :: blank :: rest =>
        if Text.isBlank blank then some (String.ofList name, value rest) else none
    | _, _ => none

/-- What follows the word `export` at the front. -/
def afterExport? (characters : List Char) : Option (List Char) :=
  let behind := characters.drop 6
  if "export".toList.isPrefixOf characters && (behind.head?.map Text.isBlank).getD false then
    some (behind.dropWhile Text.isBlank)
  else none

/-- The assignment at the front, and what follows its line. -/
def assignment? (characters : List Char) : Option (String × String × List Char) :=
  let start := characters.dropWhile Text.isBlank
  match (afterExport? start).bind named? with
  | some found => some found
  | none => named? start

/-- The assignments of a file; every step passes at least one character. -/
def assignments : Nat → List Char → List (String × String)
  | 0, _ => []
  | _, [] => []
  | steps + 1, characters =>
      match assignment? characters with
      | some (name, value, rest) => (name, value) :: assignments steps rest
      | none => assignments steps (nextLine characters)

/-- A name that no file gives a value to. -/
def droppedName : String := "__proto__"

/-- The variables that a file sets, in the order of its members: of two values for one
name the last counts. -/
def read (text : String) : List (String × String) :=
  let characters := unifyLineEnds text.toList
  OrderedMap.members
    ((assignments (characters.length + 1) characters).filter (·.1 ≠ droppedName))

/-- An environment with the variables of a file added; variables that are set stay. -/
def addTo (environment : Environment) (text : String) : Environment :=
  (read text).foldl
    (fun current (name, value) =>
      if current.contains name then current else current.insert name value) environment

end ToolParams.VariableFile
