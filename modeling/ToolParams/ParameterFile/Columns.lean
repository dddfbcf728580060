import ToolParams.Text.Units

/-!
# The columns of a parameter line

A line is a list of columns with commas between them.  A column is a run of bare
characters, and may end in one quoted part, in which commas stand for themselves
and a quote or a backslash is written behind a backslash.
-/

namespace ToolParams

/-- Why a line has no columns. -/
inductive ColumnsFault where
  | missingComma (found : Char) (line : String)
  | unterminatedQuote (line : String)
deriving DecidableEq, Repr

def ColumnsFault.message : ColumnsFault → String
  | .missingComma found line =>
      s!"Expected a comma after a quote, found {Text.firstUnitText found} in [{line}]"
  | .unterminatedQuote line => s!"Unterminated quote in [{line}]"

namespace Columns

/-- Where in a column the reader stands. -/
inductive Place where
  /-- before any quote -/
  | bare
  /-- between the quotes -/
  | quoted
  /-- behind the closing quote -/
  | closed
deriving DecidableEq, Repr

/-- What stopped the reader: a character behind a closing quote, or the end. -/
inductive Stop where
  | found (character : Char)
  | atEnd
deriving DecidableEq, Repr

/-- What is left of the present column, and the columns behind it. -/
abbrev Rest := List Char × List (List Char)

/-- Adds a character to the front of the present column. -/
def add (character : Char) (rest : Rest) : Rest :=
  (character :: rest.1, rest.2)

/-- Ends the present column and begins the next. -/
def next (rest : Rest) : Rest :=
  ([], rest.1 :: rest.2)

/-- Reads from a place in a column to the end of the line. -/
def scan : Place → List Char → Except Stop Rest
  | .bare, [] => .ok ([], [])
  | .closed, [] => .ok ([], [])
  | .quoted, [] => .error .atEnd
  | .bare, '"' :: line => scan .quoted line
  | .bare, ',' :: line => (scan .bare line).map next
  | .bare, character :: line => (scan .bare line).map (add character)
  | .quoted, '\\' :: '"' :: line => (scan .quoted line).map (add '"')
  | .quoted, '\\' :: '\\' :: line => (scan .quoted line).map (add '\\')
  | .quoted, '"' :: line => scan .closed line
  | .quoted, character :: line => (scan .quoted line).map (add character)
  | .closed, ',' :: line => (scan .bare line).map next
  | .closed, character :: _ => .error (.found character)

/-- The columns of a line, with quotes removed. -/
def ofChars (line : List Char) : Except Stop (List (List Char)) :=
  (scan .bare line).map fun rest => rest.1 :: rest.2

/-- The columns of a line, with quotes removed. -/
def split (line : String) : Except ColumnsFault (List String) :=
  match ofChars line.toList with
  | .ok columns => .ok (columns.map String.ofList)
  | .error (.found character) => .error (.missingComma character line)
  | .error .atEnd => .error (.unterminatedQuote line)

/-- The characters of a quoted part, with quotes and backslashes behind a backslash. -/
def escape : List Char → List Char
  | [] => []
  | character :: rest =>
      if character = '"' ∨ character = '\\' then '\\' :: character :: escape rest
      else character :: escape rest

/-- A text as a quoted column. -/
def quote (text : String) : String :=
  String.ofList ('"' :: (escape text.toList ++ ['"']))

/-- A line of columns that are written already. -/
def join (columns : List String) : String :=
  ",".intercalate columns

end Columns

end ToolParams
