import ToolParams.Text.Units

/-!
# Quoted texts

How a message shows a text that cannot be used.  The text stands in quotes that do
not occur in it, if there are such, and what cannot be printed is written as an
escape.  A long text is shown line by line and cut off.
-/

namespace ToolParams.Text

/-- The mark around a text: single quotes, or others that do not occur in it. -/
def quoteMark (text : List Char) : Char :=
  let apostrophe : Char := '\x27'
  let backQuote : Char := '\x60'
  if !text.contains apostrophe then apostrophe
  else if !text.contains '\x22' then '\x22'
  else if !text.contains backQuote && !(text.zip (text.drop 1)).contains ('$', '\x7b') then
    backQuote
  else apostrophe

/-- Letters that stand for control characters behind a backslash. -/
def controlLetters : List (Char × Char) :=
  [('\x08', 'b'), ('\t', 't'), ('\n', 'n'), ('\x0c', 'f'), ('\r', 'r')]

/-- A character as it is shown between marks. -/
def shownBetween (mark character : Char) : List Char :=
  let code := character.toNat
  match controlLetters.lookup character with
  | some letter => ['\\', letter]
  | none =>
      if character = '\\' then ['\\', '\\']
      else if character = mark && mark = '\x27' then ['\\', mark]
      else if code < 0x20 || (0x7F ≤ code && code ≤ 0x9F) then
        let digits := (Nat.toDigits 16 code).map Char.toUpper
        ['\\', 'x'] ++ List.replicate (2 - digits.length) '0' ++ digits
      else [character]

def quotedChars (characters : List Char) : List Char :=
  let mark := quoteMark characters
  mark :: (characters.flatMap (shownBetween mark) ++ [mark])

/-- The lines of a text, each with the line end behind it. -/
def linesWithEnds : List Char → List (List Char)
  | [] => []
  | character :: rest =>
      match linesWithEnds rest with
      | line :: others =>
          if character = '\n' then [character] :: line :: others
          else (character :: line) :: others
      | [] => [[character]]

/-- The most units of a text that is shown on one line. -/
def longestLine : Nat := 124

/-- What stands between the lines of a text that are shown one below the other. -/
def lineJoint : List Char := " +\n  ".toList

/-- The text in quotes; a long one with each of its lines in quotes of its own. -/
def quoted (text : String) : String :=
  let characters := text.toList
  String.ofList <|
    if width text ≤ longestLine then quotedChars characters
    else lineJoint.intercalate ((linesWithEnds characters).map quotedChars)

/-- The most units of a quoted text that a message shows. -/
def longestShown : Nat := 128

/-- The beginning of a text that fits into a number of units.  A character of which only
one half fits is shown as the replacement character. -/
def takeUnits : Nat → List Char → List Char
  | _, [] => []
  | room, character :: rest =>
      let size := (unitsOf character).length
      if size ≤ room then character :: takeUnits (room - size) rest
      else if room = 0 then []
      else [firstUnitText character]

/-- The most units of a text that are looked at to show it. -/
def longestRead : Nat := 10000

/-- The text in quotes, cut off if it is long. -/
def quotedBriefly (text : String) : String :=
  let shown := quoted (String.ofList (takeUnits longestRead text.toList))
  if longestShown < width shown then
    String.ofList (takeUnits longestShown shown.toList) ++ "..."
  else shown

end ToolParams.Text
