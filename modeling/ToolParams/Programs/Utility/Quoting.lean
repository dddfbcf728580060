import ToolParams.Text.Pieces

/-!
# Names in complaints

Utilities put names into quotes when they complain, so that a name can be given to a
shell as it is shown.  Bytes that cannot be printed are written as escapes.
-/

namespace ToolParams.Quoting

/-- Signs that mean something to a shell wherever they stand. -/
def signs : List Char :=
  [' ', '!', '\x22', '$', '&', '\x27', '(', ')', '*', ';', '<', '=', '>', '?', '[', '\\', '^',
    '\x60', '|']

/-- Signs that no text between double quotes may have. -/
def notInDouble : List Char := ['\x22', '$', '\x60', '\\', '!']

/-- Whether a byte can be printed. -/
def isPrintable (character : Char) : Bool := ' ' ≤ character && character ≤ '~'

/-- Letters that stand for bytes behind a backslash. -/
def letters : List (Char × Char) :=
  [('\x07', 'a'), ('\x08', 'b'), ('\t', 't'), ('\n', 'n'), ('\x0b', 'v'), ('\x0c', 'f'),
    ('\r', 'r')]

/-- A byte as an escape. -/
def escape (character : Char) : List Char :=
  match letters.lookup character with
  | some letter => ['\\', letter]
  | none =>
      let digits := Nat.toDigits 8 character.toNat
      '\\' :: (List.replicate (3 - digits.length) '0' ++ digits)

/-- The inside of single quotes; `escaping` says whether an escape came last. -/
def inside : Bool → List Char → List Char
  | _, [] => []
  | escaping, character :: rest =>
      if isPrintable character then
        let opened := if escaping then ['\x27', '\x27'] else []
        let shown := if character = '\x27' then ['\x27', '\\', '\x27', '\x27'] else [character]
        opened ++ shown ++ inside false rest
      else
        let opened := if escaping then [] else ['\x27', '$', '\x27']
        opened ++ escape character ++ inside true rest

/-- A name in quotes. -/
def always (name : String) : String :=
  let characters := name.toList
  let double := characters.contains '\x27' && !characters.any notInDouble.contains &&
    characters.all isPrintable
  let mark := if double then '\x22' else '\x27'
  String.ofList (mark :: (if double then characters else inside false characters) ++ [mark])

/-- A name, in quotes if it could be misunderstood without them. -/
def ifNeeded (name : String) : String :=
  let characters := name.toList
  let first := characters.head?.any fun character => character = '#' || character = '~'
  let alone := characters = ['\x7b'] || characters = ['\x7d']
  if characters.isEmpty || first || alone ||
      characters.any (fun character =>
        signs.contains character || character = ':' || !isPrintable character) then
    always name
  else name

/-- A text in quotes, with escapes for what cannot be printed. -/
def plain (text : String) : String :=
  String.ofList ('\x27' :: (text.toList.flatMap fun character =>
    if character = '\x27' || character = '\\' then ['\\', character]
    else if isPrintable character then [character]
    else escape character) ++ ['\x27'])

end ToolParams.Quoting
