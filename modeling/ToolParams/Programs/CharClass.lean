/-!
# Classes of characters

A class accepts characters by ranges.  Some classes have names.  All of them are about
ASCII; a character beyond it is in a class only if a range says so.
-/

namespace ToolParams

/-- A class of characters. -/
inductive CharClass where
  | any
  /-- inside or outside ranges -/
  | ranges (inside : Bool) (bounds : List (Char × Char))
deriving DecidableEq, Repr

namespace CharClass

/-- Whether a character lies in one of some ranges. -/
def within (bounds : List (Char × Char)) (character : Char) : Bool :=
  bounds.any fun bound => bound.1 ≤ character && character ≤ bound.2

def accepts : CharClass → Char → Bool
  | .any, _ => true
  | .ranges inside bounds, character => within bounds character == inside

def one (character : Char) : CharClass := .ranges true [(character, character)]

/-- The classes that have names. -/
def named : List (String × List (Char × Char)) :=
  [("alpha", [('A', 'Z'), ('a', 'z')]),
    ("digit", [('0', '9')]),
    ("alnum", [('0', '9'), ('A', 'Z'), ('a', 'z')]),
    ("upper", [('A', 'Z')]),
    ("lower", [('a', 'z')]),
    ("space", [('\t', '\r'), (' ', ' ')]),
    ("blank", [('\t', '\t'), (' ', ' ')]),
    ("punct", [('!', '/'), (':', '@'), ('[', '\x60'), ('\x7b', '~')]),
    ("print", [(' ', '~')]),
    ("graph", [('!', '~')]),
    ("cntrl", [('\x00', '\x1f'), ('\x7f', '\x7f')]),
    ("xdigit", [('0', '9'), ('A', 'F'), ('a', 'f')])]

/-- The ranges of the name between `[:` and `:]` at the front, and what follows. -/
def readNamed (characters : List Char) : Option (List (Char × Char) × List Char) :=
  match characters with
  | '[' :: ':' :: rest =>
      let name := rest.takeWhile Char.isLower
      match rest.drop name.length with
      | ':' :: ']' :: left => (named.lookup (String.ofList name)).map fun bounds => (bounds, left)
      | _ => none
  | _ => none

/-- The ranges of a class that may have capitals and small letters for each other. -/
def foldCase (bounds : List (Char × Char)) : List (Char × Char) :=
  let letters := (List.range 26).flatMap fun offset =>
    let small := Char.ofNat (97 + offset)
    let capital := Char.ofNat (65 + offset)
    if within bounds small || within bounds capital then
      [(small, small), (capital, capital)]
    else []
  bounds ++ letters

end CharClass

end ToolParams
