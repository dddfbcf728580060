import ToolParams.Address.Alias
import ToolParams.Address.Punycode
import ToolParams.Address.Refused
import ToolParams.Text.Capitals
import ToolParams.Text.Direction
import ToolParams.Text.Joining

/-!
# Names of hosts

A name consists of labels with dots between them.  Its characters are brought to their
plain small forms, those that do not count are left out, and some are refused.  A label
beyond ASCII has to be readable: it may not begin with a mark, a joiner has to stand
between letters that join, and letters that go to the left may not be mixed with others.
-/

namespace ToolParams.Address

/-- What a character of a name becomes. -/
def settle? (character : Char) : Option (List Char) :=
  if character.toNat < 0x80 then some [character.toLower]
  else if ignored.has character then some []
  else if refused.has character then none
  else some ((plain? character).getD [character])

/-- What the characters of a name become. -/
def settleAll? (characters : List Char) : Option (List Char) :=
  (characters.mapM settle?).map List.flatten

/-- The character that keeps letters apart. -/
def separator : Char := '\u200C'

/-- The character that joins letters. -/
def joiner : Char := '\u200D'

/-- Whether the first joiner in a label stands where it means something, seen with the
characters before it, the last one first; nothing, if there is no joiner. -/
def joinsWell? (before : List Char) : List Char → Option Bool
  | [] => none
  | character :: behind =>
      if character = separator || character = joiner then
        some ((before.head?.map Text.isVirama).getD false ||
          (character = separator && before.any Text.joinsNext &&
            behind.any Text.joinsPrevious))
      else joinsWell? (character :: before) behind

/-- Whether the letters of a label that go to the left are not mixed with others: all
characters go to the left or nowhere if the first one does not go to the right, and at
most the last one goes to the left if it does. -/
def hasGoodDirections (label : List Char) : Bool :=
  let all := label.map Text.direction
  let isLeftward (found : Text.Direction) := found = .leftward || found = .leftwardDigit
  let counted := (all.reverse.dropWhile (· = .mark)).reverse
  if counted.isEmpty then false
  else if !all.any isLeftward then true
  else if all.head? = some .rightward then !counted.dropLast.any isLeftward
  else
    !counted.contains .rightward &&
      !(counted.contains .digit && counted.contains .leftwardDigit) &&
      (counted.getLast?.map fun last => isLeftward last || last = .digit).getD false

/-- Whether a label beyond ASCII can be read.  One with joiners is judged by the first
of them, any other by its directions. -/
def isReadable (label : List Char) : Bool :=
  !label.isEmpty && !label.contains '.' && !(label.head?.map Text.isMark).getD false &&
    (joinsWell? [] label).getD (hasGoodDirections label)

/-- Whether a character stands in a name as it is. -/
def isSettled (character : Char) : Bool :=
  settle? character = some [character] && !Text.isCapital character

/-- The mark of a label that is the ASCII form of another one. -/
def formMark : List Char := ['x', 'n', '-', '-']

/-- Whether a label, its characters settled, can be part of a name. -/
def isLabel (label : List Char) : Bool :=
  if formMark.isPrefixOf label then
    match Punycode.decode? (label.drop formMark.length) with
    | some decoded =>
        label.all (·.toNat < 0x80) && !formMark.isPrefixOf (label.drop formMark.length) &&
          decoded.all isSettled && isReadable decoded
    | none => false
  else label.all (·.toNat < 0x80) || isReadable label

/-- Signs that no name contains. -/
def signs : List Char :=
  ['#', '/', ':', '<', '>', '?', '@', '[', '\\', ']', '^', '|', '%']

/-- Whether a character is a control character, a blank or a sign that no name
contains. -/
def isOutside (character : Char) : Bool :=
  character.toNat ≤ 0x20 || character.toNat = 0x7F || signs.contains character

/-- The name that characters spell, its characters settled. -/
def name? (characters : List Char) : Option (List Char) :=
  (settleAll? characters).filter fun settled =>
    !settled.isEmpty && !settled.any isOutside &&
      (settled.splitOn '.').all fun label => label.isEmpty || isLabel label

end ToolParams.Address
