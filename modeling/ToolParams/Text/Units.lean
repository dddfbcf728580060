/-!
# Text measured in 16-bit units

Widths of columns, lengths in journal entries and the order of names are all
counted in 16-bit code units: a character above U+FFFF counts as two, and names
are compared unit by unit.
-/

namespace ToolParams.Text

/-- The one or two 16-bit units of a character. -/
def unitsOf (character : Char) : List Nat :=
  let code := character.toNat
  if code < 0x10000 then [code]
  else [0xD800 + (code - 0x10000) / 0x400, 0xDC00 + (code - 0x10000) % 0x400]

def units (text : String) : List Nat :=
  text.toList.flatMap unitsOf

def width (text : String) : Nat :=
  (units text).length

/-- Whether a list comes no later than another one: at the first place where they
differ its element comes before, or it is a beginning of the other. -/
def notAfter {α : Type} [DecidableEq α] (before : α → α → Bool) : List α → List α → Bool
  | [], _ => true
  | _ :: _, [] => false
  | left :: lefts, right :: rights =>
      before left right || (decide (left = right) && notAfter before lefts rights)

/-- Whether one list of units comes no later than another one. -/
def numbersLE : List Nat → List Nat → Bool :=
  notAfter fun left right => decide (left < right)

/-- The order of names: unit by unit, a proper beginning first. -/
def unitsLE (left right : String) : Bool :=
  numbersLE (units left) (units right)

def sortByUnits (names : List String) : List String :=
  names.mergeSort unitsLE

/-- The text of the first unit of a character: half of a pair has no text of its
own and shows as the replacement character. -/
def firstUnitText (character : Char) : Char :=
  if character.toNat < 0x10000 then character else '\uFFFD'

/-- Spaces that bring a text of `size` units to `target` units. -/
def filler (target size : Nat) : String :=
  String.ofList (List.replicate (target - size) ' ')

/-- The text with spaces in front up to the given width. -/
def padStart (target : Nat) (text : String) : String :=
  filler target (width text) ++ text

/-- The text with spaces behind it up to the given width. -/
def padEnd (target : Nat) (text : String) : String :=
  text ++ filler target (width text)

end ToolParams.Text
