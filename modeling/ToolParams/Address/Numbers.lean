import ToolParams.Number.Numeral

/-!
# Numbers of hosts

A host may be given by a number instead of a name: one to four numbers with dots
between them, or, in brackets, up to eight groups of hexadecimal digits with colons
between them.
-/

namespace ToolParams.Address

/-- The value of digits in a base; without digits it is zero. -/
def digitsValue? (base : Nat) (digits : List Char) : Option Nat :=
  (digits.mapM (Number.digit? base)).map (Number.ofDigits base)

/-- The value of a part: decimal, or octal behind a zero, or hexadecimal behind `0x`. -/
def partValue? (part : List Char) : Option Nat :=
  match part with
  | [] => none
  | '0' :: 'x' :: digits => digitsValue? 16 digits
  | '0' :: digit :: digits => digitsValue? 8 (digit :: digits)
  | digits => digitsValue? 10 digits

/-- The parts of a host between its dots; a dot at its end does not count. -/
def parts (host : List Char) : List (List Char) :=
  let found := host.splitOn '.'
  if 1 < found.length && found.getLast? = some [] then found.dropLast else found

/-- Whether a host ends in a number, so that it has to be one as a whole. -/
def endsInNumber (host : List Char) : Bool :=
  match (parts host).getLast? with
  | none | some [] => false
  | some ('0' :: 'x' :: digits) => (digitsValue? 16 digits).isSome
  | some part => part.all Char.isDigit

/-- Whether numbers are a host: each but the last is a byte, and the last one takes
what is left of four bytes. -/
def areHost : Nat → List Nat → Bool
  | _, [] => false
  | room, [last] => last < 256 ^ room
  | room, number :: others => number < 256 && areHost (room - 1) others

def isNumber (host : List Char) : Bool :=
  let found := parts host
  found.length ≤ 4 && ((found.mapM partValue?).map (areHost 4)).getD false

/-- Whether a text is a byte in decimal digits without zeros in front. -/
def isByte (digits : List Char) : Bool :=
  !digits.isEmpty && digits.all Char.isDigit && (digits = ['0'] || digits.head? ≠ some '0') &&
    ((digitsValue? 10 digits).map fun value => decide (value < 256)).getD false

/-- Whether a text is four bytes with dots between them. -/
def areBytes (text : List Char) : Bool :=
  let found := text.splitOn '.'
  found.length = 4 && found.all isByte

/-- Whether a text is a group of one to four hexadecimal digits. -/
def isGroup (digits : List Char) : Bool :=
  !digits.isEmpty && digits.length ≤ 4 && digits.all fun digit => (Number.digit? 16 digit).isSome

/-- The number of groups that texts stand for, if they are groups; the last one may be
four bytes, which stand for two groups. -/
def groupCount? (bytesAllowed : Bool) : List (List Char) → Option Nat
  | [] => some 0
  | [last] =>
      if isGroup last then some 1
      else if bytesAllowed && areBytes last then some 2
      else none
  | text :: others => if isGroup text then (groupCount? bytesAllowed others).map (· + 1) else none

/-- What stands before and after the first two colons in a row. -/
def cutGap? : List Char → Option (List Char × List Char)
  | ':' :: ':' :: rest => some ([], rest)
  | character :: rest => (cutGap? rest).map fun (before, after) => (character :: before, after)
  | [] => none

/-- The number of groups in a text, which may be empty. -/
def groupsIn? (bytesAllowed : Bool) (text : List Char) : Option Nat :=
  if text.isEmpty then some 0 else groupCount? bytesAllowed (text.splitOn ':')

/-- Whether a text in brackets is the number of a host: eight groups, or fewer with one
gap for those that are zero. -/
def areGroups (text : List Char) : Bool :=
  match cutGap? text with
  | none => decide (groupsIn? true text = some 8)
  | some (before, after) =>
      match groupsIn? false before, groupsIn? true after with
      | some first, some second => first + second < 8
      | _, _ => false

end ToolParams.Address
