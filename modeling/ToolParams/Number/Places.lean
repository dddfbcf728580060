import ToolParams.Number.Basic

/-!
# Numbers with a count of places

A number is written with a given number of places behind its point, in positional
notation or with an exponent.  The exact value is rounded to the nearest such text, and
a tie goes to the even last digit.
-/

namespace ToolParams.Number

/-- A quotient rounded to a whole number, a tie to the even one. -/
def roundEven (numerator denominator : Nat) : Nat :=
  let below := numerator / denominator
  let twice := 2 * (numerator % denominator)
  if denominator < twice ∨ (twice = denominator ∧ below % 2 = 1) then below + 1 else below

def overPower (magnitude : Magnitude) : Int → Nat × Nat
  | .ofNat power => (magnitude.units, Magnitude.unitsPerOne * Nat.pow 10 power)
  | .negSucc power => (magnitude.units * Nat.pow 10 (power + 1), Magnitude.unitsPerOne)

/-- Digits with a point in front of the last of them. -/
def pointed (places : Nat) (point : Bool) (value : Nat) : List Char :=
  let digits := Nat.toDigits 10 value
  let digits := List.replicate (places + 1 - digits.length) '0' ++ digits
  let whole := digits.take (digits.length - places)
  if places = 0 then (if point then whole ++ ['.'] else whole)
  else whole ++ '.' :: digits.drop (digits.length - places)

def fixed (places : Nat) (point : Bool) (magnitude : Magnitude) : List Char :=
  let (numerator, denominator) := overPower magnitude (-(places : Int))
  pointed places point (roundEven numerator denominator)

/-- The power of ten that begins a magnitude, which is not zero. -/
def leadingPower (magnitude : Magnitude) : Int :=
  let (numerator, denominator) := overPower magnitude (-343)
  ((Nat.toDigits 10 (numerator / denominator)).length : Int) - 344

/-- The digits of a magnitude as a whole number with places behind the first digit, and
its power of ten. -/
def normalized (places : Nat) (magnitude : Magnitude) : Nat × Int :=
  if magnitude.code = 0 then (0, 0)
  else
    let power := leadingPower magnitude
    let (numerator, denominator) := overPower magnitude (power - places)
    let digits := roundEven numerator denominator
    if Nat.pow 10 (places + 1) ≤ digits then (digits / 10, power + 1) else (digits, power)

/-- An exponent with a sign and two digits at least. -/
def exponentText (letter : Char) (power : Int) : List Char :=
  let digits := Nat.toDigits 10 power.natAbs
  letter :: (if power < 0 then '-' else '+') :: (List.replicate (2 - digits.length) '0' ++ digits)

def scientific (letter : Char) (places : Nat) (point : Bool) (magnitude : Magnitude) :
    List Char :=
  let (digits, power) := normalized places magnitude
  pointed places point digits ++ exponentText letter power

/-- Characters without the zeros at their end behind a point, and without a point there. -/
def withoutZeros (characters : List Char) : List Char :=
  if characters.contains '.' then
    let kept := characters.reverse.dropWhile (· = '0')
    (if kept.head? = some '.' then kept.drop 1 else kept).reverse
  else characters

/-- A magnitude with a number of digits, with an exponent only if it is very large or
very small.  Zeros at the end are left out unless the point is to stay. -/
def general (letter : Char) (digits : Nat) (point : Bool) (magnitude : Magnitude) :
    List Char :=
  let wanted := max digits 1
  let (value, power) := normalized (wanted - 1) magnitude
  let trim (characters : List Char) : List Char :=
    if point then characters else withoutZeros characters
  if power < -4 ∨ (wanted : Int) ≤ power then
    trim (pointed (wanted - 1) point value) ++ exponentText letter power
  else trim (fixed ((wanted : Int) - 1 - power).toNat point magnitude)

end ToolParams.Number
