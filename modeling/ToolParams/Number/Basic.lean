/-!
# Numbers of 64 bits

A number is one of the values of the 64-bit binary format, held exactly: not a
number, an infinity, or a sign with a magnitude.  A magnitude is stored as its
code, the 63 low bits of its usual encoding.  Codes grow with the values they
stand for, so magnitudes compare as their codes do.
-/

namespace ToolParams

/-- The first code that stands for no finite magnitude. -/
def Magnitude.limit : Nat := 2047 * Nat.pow 2 52

/-- A finite magnitude, by its code. -/
structure Magnitude where
  code : Nat
  code_lt : code < Magnitude.limit
deriving DecidableEq, Repr

namespace Magnitude

def zero : Magnitude := ⟨0, by decide⟩

/-- How far the significand of a code is shifted to the left. -/
def shift (magnitude : Magnitude) : Nat :=
  magnitude.code / Nat.pow 2 52 - 1

/-- The value of a magnitude, counted in the smallest positive one, `2 ^ -1074`. -/
def units (magnitude : Magnitude) : Nat :=
  (magnitude.code - magnitude.shift * Nat.pow 2 52) * Nat.pow 2 magnitude.shift

/-- The number of smallest positive magnitudes in one. -/
def unitsPerOne : Nat := Nat.pow 2 1074

end Magnitude

/-- A value of the 64-bit binary format. -/
inductive Number where
  | nan
  | infinity (negative : Bool)
  | finite (negative : Bool) (magnitude : Magnitude)
deriving DecidableEq, Repr

namespace Number

def zero (negative : Bool) : Number := .finite negative .zero

instance : Inhabited Number := ⟨zero false⟩

/-- Whether a number is neither infinite nor undefined. -/
def isFinite : Number → Bool
  | .finite _ _ => true
  | _ => false

def isNaN : Number → Bool
  | .nan => true
  | _ => false

/-- Whether a number is a whole number; infinities are not. -/
def isInteger : Number → Bool
  | .finite _ magnitude => magnitude.units % Magnitude.unitsPerOne == 0
  | _ => false

/-- The place of a number in the order of numbers: both zeros have the same
place, and an undefined number has none. -/
def rank : Number → Option Int
  | .nan => none
  | .infinity negative => some (if negative then -Magnitude.limit else Magnitude.limit)
  | .finite negative magnitude => some (if negative then -magnitude.code else magnitude.code)

/-- Whether one number is smaller than another; never so for undefined numbers. -/
def lt (left right : Number) : Bool :=
  match left.rank, right.rank with
  | some leftRank, some rightRank => decide (leftRank < rightRank)
  | _, _ => false

/-- Whether two numbers are equal as numbers: the zeros are, undefined ones never. -/
def eqv (left right : Number) : Bool :=
  match left.rank, right.rank with
  | some leftRank, some rightRank => decide (leftRank = rightRank)
  | _, _ => false

/-- The code of a positive quotient rounded to the nearest magnitude, a tie to the
even code.  The quotient is counted in smallest magnitudes, and as many of its low
binary places are given up as leave 53.  A code at or above the limit means that
the quotient is too large. -/
def roundedCode (numerator denominator : Nat) : Nat :=
  let scaled := numerator * Magnitude.unitsPerOne
  let shift := (scaled / denominator).log2 - 52
  let step := denominator * Nat.pow 2 shift
  let kept := scaled / step
  let twice := 2 * (scaled % step)
  shift * Nat.pow 2 52 + kept + (if step < twice ∨ (step = twice ∧ kept % 2 = 1) then 1 else 0)

/-- The magnitude with a code, or infinity for a code past the limit. -/
def ofCode (negative : Bool) (code : Nat) : Number :=
  if inRange : code < Magnitude.limit then .finite negative ⟨code, inRange⟩
  else .infinity negative

/-- The number nearest to a quotient. -/
def ofRatio (negative : Bool) (numerator denominator : Nat) : Number :=
  ofCode negative (roundedCode numerator denominator)

def ofNat (value : Nat) : Number :=
  ofRatio false value 1

/-- The number nearest to `digits * 10 ^ exponent`.  An exponent above 400 or so
far below zero that the value is under `10 ^ -400` is settled without the power. -/
def ofDecimal (negative : Bool) (digits : Nat) (exponent : Int) : Number :=
  if digits = 0 then zero negative
  else if 400 < exponent then .infinity negative
  else if exponent < -(digits.log2 + 401 : Int) then zero negative
  else match exponent with
    | .ofNat power => ofRatio negative (digits * Nat.pow 10 power) 1
    | .negSucc power => ofRatio negative digits (Nat.pow 10 (power + 1))

end Number

end ToolParams
