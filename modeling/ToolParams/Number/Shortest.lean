import ToolParams.Number.Basic

/-!
# The shortest text of a number

A number is written with the fewest decimal digits that read back as it, the
nearest such digits if there are several, an even last digit on a tie.  The
point stands among the digits, or zeros fill the gap to it, as long as that
takes at most 21 places before it and at most six zeros behind it; other numbers
carry an exponent.
-/

namespace ToolParams.Number

/-- A decimal `digits * 10 ^ exponent`. -/
structure Decimal where
  digits : Nat
  exponent : Int
deriving DecidableEq, Repr

namespace Decimal

/-- The same decimal without zeros at the end of its digits. -/
def strip (digits : Nat) (exponent : Int) : Decimal :=
  if 0 < digits ∧ digits % 10 = 0 then strip (digits / 10) (exponent + 1)
  else ⟨digits, exponent⟩
termination_by digits
decreasing_by omega

def readsAs (decimal : Decimal) (magnitude : Magnitude) : Bool :=
  decide (ofDecimal false decimal.digits decimal.exponent = .finite false magnitude)

end Decimal

/-- The quotient `units / unitsPerOne / 10 ^ exponent` of a magnitude as numerator and
denominator. -/
def scaledRatio (magnitude : Magnitude) : Int → Nat × Nat
  | .ofNat power => (magnitude.units, Magnitude.unitsPerOne * Nat.pow 10 power)
  | .negSucc power => (magnitude.units * Nat.pow 10 (power + 1), Magnitude.unitsPerOne)

/-- How many decimal places stand before the point of a magnitude; negative for
zeros directly behind it. -/
def leadingPlaces (magnitude : Magnitude) : Int :=
  let (numerator, denominator) := scaledRatio magnitude (-343)
  ((Nat.toDigits 10 (numerator / denominator)).length : Int) - 343

/-- Of a magnitude's two neighbours among the multiples of `10 ^ exponent`, the one
that reads back as it: the nearer if both do, the even one on a tie. -/
def onGrid? (magnitude : Magnitude) (exponent : Int) : Option Decimal :=
  let (numerator, denominator) := scaledRatio magnitude exponent
  let below := numerator / denominator
  let lower := Decimal.strip below exponent
  let upper := Decimal.strip (below + 1) exponent
  match lower.readsAs magnitude, upper.readsAs magnitude with
  | true, true =>
      let twice := 2 * (numerator % denominator)
      if twice < denominator ∨ (twice = denominator ∧ below % 2 = 0) then some lower
      else some upper
  | true, false => some lower
  | false, true => some upper
  | false, false => none

def exact (magnitude : Magnitude) : Decimal :=
  Decimal.strip (magnitude.units * Nat.pow 5 1074) (-1074)

def shortest (magnitude : Magnitude) : Decimal :=
  ((List.range 17).findSome? fun (count : Nat) =>
    onGrid? magnitude (leadingPlaces magnitude - (count + 1 : Nat))).getD (exact magnitude)

/-- Where the point of a number may stand without an exponent. -/
structure Layout where
  fewestPlaces : Int
  mostPlaces : Int

/-- Numbers from `1e-6` on and below `1e21` carry no exponent. -/
def layout : Layout := ⟨-5, 21⟩

/-- The digits of a decimal with its point or exponent. -/
def Decimal.text (decimal : Decimal) : List Char :=
  let digits := Nat.toDigits 10 decimal.digits
  let places := (digits.length : Int) + decimal.exponent
  if layout.fewestPlaces ≤ places ∧ places ≤ layout.mostPlaces then
    if 0 ≤ decimal.exponent then digits ++ List.replicate decimal.exponent.toNat '0'
    else if 0 < places then
      digits.take places.toNat ++ '.' :: digits.drop places.toNat
    else '0' :: '.' :: (List.replicate (-places).toNat '0' ++ digits)
  else
    let mantissa := match digits with
      | first :: second :: rest => first :: '.' :: second :: rest
      | short => short
    let power := places - 1
    mantissa ++ 'e' :: (if power < 0 then '-' else '+') :: Nat.toDigits 10 power.natAbs

/-- The text of a number; zero is written without its sign. -/
def text : Number → String
  | .nan => "NaN"
  | .infinity negative => if negative then "-Infinity" else "Infinity"
  | .finite negative magnitude =>
      if magnitude.code = 0 then "0"
      else
        let digits := (shortest magnitude).text
        String.ofList (if negative then '-' :: digits else digits)

end ToolParams.Number
