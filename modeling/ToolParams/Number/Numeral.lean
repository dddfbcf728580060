import ToolParams.Number.Basic
import ToolParams.Text.Blank

/-!
# Reading numerals

A numeral is a decimal with an optional sign, fraction and exponent, the word
`Infinity`, or an unsigned whole number in base 16, 8 or 2 behind `0x`, `0o` or
`0b`.  Blanks around it do not count and a blank text is zero; every other text
reads as the undefined number.
-/

namespace ToolParams.Number

/-- The digits at the front and what follows them. -/
def spanDigits (characters : List Char) : List Char × List Char :=
  (characters.takeWhile Char.isDigit, characters.dropWhile Char.isDigit)

/-- The sign at the front and what follows it. -/
def spanSign : List Char → Bool × List Char
  | '-' :: rest => (true, rest)
  | '+' :: rest => (false, rest)
  | rest => (false, rest)

def isDigits (characters : List Char) : Bool :=
  !characters.isEmpty && characters.all Char.isDigit

def followedBy (base value : Nat) (digits : List Nat) : Nat :=
  digits.foldl (fun value digit => value * base + digit) value

theorem followedBy_eq (base value : Nat) (digits : List Nat) :
    followedBy base value digits =
      value * Nat.pow base digits.length + followedBy base 0 digits := by
  induction digits generalizing value with
  | nil => simp [followedBy]
  | cons digit rest ih =>
      have step (value : Nat) :
          followedBy base value (digit :: rest) = followedBy base (value * base + digit) rest := rfl
      rw [step, step, ih, ih (0 * base + digit), List.length_cons, Nat.pow_eq, Nat.pow_eq, Nat.pow_succ',
        Nat.add_mul, Nat.zero_mul, Nat.zero_add, Nat.mul_assoc, Nat.add_assoc]

/-- The whole number that digits of a base spell.  Many digits are read in two halves, so
that most products are of small numbers. -/
def ofDigits (base : Nat) (digits : List Nat) : Nat :=
  if digits.length ≤ 64 then followedBy base 0 digits
  else
    let half := digits.length / 2
    ofDigits base (digits.take half) * Nat.pow base (digits.length - half) +
      ofDigits base (digits.drop half)
termination_by digits.length
decreasing_by
  · simp only [List.length_take]
    omega
  · simp only [List.length_drop]
    omega

/-- Reading in halves gives the value of the digits in their order. -/
theorem ofDigits_eq (base : Nat) (digits : List Nat) :
    ofDigits base digits = followedBy base 0 digits := by
  induction digits using ofDigits.induct with
  | case1 digits short => rw [ofDigits, if_pos short]
  | case2 digits long half first second =>
      have joined : followedBy base 0 (digits.take half ++ digits.drop half) =
          followedBy base (followedBy base 0 (digits.take half)) (digits.drop half) :=
        List.foldl_append
      rw [List.take_append_drop, followedBy_eq base (followedBy base 0 (digits.take half)),
        List.length_drop] at joined
      rw [ofDigits, if_neg long, joined, ← first, ← second]

/-- The whole number that decimal digits spell. -/
def digitsValue (characters : List Char) : Nat :=
  ofDigits 10 (characters.map fun character => character.toNat - 48)

/-- The exponent part of a decimal: nothing, or `e` and a signed whole number. -/
def exponent? : List Char → Option Int
  | [] => some 0
  | mark :: rest =>
      if mark = 'e' ∨ mark = 'E' then
        let (negative, digits) := spanSign rest
        if isDigits digits then
          some (if negative then -(digitsValue digits : Int) else digitsValue digits)
        else none
      else none

/-- The digits behind a decimal point at the front, and what follows them. -/
def spanFraction : List Char → List Char × List Char
  | '.' :: rest => spanDigits rest
  | rest => ([], rest)

/-- An unsigned decimal, given the sign that stood before it. -/
def decimal? (negative : Bool) (characters : List Char) : Option Number :=
  let (whole, rest) := spanDigits characters
  let (fraction, rest) := spanFraction rest
  if whole.isEmpty && fraction.isEmpty then none
  else (exponent? rest).map fun exponent =>
    ofDecimal negative (digitsValue (whole ++ fraction)) (exponent - fraction.length)

def signed? (characters : List Char) : Option Number :=
  let (negative, rest) := spanSign characters
  if rest = "Infinity".toList then some (.infinity negative) else decimal? negative rest

/-- The value of a digit in a base up to 16. -/
def digit? (base : Nat) (character : Char) : Option Nat :=
  let code := character.toNat
  let value :=
    if 48 ≤ code ∧ code ≤ 57 then code - 48
    else if 97 ≤ code ∧ code ≤ 102 then code - 87
    else if 65 ≤ code ∧ code ≤ 70 then code - 55
    else base
  if value < base then some value else none

/-- The whole number that digits of a base spell, at least one of them. -/
def inBase? (base : Nat) (characters : List Char) : Option Number :=
  if characters.isEmpty then none
  else (characters.mapM (digit? base)).map fun digits => ofNat (ofDigits base digits)

/-- The base that a letter behind a leading zero announces. -/
def base? (letter : Char) : Option Nat :=
  if letter = 'x' ∨ letter = 'X' then some 16
  else if letter = 'o' ∨ letter = 'O' then some 8
  else if letter = 'b' ∨ letter = 'B' then some 2
  else none

/-- A numeral without blanks around it. -/
def numeral? : List Char → Option Number
  | [] => some (zero false)
  | '0' :: letter :: digits =>
      match base? letter with
      | some base => inBase? base digits
      | none => signed? ('0' :: letter :: digits)
  | characters => signed? characters

/-- The number that a text spells, undefined when it spells none. -/
def read (text : String) : Number :=
  (numeral? (Text.trimChars text.toList)).getD .nan

def integer? (characters : List Char) : Option Number :=
  let (negative, digits) := spanSign characters
  if isDigits digits then some (ofDecimal negative (digitsValue digits) 0) else none

end ToolParams.Number
