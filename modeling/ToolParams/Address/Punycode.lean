/-!
# Names written in ASCII

A name with characters beyond ASCII has a form in letters, digits and hyphens: its
ASCII characters, a hyphen, and digits in base 36 that tell which other characters
stand where.  Each of them is a distance from the one before, and the weights of
its digits adapt to the distances read so far.
-/

namespace ToolParams.Address.Punycode

/-- The value of a digit in base 36. -/
def digit? (character : Char) : Option Nat :=
  if character.isLower then some (character.toNat - 97)
  else if character.isDigit then some (character.toNat - 22)
  else none

/-- The least value with which the digit at a place does not end a distance. -/
def threshold (place bias : Nat) : Nat := min 26 (max 1 (place - bias))

/-- Reads a distance that was read up to a place; gives the distance and what follows. -/
def distance? (bias : Nat) : List Char → Nat → Nat → Nat → Option (Nat × List Char)
  | [], _, _, _ => none
  | character :: rest, place, weight, value =>
      match digit? character with
      | none => none
      | some digit =>
          let limit := threshold place bias
          let value := value + digit * weight
          if digit < limit then some (value, rest)
          else distance? bias rest (place + 36) (weight * (36 - limit)) value

/-- What follows a distance is shorter than what it was read from. -/
theorem length_of_distance? {bias place weight value : Nat} {characters : List Char}
    {found : Nat × List Char}
    (read : distance? bias characters place weight value = some found) :
    found.2.length < characters.length := by
  induction characters generalizing place weight value with
  | nil => simp [distance?] at read
  | cons character rest ih =>
      simp only [distance?] at read
      split at read
      · simp at read
      · split at read
        · simp only [Option.some.injEq] at read
          subst read
          simp
        · have shorter := ih read
          simp only [List.length_cons]
          omega

/-- Brings a number below a limit by division; the places count how often. -/
def scaleDown (number places : Nat) : Nat × Nat :=
  if 455 < number then scaleDown (number / 35) (places + 36) else (number, places)
termination_by number
decreasing_by exact Nat.div_lt_self (by omega) (by omega)

/-- The bias for the next distance. -/
def adapt (distance count : Nat) (isFirst : Bool) : Nat :=
  let halved := if isFirst then distance / 700 else distance / 2
  let (rest, places) := scaleDown (halved + halved / count) 0
  places + 36 * rest / (rest + 38)

def lastCode : Nat := 0x10FFFF

/-- Puts characters in, each at the place that its distance tells. -/
def fill (position code bias : Nat) (placed digits : List Char) : Option (List Char) :=
  if digits.isEmpty then some placed
  else match _found : distance? bias digits 36 1 position with
    | none => none
    | some (reached, rest) =>
        let count := placed.length + 1
        let next := code + reached / count
        let spot := reached % count
        if next < 0x80 || lastCode < next then none
        else fill (spot + 1) next (adapt (reached - position) count (position = 0))
          (placed.take spot ++ Char.ofNat next :: placed.drop spot) rest
termination_by digits.length
decreasing_by exact length_of_distance? _found

/-- The name that is written in ASCII: what stands before the last hyphen, filled up. -/
def decode? (written : List Char) : Option (List Char) :=
  let digits := (written.reverse.takeWhile (· ≠ '-')).reverse
  let plain := written.take (written.length - digits.length - 1)
  fill 0 0x80 72 plain digits

end ToolParams.Address.Punycode
