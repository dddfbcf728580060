/-!
# The block cipher of sealed texts

AES with a key of 32 bytes.  A byte is a polynomial over two elements, and the
substitution of a byte is its inverse in the field of 256 elements, followed by an
affine map.  A block is sixteen bytes, column by column.
-/

namespace ToolParams.Sealed

/-- Numbers below 256. -/
abbrev Octets := List Nat

/-- Twice a byte in the field. -/
def double (byte : Nat) : Nat :=
  if byte < 0x80 then 2 * byte else (2 * byte - 0x100) ^^^ 0x1B

/-- The product of two bytes in the field, from the bits of the second one. -/
def product : Nat → Nat → Nat → Nat
  | 0, _, _ => 0
  | bits + 1, left, right =>
      (if right % 2 = 1 then left else 0) ^^^ product bits (double left) (right / 2)

/-- The product of two bytes in the field. -/
def times (left right : Nat) : Nat := product 8 left right

/-- The inverse of a byte in the field, which is its power with the exponent 254; zero
for zero. -/
def inverse (byte : Nat) : Nat :=
  let squares := (List.range 7).foldl (fun soFar _ =>
    let last := soFar.headD byte
    times last last :: soFar) [byte]
  (squares.take 7).foldl times 1

def turned (places byte : Nat) : Nat :=
  (byte * Nat.pow 2 places) % 0x100 + byte / Nat.pow 2 (8 - places)

def substitute (byte : Nat) : Nat :=
  let base := inverse byte
  [1, 2, 3, 4].foldl (fun sum places => sum ^^^ turned places base) (base ^^^ 0x63)

/-- The sums of bytes in the field. -/
def added (left right : Octets) : Octets := List.zipWith (· ^^^ ·) left right

def stepConstant (step : Nat) : Nat := (List.range (step - 1)).foldl (fun byte _ => double byte) 1

/-- The words of four bytes that a key is extended to, the last one first. -/
def extend : Nat → List Octets → List Octets
  | 0, words => words
  | more + 1, words =>
      let position := words.length
      let last := words.headD []
      let changed :=
        if position % 8 = 0 then
          added ((last.drop 1 ++ last.take 1).map substitute)
            [stepConstant (position / 8), 0, 0, 0]
        else if position % 8 = 4 then last.map substitute
        else last
      extend more (added (words.getD 7 []) changed :: words)

def parts (size : Nat) : Nat → Octets → List Octets
  | 0, _ => []
  | count + 1, bytes => bytes.take size :: parts size count (bytes.drop size)

def roundKeys (key : Octets) : List Octets :=
  parts 16 15 (extend 52 (parts 4 8 key).reverse).reverse.flatten

def turnRows (block : Octets) : Octets :=
  (List.range 16).map fun position =>
    block.getD (4 * ((position / 4 + position % 4) % 4) + position % 4) 0

/-- A column multiplied by the fixed matrix. -/
def mixColumn : Octets → Octets
  | [a, b, c, d] =>
      [double a ^^^ double b ^^^ b ^^^ c ^^^ d, a ^^^ double b ^^^ double c ^^^ c ^^^ d,
        a ^^^ b ^^^ double c ^^^ double d ^^^ d, double a ^^^ a ^^^ b ^^^ c ^^^ double d]
  | column => column

/-- The rounds behind the first key; the last one does not mix. -/
def rounds : List Octets → Octets → Octets
  | [], block => block
  | [last], block => added (turnRows (block.map substitute)) last
  | key :: others, block =>
      let turned := turnRows (block.map substitute)
      rounds others (added ((parts 4 4 turned).flatMap mixColumn) key)

def cipher (keys : List Octets) (block : Octets) : Octets :=
  rounds (keys.drop 1) (added block (keys.headD []))

end ToolParams.Sealed
