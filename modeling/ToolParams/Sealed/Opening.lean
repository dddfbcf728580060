import ToolParams.Sealed.Block

/-!
# Opening sealed texts

A sealed text is a nonce of 12 bytes, the text in counter mode, and a tag of 16
bytes that proves that nothing was changed.  The tag is a value of a polynomial over
the field of 2^128 elements, sealed itself.
-/

namespace ToolParams.Sealed

/-- The number that bytes write, the first one being the highest. -/
def numberOf (bytes : Octets) : Nat := bytes.foldl (fun value byte => value * 0x100 + byte) 0

/-- The bytes of a number, sixteen of them. -/
def blockOf (value : Nat) : Octets :=
  (List.range 16).map fun position => value / Nat.pow 0x100 (15 - position) % 0x100

/-- The product of two blocks in their field, over the bits of the first from the
highest on. -/
def blockProduct (left right : Nat) : Nat :=
  ((List.range 128).foldl (fun (sum, factor) position =>
    (if left / Nat.pow 2 (127 - position) % 2 = 1 then sum ^^^ factor else sum,
      if factor % 2 = 1 then (factor / 2) ^^^ (0xE1 * Nat.pow 2 120) else factor / 2))
    (0, right)).1

/-- Bytes as blocks, the last one filled up with zeros. -/
def blocks (bytes : Octets) : List Nat :=
  (parts 16 ((bytes.length + 15) / 16) bytes).map fun block =>
    numberOf (block ++ List.replicate (16 - block.length) 0)

/-- The value of a text as a polynomial. -/
def digest (point : Nat) (text : Octets) : Nat :=
  (blocks text ++ [8 * text.length]).foldl
    (fun sum block => blockProduct (sum ^^^ block) point) 0

/-- The bytes that texts are added to, block by block from a counter on. -/
def keyStream (keys : List Octets) (nonce : Octets) (count : Nat) : Octets :=
  (List.range count).flatMap fun (index : Nat) =>
    cipher keys (blockOf (numberOf nonce * Nat.pow 2 32 + index + 2))

/-- The text in a sealed one, if the key fits. -/
def opened? (key sealedText : Octets) : Option Octets :=
  let keys := roundKeys key
  let nonce := sealedText.take 12
  let tag := sealedText.drop (sealedText.length - 16)
  let text := (sealedText.drop 12).take (sealedText.length - 28)
  let point := numberOf (cipher keys (List.replicate 16 0))
  let mask := cipher keys (blockOf (numberOf nonce * Nat.pow 2 32 + 1))
  if sealedText.length < 28 then none
  else if added (blockOf (digest point text)) mask = tag then
    some (added text (keyStream keys nonce ((text.length + 15) / 16)))
  else none

end ToolParams.Sealed
