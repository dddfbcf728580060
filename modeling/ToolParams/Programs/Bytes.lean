/-!
# Bytes and the text they encode

Programs write bytes.  Reading them as UTF-8 never fails: where the bytes cannot
be continued to a character, one replacement character stands for them, and the
byte that did not fit is read afresh.
-/

namespace ToolParams

/-- What a program reads or writes. -/
abbrev Bytes := List UInt8

namespace Bytes

def ofText (text : String) : Bytes := text.toUTF8.toList

/-- The character that stands for bytes without a meaning. -/
def replacement : Char := '\uFFFD'

/-- A character of which some bytes are still owed; the next one has to lie between
two bounds. -/
structure Unfinished where
  owed : Nat
  low : Nat
  high : Nat
  code : Nat
deriving DecidableEq, Repr

/-- What the first byte of a character says: the character itself, nothing, or how it
goes on. -/
def first (byte : Nat) : List Char × Option Unfinished :=
  if byte < 0x80 then ([Char.ofNat byte], none)
  else if byte < 0xC2 then ([replacement], none)
  else if byte < 0xE0 then ([], some ⟨1, 0x80, 0xBF, byte % 0x20⟩)
  else if byte = 0xE0 then ([], some ⟨2, 0xA0, 0xBF, 0⟩)
  else if byte = 0xED then ([], some ⟨2, 0x80, 0x9F, 0xD⟩)
  else if byte < 0xF0 then ([], some ⟨2, 0x80, 0xBF, byte % 0x10⟩)
  else if byte = 0xF0 then ([], some ⟨3, 0x90, 0xBF, 0⟩)
  else if byte < 0xF4 then ([], some ⟨3, 0x80, 0xBF, byte % 0x08⟩)
  else if byte = 0xF4 then ([], some ⟨3, 0x80, 0x8F, 4⟩)
  else ([replacement], none)

/-- What a further byte says in the middle of a character. -/
def next (unfinished : Unfinished) (byte : Nat) : List Char × Option Unfinished :=
  if unfinished.low ≤ byte ∧ byte ≤ unfinished.high then
    let code := unfinished.code * 0x40 + byte % 0x40
    if unfinished.owed ≤ 1 then ([Char.ofNat code], none)
    else ([], some ⟨unfinished.owed - 1, 0x80, 0xBF, code⟩)
  else (replacement :: (first byte).1, (first byte).2)

/-- The characters of bytes that continue what was begun. -/
def charsFrom : Option Unfinished → Bytes → List Char
  | none, [] => []
  | some _, [] => [replacement]
  | none, byte :: rest =>
      (first byte.toNat).1 ++ charsFrom (first byte.toNat).2 rest
  | some unfinished, byte :: rest =>
      (next unfinished byte.toNat).1 ++ charsFrom (next unfinished byte.toNat).2 rest

def toText (bytes : Bytes) : String := String.ofList (charsFrom none bytes)

end Bytes

end ToolParams
