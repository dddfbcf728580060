import ToolParams.Json.Basic
import ToolParams.Number.Numeral

/-!
# Reading JSON

A reader for whole JSON documents.  Every step takes at least one character, so
a bound of twice the length of the document is never reached.  Setting a member
again replaces its value in place.  An escape for half of a pair of 16-bit units
that stands alone reads as the replacement character.
-/

namespace ToolParams.Json

/-- Blank characters between tokens. -/
def isGap (character : Char) : Bool :=
  character = ' ' || character = '\t' || character = '\n' || character = '\r'

def skipGap (characters : List Char) : List Char :=
  characters.dropWhile isGap

/-- The value of four hexadecimal digits at the front, and what follows them. -/
def hexQuad? : List Char → Option (Nat × List Char)
  | a :: b :: c :: d :: rest => do
      let a ← Number.digit? 16 a
      let b ← Number.digit? 16 b
      let c ← Number.digit? 16 c
      let d ← Number.digit? 16 d
      some (((a * 16 + b) * 16 + c) * 16 + d, rest)
  | _ => none

/-- The character of an escape that is a single letter. -/
def escaped? (letter : Char) : Option Char :=
  if letter = '"' ∨ letter = '\\' ∨ letter = '/' then some letter
  else if letter = 'n' then some '\n'
  else if letter = 'r' then some '\r'
  else if letter = 't' then some '\t'
  else if letter = 'b' then some '\x08'
  else if letter = 'f' then some '\x0c'
  else none

/-- The character of a 16-bit unit that was read, joined with the unit behind it
when both are the halves of a pair; and what follows. -/
def joinUnits (unit : Nat) (rest : List Char) : Char × List Char :=
  if 0xD800 ≤ unit ∧ unit < 0xDC00 then
    match rest with
    | '\\' :: 'u' :: more =>
        match hexQuad? more with
        | some (low, behind) =>
            if 0xDC00 ≤ low ∧ low < 0xE000 then
              (Char.ofNat (0x10000 + (unit - 0xD800) * 0x400 + (low - 0xDC00)), behind)
            else ('\uFFFD', rest)
        | none => ('\uFFFD', rest)
    | _ => ('\uFFFD', rest)
  else if 0xDC00 ≤ unit ∧ unit < 0xE000 then ('\uFFFD', rest)
  else (Char.ofNat unit, rest)

/-- The characters of a text whose opening quote was read, and what follows its
closing quote. -/
def quotedChars? : Nat → List Char → Option (List Char × List Char)
  | 0, _ => none
  | _ + 1, [] => none
  | _ + 1, '"' :: rest => some ([], rest)
  | fuel + 1, '\\' :: 'u' :: rest => do
      let (unit, rest) ← hexQuad? rest
      let (character, rest) := joinUnits unit rest
      let (more, rest) ← quotedChars? fuel rest
      some (character :: more, rest)
  | fuel + 1, '\\' :: letter :: rest => do
      let character ← escaped? letter
      let (more, rest) ← quotedChars? fuel rest
      some (character :: more, rest)
  | fuel + 1, character :: rest =>
      if character.toNat < 32 ∨ character = '\\' then none
      else do
        let (more, rest) ← quotedChars? fuel rest
        some (character :: more, rest)

/-- A numeral of the JSON grammar at the front, and what follows it. -/
def number? (characters : List Char) : Option (Number × List Char) :=
  let (negative, unsigned) := match characters with
    | '-' :: rest => (true, rest)
    | _ => (false, characters)
  let (whole, rest) := Number.spanDigits unsigned
  if whole.isEmpty ∨ (whole.head? = some '0' ∧ whole.length ≠ 1) then none
  else
    let fraction? : Option (List Char × List Char) := match rest with
      | '.' :: behind =>
          let (digits, behind) := Number.spanDigits behind
          if digits.isEmpty then none else some (digits, behind)
      | _ => some ([], rest)
    fraction?.bind fun (fraction, rest) =>
      let power? : Option (Int × List Char) := match rest with
        | mark :: behind =>
            if mark = 'e' ∨ mark = 'E' then
              let (down, behind) := Number.spanSign behind
              let (digits, behind) := Number.spanDigits behind
              if digits.isEmpty then none
              else
                let power : Int := Number.digitsValue digits
                some (if down then -power else power, behind)
            else some (0, rest)
        | [] => some (0, rest)
      power?.map fun (power, rest) =>
        (Number.ofDecimal negative (Number.digitsValue (whole ++ fraction))
          (power - fraction.length), rest)

/-- What follows a word at the front. -/
def behind? (word : String) (characters : List Char) : Option (List Char) :=
  if word.toList.isPrefixOf characters then some (characters.drop word.toList.length) else none

mutual

/-- A value at the front, and what follows it. -/
def value? : Nat → List Char → Option (Json × List Char)
  | 0, _ => none
  | fuel + 1, characters =>
      match skipGap characters with
      | [] => none
      | '"' :: rest => (quotedChars? fuel rest).map fun (content, rest) =>
          (.text (String.ofList content), rest)
      | '[' :: rest =>
          match skipGap rest with
          | ']' :: behind => some (.array [], behind)
          | _ => (items? fuel rest).map fun (items, rest) => (.array items, rest)
      | '\x7b' :: rest =>
          match skipGap rest with
          | '\x7d' :: behind => some (.object [], behind)
          | _ => (members? fuel rest).map fun (members, rest) => (.ofMembers members, rest)
      | start =>
          match behind? "null" start, behind? "true" start, behind? "false" start with
          | some rest, _, _ => some (.null, rest)
          | _, some rest, _ => some (.bool true, rest)
          | _, _, some rest => some (.bool false, rest)
          | _, _, _ => (number? start).map fun (found, rest) => (.number found, rest)

/-- The items of an array up to its closing bracket, and what follows. -/
def items? : Nat → List Char → Option (List Json × List Char)
  | 0, _ => none
  | fuel + 1, characters => do
      let (item, rest) ← value? fuel characters
      match skipGap rest with
      | ',' :: rest => (items? fuel rest).map fun (items, rest) => (item :: items, rest)
      | ']' :: rest => some ([item], rest)
      | _ => none

/-- The members of an object up to its closing bracket, and what follows. -/
def members? : Nat → List Char → Option (List (String × Json) × List Char)
  | 0, _ => none
  | fuel + 1, characters =>
      match skipGap characters with
      | '"' :: rest => do
          let (name, rest) ← quotedChars? fuel rest
          match skipGap rest with
          | ':' :: rest => do
              let (value, rest) ← value? fuel rest
              match skipGap rest with
              | ',' :: rest => (members? fuel rest).map fun (members, rest) =>
                  ((String.ofList name, value) :: members, rest)
              | '\x7d' :: rest => some ([(String.ofList name, value)], rest)
              | _ => none
          | _ => none
      | _ => none

end

/-- The value of a JSON document. -/
def read? (document : String) : Option Json :=
  let characters := document.toList
  match value? (2 * characters.length + 2) characters with
  | some (value, rest) => if (skipGap rest).isEmpty then some value else none
  | none => none

end ToolParams.Json
