import ToolParams.Json.Basic
import ToolParams.Number.Shortest

/-!
# Writing JSON

A value is written on one line without spaces, or spread over lines with two
spaces for each level.  Control characters, quotes and backslashes are escaped;
all other characters stand for themselves.  A number that is not finite is
written as `null`.
-/

namespace ToolParams.Json

def hexDigit (value : Nat) : Char :=
  Nat.digitChar (value % 16)

/-- The written form of a character inside quotes. -/
def escape (character : Char) : List Char :=
  if character = '"' then ['\\', '"']
  else if character = '\\' then ['\\', '\\']
  else if character = '\n' then ['\\', 'n']
  else if character = '\r' then ['\\', 'r']
  else if character = '\t' then ['\\', 't']
  else if character.toNat = 8 then ['\\', 'b']
  else if character.toNat = 12 then ['\\', 'f']
  else if character.toNat < 32 then
    ['\\', 'u', '0', '0', hexDigit (character.toNat / 16), hexDigit character.toNat]
  else [character]

def quote (text : String) : String :=
  "\"" ++ String.ofList (text.toList.flatMap escape) ++ "\""

/-- Half of a pair of units in quotes, as an escape. -/
def quoteHalf (unit : Nat) : String :=
  "\"\\u" ++ String.ofList
    ([unit / 0x1000, unit / 0x100, unit / 0x10, unit].map hexDigit) ++ "\""

/-- A number as JSON writes it. -/
def numberText (number : Number) : String :=
  if number.isFinite then number.text else "null"

mutual

/-- A value on one line. -/
def compact : Json → String
  | .null => "null"
  | .bool value => if value then "true" else "false"
  | .number value => numberText value
  | .text value => quote value
  | .half unit => quoteHalf unit
  | .array items => "[" ++ ",".intercalate (compactItems items) ++ "]"
  | .object members => "\x7b" ++ ",".intercalate (compactMembers members) ++ "\x7d"

/-- The items of an array, each on one line. -/
def compactItems : List Json → List String
  | [] => []
  | item :: rest => item.compact :: compactItems rest

/-- The members of an object, each on one line. -/
def compactMembers : List (String × Json) → List String
  | [] => []
  | (name, value) :: rest => (quote name ++ ":" ++ value.compact) :: compactMembers rest

end

/-- The parts of an array or object, one a line, between its brackets. -/
def block (depth : Nat) (opening closing : String) (parts : List String) : String :=
  let margin (level : Nat) := "\n" ++ String.ofList (List.replicate (2 * level) ' ')
  opening ++ margin (depth + 1) ++ ("," ++ margin (depth + 1)).intercalate parts ++
    margin depth ++ closing

mutual

/-- A value spread over lines, its own line standing at a depth. -/
def pretty (depth : Nat) : Json → String
  | .array [] => "[]"
  | .array items => block depth "[" "]" (prettyItems depth items)
  | .object [] => "\x7b\x7d"
  | .object members => block depth "\x7b" "\x7d" (prettyMembers depth members)
  | value => value.compact

def prettyItems (depth : Nat) : List Json → List String
  | [] => []
  | item :: rest => item.pretty (depth + 1) :: prettyItems depth rest

def prettyMembers (depth : Nat) : List (String × Json) → List String
  | [] => []
  | (name, value) :: rest =>
      (quote name ++ ": " ++ value.pretty (depth + 1)) :: prettyMembers depth rest

end

end ToolParams.Json
