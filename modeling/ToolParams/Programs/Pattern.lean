import ToolParams.Programs.CharClass

/-!
# Patterns of names

A pattern is a sequence of items, each of which accepts one character of a class or,
if it is repeated, any number of characters.  In its written form a star stands for
anything, a question mark for one character and brackets for a class.
-/

namespace ToolParams

/-- One character of a class, or any number of them. -/
structure PatternItem where
  accepted : CharClass
  repeated : Bool
deriving DecidableEq, Repr

/-- What texts may look like. -/
abbrev Pattern := List PatternItem

namespace Pattern

/-- A list and what remains of it after each of its beginnings that a class accepts. -/
def remainders (accepted : CharClass) : List Char → List (List Char)
  | [] => [[]]
  | character :: rest =>
      if accepted.accepts character then (character :: rest) :: remainders accepted rest
      else [character :: rest]

/-- What remains after each beginning that matches. -/
def rests : Pattern → List Char → List (List Char)
  | [], characters => [characters]
  | item :: items, characters =>
      if item.repeated then
        ((remainders item.accepted characters).flatMap (rests items)).eraseDups
      else match characters with
        | [] => []
        | character :: rest =>
            if item.accepted.accepts character then rests items rest else []

/-- Whether the pattern matches everything. -/
def isFull (pattern : Pattern) (characters : List Char) : Bool :=
  (pattern.rests characters).any List.isEmpty

def shorter (left right : List Char) : List Char :=
  if right.length < left.length then right else left

def longer (left right : List Char) : List Char :=
  if left.length < right.length then right else left

/-- What remains after the shortest beginning that matches, or after the longest. -/
def withoutBeginning (pattern : Pattern) (longest : Bool) (characters : List Char) :
    List Char :=
  match pattern.rests characters with
  | [] => characters
  | rest :: others => others.foldl (if longest then shorter else longer) rest

/-- What remains before the shortest ending that matches, or before the longest. -/
def withoutEnding (pattern : Pattern) (longest : Bool) (characters : List Char) :
    List Char :=
  let endings := (remainders .any characters).filter pattern.isFull
  let ending? := if longest then endings.head? else endings.getLast?
  match ending? with
  | none => characters
  | some ending => characters.take (characters.length - ending.length)

/-- A character of a written pattern, and whether it stands for itself. -/
abbrev Sign := Char × Bool

/-- The signs with the backslashes taken out that make the next sign stand for itself. -/
def withoutBackslashes : List Sign → List Sign
  | [] => []
  | ('\\', false) :: (character, _) :: rest => (character, true) :: withoutBackslashes rest
  | sign :: rest => sign :: withoutBackslashes rest

/-- The ranges between brackets and what follows the closing one, which counts as an
ordinary character at the front. -/
def readRanges : Nat → Bool → List Sign → Option (List (Char × Char) × List Sign)
  | 0, _, _ => none
  | _, _, [] => none
  | _, false, (']', false) :: rest => some ([], rest)
  | fuel + 1, _, (character, quoted) :: rest =>
      let characters := ((character, quoted) :: rest).map (·.1)
      match if quoted then none else CharClass.readNamed characters with
      | some (bounds, left) =>
          (readRanges fuel false (rest.drop (rest.length - left.length))).map
            fun (others, left) => (bounds ++ others, left)
      | none =>
          match rest with
          | ('-', false) :: (upper, isQuoted) :: left =>
              if upper = ']' && !isQuoted then
                (readRanges fuel false rest).map fun (bounds, left) =>
                  ((character, character) :: bounds, left)
              else (readRanges fuel false left).map fun (bounds, left) =>
                ((character, upper) :: bounds, left)
          | _ => (readRanges fuel false rest).map fun (bounds, left) =>
              ((character, character) :: bounds, left)

/-- The class that is written behind an opening bracket; one of some signs at its front
turns it around. -/
def readClass (turning : List Char) (signs : List Sign) : Option (CharClass × List Sign) :=
  match signs with
  | [] => none
  | (character, quoted) :: rest =>
      let turned := !quoted && turning.contains character
      (readRanges (signs.length + 1) true (if turned then rest else signs)).map
        fun (bounds, left) => (.ranges (!turned) bounds, left)

/-- Reads signs without backslashes as a pattern. -/
def readItems (turning : List Char) : Nat → List Sign → Pattern
  | 0, _ => []
  | _, [] => []
  | fuel + 1, (character, quoted) :: rest =>
      let literal : Pattern := ⟨.one character, false⟩ :: readItems turning fuel rest
      if quoted then literal
      else if character = '*' then ⟨.any, true⟩ :: readItems turning fuel rest
      else if character = '?' then ⟨.any, false⟩ :: readItems turning fuel rest
      else if character = '[' then
        match readClass turning rest with
        | some (accepted, left) => ⟨accepted, false⟩ :: readItems turning fuel left
        | none => literal
      else literal

def ofSigns (turning : List Char) (signs : List Sign) : Pattern :=
  readItems turning (signs.length + 1) (withoutBackslashes signs)

def read (text : String) : Pattern :=
  ofSigns ['!', '^'] (text.toList.map fun character => (character, false))

end Pattern

end ToolParams
