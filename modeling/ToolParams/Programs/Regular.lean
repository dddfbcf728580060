import ToolParams.Number.Numeral
import ToolParams.Programs.CharClass

/-!
# Regular expressions

An expression matches a part of a text.  Of all matches the first one counts, and of
those at one place the longest.  Matching goes through all ways to match, the greedy
ones first, and keeps what each of them leaves.
-/

namespace ToolParams

/-- A regular expression. -/
inductive Regular where
  | empty
  | single (accepted : CharClass)
  /-- the beginning of the text -/
  | start
  /-- the end of the text -/
  | stop
  /-- the beginning of a line -/
  | lineStart
  /-- the end of a line -/
  | lineStop
  /-- a place by whether a part matches there -/
  | ahead (wanted : Bool) (body : Regular)
  /-- a place by whether a word is before it and behind it -/
  | edge (fits : Bool → Bool → Bool)
  /-- a part whose match is remembered under a number -/
  | group (number : Nat) (body : Regular)
  /-- what a part matched -/
  | again (number : Nat)
  | sequence (first second : Regular)
  | either (first second : Regular)
  | repeated (body : Regular) (least : Nat) (most : Option Nat)

namespace Regular

/-- A place in a text that a match has come to. -/
structure Spot where
  /-- the character before -/
  previous : Option Char
  rest : List Char
  /-- the number of characters that follow -/
  size : Nat
  /-- what the parts with numbers matched, the latest first -/
  groups : List (Nat × List Char)
deriving Repr

/-- Whether two spots cannot be told apart. -/
def Spot.same (left right : Spot) : Bool :=
  left.size = right.size && left.groups == right.groups

/-- Spots, each of them once. -/
def distinct (spots : List Spot) : List Spot :=
  (spots.foldl (fun found spot =>
    if found.any spot.same then found else spot :: found) []).reverse

def isWordChar (character : Char) : Bool := character.isAlphanum || character = '_'

/-- Goes over a character. -/
def Spot.next (spot : Spot) : Option (Char × Spot) :=
  match spot.rest with
  | [] => none
  | character :: rest =>
      some (character, { spot with previous := some character, rest, size := spot.size - 1 })

/-- Goes over a text that has to be there. -/
def Spot.over (foldCase : Bool) : List Char → Spot → Option Spot
  | [], spot => some spot
  | expected :: others, spot =>
      match spot.next with
      | none => none
      | some (character, after) =>
          if character = expected || (foldCase && character.toLower = expected.toLower) then
            Spot.over foldCase others after
          else none

/-- The spots that some number of steps leads to, more steps first.  A step that goes
nowhere is not repeated. -/
def repeatSteps (step : Spot → List Spot) : Nat → Nat → Option Nat → Spot → List Spot
  | 0, _, _, spot => [spot]
  | fuel + 1, least, most, spot =>
      let further :=
        if most = some 0 then []
        else distinct (((step spot).filter fun after => least ≠ 0 || after.size < spot.size).flatMap
          (repeatSteps step fuel (least - 1) (most.map (· - 1))))
      further ++ (if least = 0 then [spot] else [])

/-- The spots at which matches end that begin at a spot. -/
def ends (foldCase : Bool) : Regular → Spot → List Spot
  | .empty, spot => [spot]
  | .single accepted, spot =>
      match spot.next with
      | none => []
      | some (character, after) => if accepted.accepts character then [after] else []
  | .start, spot => if spot.previous.isNone then [spot] else []
  | .stop, spot => if spot.rest.isEmpty then [spot] else []
  | .lineStart, spot => if spot.previous.all (· = '\n') then [spot] else []
  | .lineStop, spot => if spot.rest.head?.all (· = '\n') then [spot] else []
  | .ahead wanted body, spot =>
      if (ends foldCase body spot).isEmpty != wanted then [spot] else []
  | .edge fits, spot =>
      if fits (spot.previous.any isWordChar) (spot.rest.head?.any isWordChar) then [spot] else []
  | .group number body, spot =>
      (ends foldCase body spot).map fun after =>
        { after with
          groups := (number, spot.rest.take (spot.size - after.size)) ::
            after.groups.filter (·.1 ≠ number) }
  | .again number, spot =>
      match spot.groups.lookup number with
      | none => []
      | some text => (spot.over foldCase text).toList
  | .sequence first second, spot =>
      distinct ((ends foldCase first spot).flatMap (ends foldCase second))
  | .either first second, spot => distinct (ends foldCase first spot ++ ends foldCase second spot)
  | .repeated body least most, spot =>
      repeatSteps (ends foldCase body) (spot.size + least + 2) least most spot

end Regular

/-- An expression that is ready to be used. -/
structure Search where
  expression : Regular
  foldCase : Bool

/-- A part of a text that matches. -/
structure Found where
  before : List Char
  matched : List Char
  groups : List (Nat × List Char)
  after : List Char
deriving Repr

namespace Search

/-- The longest match that begins at a place. -/
def here (search : Search) (previous : Option Char) (characters : List Char) : Option Found :=
  let spots := Regular.ends search.foldCase search.expression
    { previous, rest := characters, size := characters.length, groups := [] }
  match spots with
  | [] => none
  | first :: others =>
      let best := others.foldl (fun (best : Regular.Spot) spot =>
        if spot.size < best.size then spot else best) first
      some { before := [], matched := characters.take (characters.length - best.size)
             groups := best.groups, after := best.rest }

/-- The first match at a place or behind it. -/
def findFrom (search : Search) : Option Char → List Char → Option Found
  | previous, [] => search.here previous []
  | previous, character :: rest =>
      match search.here previous (character :: rest) with
      | some found => some found
      | none =>
          (search.findFrom (some character) rest).map fun found =>
            { found with before := character :: found.before }

/-- The first match in a text. -/
def find (search : Search) (characters : List Char) : Option Found :=
  search.findFrom none characters

/-- All matches that are not empty, each behind the one before, with what stands behind
it. -/
def findAll (search : Search) : Nat → Option Char → List Char → List (List Char × List Char)
  | 0, _, _ => []
  | fuel + 1, previous, characters =>
      match search.findFrom previous characters with
      | none => []
      | some found =>
          if found.matched.isEmpty then
            match found.after with
            | [] => []
            | character :: rest => search.findAll fuel (some character) rest
          else (found.matched, found.after) ::
            search.findAll fuel found.matched.getLast? found.after

end Search

/-- Why a text is no regular expression. -/
inductive RegularFault where
  | openBracket
  | openGroup
  | closedGroup
  | openInterval
  | badInterval
  | tooBig
  | badRange
  | badClass
  | badReference
  | backslashAtEnd
  | nothingToRepeat
  | invalid
deriving DecidableEq, Repr

/-- The text of a fault. -/
def RegularFault.message : RegularFault → String
  | .openBracket => "Unmatched [, [^, [:, [., or [="
  | .openGroup => "Unmatched ( or \\("
  | .closedGroup => "Unmatched ) or \\)"
  | .openInterval => "Unmatched \\\x7b"
  | .badInterval => "Invalid content of \\\x7b\\\x7d"
  | .tooBig => "Regular expression too big"
  | .badRange => "Invalid range end"
  | .badClass => "Invalid character class name"
  | .badReference => "Invalid back reference"
  | .backslashAtEnd => "Trailing backslash"
  | .nothingToRepeat => "Invalid preceding regular expression"
  | .invalid => "Invalid regular expression"

namespace Regular

/-- How expressions are written. -/
structure Dialect where
  /-- whether the signs of groups and repetitions stand without a backslash -/
  extended : Bool
  foldCase : Bool
  /-- whether a sign that repeats nothing counts for nothing, and a wrong interval stands
  for itself -/
  lenient : Bool
  /-- whether the beginnings and ends of lines count as those of the text -/
  byLines : Bool
  /-- whether letters behind a backslash may stand for further classes -/
  rich : Bool
deriving DecidableEq, Repr

/-- Expressions whose signs stand behind backslashes. -/
def Dialect.basic : Dialect := ⟨false, false, false, false, false⟩

/-- What is left to read, and how many groups there are so far. -/
structure Reading where
  rest : List Char
  groups : Nat
deriving Repr

/-- Reads a part of an expression. -/
abbrev Reader := StateT Reading (Except RegularFault)

/-- The class with the case of letters left open, if the dialect asks for that. -/
def Dialect.single (dialect : Dialect) (accepted : CharClass) : Regular :=
  match accepted with
  | .any => .single .any
  | .ranges inside bounds =>
      .single (.ranges inside (if dialect.foldCase then CharClass.foldCase bounds else bounds))

/-- What follows a sign of groups and repetitions, if it stands at the front. -/
def Dialect.after? (dialect : Dialect) (sign : Char) (characters : List Char) :
    Option (List Char) :=
  match characters with
  | '\\' :: character :: rest =>
      if !dialect.extended && character = sign then some rest else none
  | character :: rest => if dialect.extended && character = sign then some rest else none
  | [] => none

/-- The ranges of the characters of words. -/
def wordBounds : List (Char × Char) := [('0', '9'), ('A', 'Z'), ('a', 'z'), ('_', '_')]

/-- The ranges of blank characters. -/
def blankBounds : List (Char × Char) := [('\t', '\r'), (' ', ' ')]

/-- The ranges that a letter behind a backslash may stand for. -/
def letterBounds : List (Char × List (Char × Char)) :=
  [('w', wordBounds), ('s', blankBounds), ('d', [('0', '9')]), ('h', [('\t', '\t'), (' ', ' ')]),
    ('t', [('\t', '\t')]), ('n', [('\n', '\n')]), ('r', [('\r', '\r')])]

/-- The ranges at the front of the inside of brackets that have a name. -/
def Dialect.namedBounds (dialect : Dialect) (characters : List Char) :
    Option (List (Char × Char) × List Char) :=
  match characters with
  | '\\' :: letter :: rest =>
      if dialect.rich then
        some ((letterBounds.lookup letter).getD [(letter, letter)], rest)
      else none
  | _ => CharClass.readNamed characters

/-- The ranges between brackets, and what follows. -/
def readBounds (dialect : Dialect) : Nat → Bool → List Char →
    Except RegularFault (List (Char × Char) × List Char)
  | 0, _, _ => .error .openBracket
  | _, _, [] => .error .openBracket
  | fuel + 1, first, character :: rest =>
      if character = ']' && !first then .ok ([], rest)
      else match dialect.namedBounds (character :: rest) with
        | some (bounds, left) => do
            let (others, left) ← readBounds dialect fuel false left
            return (bounds ++ others, left)
        | none =>
            if character = '[' && rest.head? = some ':' then
              .error (if (rest.drop 1).contains ']' then .badClass else .openBracket)
            else match rest with
              | '-' :: upper :: left => do
                  if upper = ']' then
                    let (others, left) ← readBounds dialect fuel false rest
                    return ((character, character) :: others, left)
                  if upper < character then throw .badRange
                  let (others, left) ← readBounds dialect fuel false left
                  return ((character, upper) :: others, left)
              | _ => do
                  let (others, left) ← readBounds dialect fuel false rest
                  return ((character, character) :: others, left)

/-- The class behind an opening bracket, and what follows. -/
def readBracket (dialect : Dialect) (characters : List Char) :
    Except RegularFault (CharClass × List Char) := do
  let turned := characters.head? = some '^'
  let inside := if turned then characters.drop 1 else characters
  if inside.isEmpty then throw .invalid
  let (bounds, left) ← readBounds dialect (characters.length + 1) true inside
  return (.ranges (!turned) bounds, left)

/-- What a letter behind a backslash stands for. -/
def escaped? (rich : Bool) : Char → Option Regular
  | 'w' => some (.single (.ranges true wordBounds))
  | 'W' => some (.single (.ranges false wordBounds))
  | 's' => some (.single (.ranges true blankBounds))
  | 'S' => some (.single (.ranges false blankBounds))
  | '<' => some (.edge fun before behind => !before && behind)
  | '>' => some (.edge fun before behind => before && !behind)
  | 'b' => some (.edge fun before behind => before != behind)
  | 'B' => some (.edge fun before behind => before == behind)
  | '\x60' => some .start
  | '\x27' => some .stop
  | letter =>
      if !rich then none
      else if letter = 'D' then some (.single (.ranges false [('0', '9')]))
      else (letterBounds.lookup letter).map fun bounds => .single (.ranges true bounds)

/-- The numbers between the braces of an interval, and what follows.  Without a number
in front of the comma the least is zero. -/
def readInterval (dialect : Dialect) (characters : List Char) :
    Except RegularFault (Nat × Option Nat × List Char) := do
  let (least, rest) := Number.spanDigits characters
  let (comma, rest) := match rest with
    | ',' :: rest => (true, rest)
    | _ => (false, rest)
  let (most, rest) := if comma then Number.spanDigits rest else (least, rest)
  match dialect.after? '\x7d' rest with
  | none =>
      let closes := rest.contains ',' ||
        (if dialect.extended then rest.contains '\x7d'
          else (rest.zip (rest.drop 1)).contains ('\\', '\x7d'))
      throw (if closes then .badInterval else .openInterval)
  | some left =>
      if least.isEmpty && !comma then throw .badInterval
      let low := Number.digitsValue least
      let high := if comma && most.isEmpty then none else some (Number.digitsValue most)
      if high.any (· < low) then throw .badInterval
      if (high.getD low) > 32767 then throw .tooBig
      return (low, high, left)

/-- Reads the signs of repetition behind a part. -/
def readRepetitions (dialect : Dialect) : Nat → Regular → List Char →
    Except RegularFault (Regular × List Char)
  | 0, part, characters => .ok (part, characters)
  | fuel + 1, part, characters =>
      match characters with
      | '*' :: rest => readRepetitions dialect fuel (.repeated part 0 none) rest
      | _ =>
          match dialect.after? '+' characters, dialect.after? '?' characters,
              dialect.after? '\x7b' characters with
          | some rest, _, _ => readRepetitions dialect fuel (.repeated part 1 none) rest
          | _, some rest, _ => readRepetitions dialect fuel (.repeated part 0 (some 1)) rest
          | _, _, some rest =>
              match readInterval dialect rest with
              | .ok (least, most, left) =>
                  readRepetitions dialect fuel (.repeated part least most) left
              | .error fault =>
                  if dialect.lenient && dialect.extended then .ok (part, characters)
                  else .error fault
          | none, none, none => .ok (part, characters)

/-- Whether a sign of repetition stands at the front. -/
def Dialect.repeats (dialect : Dialect) (characters : List Char) : Bool :=
  (dialect.extended && characters.head? = some '*') ||
    (dialect.extended && ['+', '?'].any fun sign => (dialect.after? sign characters).isSome) ||
    (dialect.after? '\x7b' characters).isSome

def Dialect.endsPart (dialect : Dialect) (characters : List Char) : Bool :=
  characters.isEmpty || (dialect.after? '|' characters).isSome ||
    (dialect.after? ')' characters).isSome

/-- Reads an expression, up to its end or the end of the group it is in. -/
def readPart (dialect : Dialect) : Nat → (joined atStart : Bool) → Reader Regular
  | 0, _, _ => return .empty
  | fuel + 1, true, _ => do
      let first ← readPart dialect fuel false true
      match dialect.after? '|' (← get).rest with
      | none => return first
      | some rest =>
          modify fun reading => { reading with rest }
          return .either first (← readPart dialect fuel true true)
  | fuel + 1, false, atStart => do
      let reading ← get
      if dialect.endsPart reading.rest then return .empty
      let become (rest : List Char) : Reader Unit := modify fun reading => { reading with rest }
      let literal (character : Char) (rest : List Char) : Reader Regular := do
        become rest
        return dialect.single (.one character)
      let atom : Reader Regular := do
        match dialect.after? '(' reading.rest, reading.rest with
        | some rest, _ =>
            let number := reading.groups + 1
            let ahead? : Option (Bool × List Char) := match rest with
              | '?' :: '=' :: inside => some (true, inside)
              | '?' :: '!' :: inside => some (false, inside)
              | _ => none
            let (counted, inside) : Bool × List Char := match rest, ahead? with
              | _, some (_, inside) => (!dialect.rich, if dialect.rich then inside else rest)
              | '?' :: ':' :: inside, _ => (!dialect.rich, if dialect.rich then inside else rest)
              | _, _ => (true, rest)
            set ({ rest := inside, groups := if counted then number else reading.groups } : Reading)
            let body ← readPart dialect fuel true true
            match dialect.after? ')' (← get).rest with
            | none => throw .openGroup
            | some rest =>
                become rest
                if counted then return .group number body
                else return (ahead?.map fun found => Regular.ahead found.1 body).getD body
        | none, '.' :: rest =>
            become rest
            return .single .any
        | none, '[' :: rest =>
            let (accepted, left) ← readBracket dialect rest
            become left
            return dialect.single accepted
        | none, '^' :: rest =>
            if dialect.extended || atStart then
              become rest
              return if dialect.byLines then .lineStart else .start
            literal '^' rest
        | none, '$' :: rest =>
            if dialect.extended || dialect.endsPart rest then
              become rest
              return if dialect.byLines then .lineStop else .stop
            literal '$' rest
        | none, ['\\'] => throw .backslashAtEnd
        | none, '\\' :: character :: rest =>
            if '1' ≤ character && character ≤ '9' then
              let number := character.toNat - 48
              if reading.groups < number then throw .badReference
              become rest
              return .again number
            match escaped? dialect.rich character with
            | some part =>
                become rest
                return part
            | none => literal character rest
        | none, character :: rest => literal character rest
        | none, [] => return .empty
      if atStart && dialect.repeats reading.rest then
        if !dialect.lenient then throw .nothingToRepeat
        if dialect.extended then
          let (_, left) ← readRepetitions dialect 1 .empty reading.rest
          if left.length < reading.rest.length then
            become left
            return ← readPart dialect fuel false true
      let first ← atom
      let opens := first matches .start || first matches .lineStart
      let (first, left) ←
        if atStart && opens && dialect.extended && dialect.repeats (← get).rest then
          if !dialect.lenient then throw .nothingToRepeat
          readRepetitions dialect ((← get).rest.length + 1) .empty (← get).rest
        else if atStart && opens && !dialect.extended then
          match (← get).rest with
          | '*' :: rest => do
              become rest
              pure (Regular.sequence first (dialect.single (.one '*')), rest)
          | rest => pure (first, rest)
        else do
          let reading ← get
          readRepetitions dialect (reading.rest.length + 1) first reading.rest
      become left
      return .sequence first (← readPart dialect fuel false false)

def read (dialect : Dialect) (source : List Char) : Except RegularFault Search := do
  let (expression, left) ← (readPart dialect (4 * source.length + 4) true true).run ⟨source, 0⟩
  if left.rest.isEmpty then return ⟨expression, dialect.foldCase⟩ else throw .closedGroup

/-- The expression that only a text itself matches. -/
def literal (foldCase : Bool) (text : List Char) : Search where
  expression := text.foldr (fun character rest =>
    .sequence ((⟨true, foldCase, true, false, false⟩ : Dialect).single (.one character)) rest)
    .empty
  foldCase := foldCase

end Regular

end ToolParams
