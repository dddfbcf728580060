import ToolParams.Programs.Regular
import ToolParams.Programs.Utility.Printing

/-!
# Calculating

Utilities that evaluate expressions and count.  An expression is one argument for each
operand and operator; its value is a text, which counts as a number if it is written like
one.
-/

namespace ToolParams.Calculating

/-- The number that a text is, if it is one. -/
def integer? (text : String) : Option Int :=
  match text.toList with
  | '-' :: digits => if Number.isDigits digits then some (-(Number.digitsValue digits : Int)) else none
  | digits => if Number.isDigits digits then some (Number.digitsValue digits) else none

/-- Whether a value counts as nothing: an empty text or a zero. -/
def isNull (text : String) : Bool := text = "" || integer? text = some 0

/-- The truth of a comparison as a value. -/
def truth (holds : Bool) : String := if holds then "1" else "0"

/-- The arguments that are left, and the one before them. -/
structure Place where
  previous : String
  rest : List String

/-- Evaluates a part of an expression. -/
abbrev Evaluation := StateT Place (Except String)

/-- Goes over an argument. -/
def advance : Evaluation Unit :=
  modify fun place => ⟨place.rest.headD "", place.rest.drop 1⟩

/-- Goes over one of some operators, if it comes next. -/
def operator? (operators : List String) : Evaluation (Option String) := do
  match (← get).rest.head? with
  | none => return none
  | some argument =>
      if operators.contains argument then
        advance
        return some argument
      else return none

/-- Complains unless an argument follows. -/
def requireMore : Evaluation Unit := do
  let place ← get
  if place.rest.isEmpty then
    throw s!"syntax error: missing argument after {Quoting.plain place.previous}"

/-- The operators of a level; a higher one binds more tightly. -/
def operatorsOf : Nat → List String
  | 0 => ["|"]
  | 1 => ["&"]
  | 2 => ["<", "<=", "=", "==", "!=", ">=", ">"]
  | 3 => ["+", "-"]
  | 4 => ["*", "/", "%"]
  | _ => [":"]

/-- Two values as numbers. -/
def numbers (left right : String) : Except String (Int × Int) :=
  match integer? left, integer? right with
  | some first, some second => .ok (first, second)
  | _, _ => .error "non-integer argument"

/-- The order of two values: as numbers, if both are. -/
def order (left right : String) : Ordering :=
  match integer? left, integer? right with
  | some first, some second => compare first second
  | _, _ => compare left right

/-- What an expression matches at the beginning of a text: the part in its first group,
or the length. -/
def matched (text source : String) : Except String String :=
  match Regular.read .basic source.toList with
  | .error fault => .error fault.message
  | .ok search =>
      let grouped := (source.toList.zip (source.toList.drop 1)).contains ('\\', '(')
      match search.here none text.toList with
      | none => .ok (if grouped then "" else "0")
      | some found =>
          .ok (if grouped then String.ofList ((found.groups.lookup 1).getD [])
            else toString found.matched.length)

/-- The value of an operator between two values, if it counts. -/
def apply (active : Bool) (operator left right : String) : Except String String := do
  if operator = "|" then
    return if !isNull left then left else if isNull right then "0" else right
  if operator = "&" then return if isNull left || isNull right then "0" else left
  if ["+", "-", "*", "/", "%"].contains operator then
    if !active then return "0"
    let (first, second) ← numbers left right
    if operator = "+" then return toString (first + second)
    if operator = "-" then return toString (first - second)
    if operator = "*" then return toString (first * second)
    if second = 0 then throw "division by zero"
    return toString (if operator = "/" then Int.tdiv first second else Int.tmod first second)
  if operator = ":" then return ← if active then matched left right else .ok "0"
  let found := order left right
  return truth (match operator with
    | "<" => found == .lt
    | "<=" => found != .gt
    | "!=" => found != .eq
    | ">=" => found != .lt
    | ">" => found == .gt
    | _ => found == .eq)

/-- The part of a text from a position on, counted from one. -/
def part (text position length : String) : String :=
  match integer? position, integer? length with
  | some first, some count =>
      if 0 < first && 0 < count then
        String.ofList ((text.toList.drop (first.toNat - 1)).take count.toNat)
      else ""
  | _, _ => ""

def position (text characters : String) : String :=
  match text.toList.findIdx? fun character => Text.has character characters with
  | some index => toString (index + 1)
  | none => "0"

/-- Evaluates the part of an expression whose operators have a level at least; a value
may be known already. -/
def evaluate : Nat → Nat → Bool → Option String → Evaluation String
  | 0, _, _, _ => throw "syntax error"
  | fuel + 1, level, active, none => do
      if level ≤ 5 then
        let first ← evaluate fuel (level + 1) active none
        evaluate fuel level active (some first)
      else
        requireMore
        match (← get).rest with
        | "+" :: _ :: _ =>
            advance
            let value := (← get).rest.headD ""
            advance
            return value
        | "length" :: _ =>
            advance
            return toString (← evaluate fuel 6 active none).length
        | "match" :: _ =>
            advance
            let text ← evaluate fuel 6 active none
            let source ← evaluate fuel 6 active none
            if active then matched text source else return ""
        | "index" :: _ =>
            advance
            let text ← evaluate fuel 6 active none
            return position text (← evaluate fuel 6 active none)
        | "substr" :: _ =>
            advance
            let text ← evaluate fuel 6 active none
            let start ← evaluate fuel 6 active none
            return part text start (← evaluate fuel 6 active none)
        | "(" :: _ =>
            advance
            let value ← evaluate fuel 0 active none
            let place ← get
            match place.rest with
            | [] => throw s!"syntax error: expecting ')' after {Quoting.plain place.previous}"
            | ")" :: _ =>
                advance
                return value
            | other :: _ =>
                throw s!"syntax error: expecting ')' instead of {Quoting.plain other}"
        | ")" :: _ => throw "syntax error: unexpected ')'"
        | value :: _ =>
            advance
            return value
        | [] => return ""
  | fuel + 1, level, active, some left => do
      match ← operator? (operatorsOf level) with
      | none => return left
      | some operator =>
          let matters := if operator = "|" then isNull left
            else if operator = "&" then !isNull left
            else true
          let right ← evaluate fuel (level + 1) (active && matters) none
          evaluate fuel level active (some (← apply active operator left right))

/-- Evaluates an expression; the status tells whether its value is nothing. -/
def expr : Utility := fun arguments => do
  let arguments := if arguments.head? = some "--" then arguments.drop 1 else arguments
  if arguments.isEmpty then Work.refuse 2 "missing operand"
  else match (evaluate (16 * arguments.length + 16) 0 true none).run ⟨"", arguments⟩ with
    | .error text => Work.complain 2 text
    | .ok (value, place) =>
        match place.rest with
        | extra :: _ =>
            Work.complain 2 s!"syntax error: unexpected argument {Quoting.plain extra}"
        | [] =>
            Work.say (value ++ "\n")
            Work.finish (if isNull value then 1 else 0)

/-- A decimal number: a whole number with a count of places. -/
structure Decimal where
  value : Int
  places : Nat
deriving DecidableEq, Repr

/-- The whole number of a decimal with another count of places. -/
def Decimal.scaled (decimal : Decimal) (places : Nat) : Int :=
  decimal.value * (Nat.pow 10 (places - decimal.places) : Nat)

/-- The decimal that a text writes. -/
def decimal? (text : String) : Option Decimal :=
  let (negative, body) := Number.spanSign (text.toList.dropWhile Scanning.isBlank)
  let signed (value : Nat) : Int := if negative then -(value : Int) else value
  match Scanning.integer? body with
  | some (value, []) =>
      if body.take 2 = ['0', 'x'] then some ⟨signed value.toNat, 0⟩
      else some ⟨signed (Number.digitsValue body), 0⟩
  | _ =>
      let (whole, rest) := Number.spanDigits body
      let (fraction, rest) := Number.spanFraction rest
      if whole.isEmpty && fraction.isEmpty then none
      else (Number.exponent? rest).map fun power =>
        let digits := Number.digitsValue (whole ++ fraction)
        let places : Int := fraction.length - power
        if places < 0 then ⟨signed (digits * Nat.pow 10 (-places).toNat), 0⟩
        else ⟨signed digits, places.toNat⟩

def decimalText (places : Nat) (value : Int) : String :=
  String.ofList ((if value < 0 then ['-'] else []) ++ Number.pointed places false value.natAbs)

/-- A text on a width, with zeros behind its sign. -/
def zeroPadded (width : Nat) (text : String) : String :=
  let (negative, body) := match text.toList with
    | '-' :: body => (true, body)
    | body => (false, body)
  let zeros := List.replicate (width - text.length) '0'
  String.ofList ((if negative then ['-'] else []) ++ zeros ++ body)

/-- What is wrong with a format, which must have one place for a number; `found` says
whether that was seen. -/
def formatFault? (whole : String) : Nat → (found : Bool) → List Char → Option String
  | 0, _, _ => none
  | _, true, [] => none
  | _, false, [] => some s!"format {Quoting.plain whole} has no % directive"
  | fuel + 1, found, '%' :: '%' :: rest => formatFault? whole fuel found rest
  | _, true, '%' :: _ => some s!"format {Quoting.plain whole} has too many % directives"
  | fuel + 1, false, '%' :: rest =>
      let flags := rest.takeWhile ['-', '+', '#', '0', ' ', '\x27'].contains
      let behind := (Number.spanDigits (rest.drop flags.length)).2
      let behind := match behind with
        | '.' :: digits => (Number.spanDigits digits).2
        | _ => behind
      let behind := if behind.head? = some 'L' then behind.drop 1 else behind
      match behind with
      | [] => some s!"format {Quoting.plain whole} ends in %"
      | letter :: left =>
          if letter ∉ ['e', 'f', 'g', 'a', 'E', 'F', 'G', 'A'] then
            some s!"format {Quoting.plain whole} has unknown %{letter} directive"
          else formatFault? whole fuel true left
  | fuel + 1, found, _ :: rest => formatFault? whole fuel found rest

def mostNumbers : Nat := 1000000

/-- Writes numbers from the first to the last. -/
def seq : Utility := fun arguments => do
  let isNegative (argument : String) : Bool :=
    match argument.toList with
    | '-' :: character :: _ => character.isDigit || character = '.'
    | _ => false
  let before := arguments.takeWhile fun argument =>
    Text.startsWith argument "-" && !isNegative argument || false
  let options := Options.readLeading
    (.of "w" "fs" [("equal-width", 'w'), ("format", 'f'), ("separator", 's')])
    (if arguments.any isNegative && before.isEmpty then "--" :: arguments else
      let (front, back) := arguments.span (!isNegative ·)
      if back.isEmpty then front else front ++ "--" :: back)
  match options with
  | .error fault => Work.refuse 1 fault.message
  | .ok options =>
      let operands := options.operands.filter (· ≠ "--")
      if operands.isEmpty then
        Work.refuse 1 "missing operand"
        return ()
      if let extra :: _ := operands.drop 3 then
        Work.refuse 1 s!"extra operand {Quoting.plain extra}"
        return ()
      if let some form := options.value? 'f' then
        if let some fault := formatFault? form (form.length + 1) false form.toList then
          Work.complain 1 fault
          return ()
        if options.has 'w' then
          Work.refuse 1 "format string may not be specified when printing equal width strings"
          return ()
      if let some bad := operands.find? fun operand => (decimal? operand).isNone then
        Work.refuse 1 s!"invalid floating point argument: {Quoting.plain bad}"
        return ()
      let numbers := operands.filterMap decimal?
      let (first, step, last) : Decimal × Decimal × Decimal := match numbers with
        | [last] => (⟨1, 0⟩, ⟨1, 0⟩, last)
        | [first, last] => (first, ⟨1, 0⟩, last)
        | [first, step, last] => (first, step, last)
        | _ => (⟨1, 0⟩, ⟨1, 0⟩, ⟨0, 0⟩)
      if step.value = 0 then
        let shown := (operands[1]?).getD ""
        Work.refuse 1 s!"invalid Zero increment value: {Quoting.plain shown}"
        return ()
      let places := max first.places step.places
      let fine := max places last.places
      let count := (Int.fdiv (last.scaled fine - first.scaled fine) (step.scaled fine) + 1).toNat
      let values := (List.range (min count mostNumbers)).map fun (index : Nat) =>
        first.scaled places + step.scaled places * index
      let width := if options.has 'w' then
          max (decimalText places (first.scaled places)).length
            (decimalText places (Int.fdiv (last.scaled fine) (Nat.pow 10 (fine - places) : Nat))).length
        else 0
      let shown ← values.mapM fun value => do
        match options.value? 'f' with
        | none => return zeroPadded width (decimalText places value)
        | some form =>
            let working ← get
            let (_, formatted) :=
              (Printing.fill .system (form.length + 1) form.toList [decimalText places value]).run
                { working with written := [] }
            return String.join (formatted.written.reverse.map (·.2))
      if !shown.isEmpty then
        Work.say ((((options.value? 's').getD "\n").intercalate shown) ++ "\n")

end ToolParams.Calculating
