import ToolParams.Environment
import ToolParams.Programs.Utility.Scanning
import ToolParams.Text.Pieces

/-!
# Integer arithmetic of the shell

Expressions over integers of 64 bits and variables.  Operators of a higher rank bind more
tightly, those of one rank from the left.  Conditions give one or zero, and what a
condition leaves out is read but not evaluated.
-/

namespace ToolParams.Shell.Arithmetic

/-- A symbol of an expression. -/
inductive Symbol where
  | number (value : Int)
  | name (text : String)
  | operator (text : String)
deriving DecidableEq, Repr

/-- Why an expression has no value. -/
inductive Fault where
  | noPrimary
  | noEnd
  | noColon
  | noBracket
  | zeroDivision
  /-- the value of a variable is no number -/
  | noNumber (value : String)
deriving DecidableEq, Repr

/-- The text of a fault of an expression. -/
def Fault.message (expression : String) : Fault → String
  | .noNumber value => s!"Illegal number: {value}"
  | .noPrimary => told "expecting primary"
  | .noEnd => told "expecting EOF"
  | .noColon => told "expecting ':'"
  | .noBracket => told "expecting ')'"
  | .zeroDivision => told "division by zero"
where
  told (what : String) : String := s!"arithmetic expression: {what}: \"{expression}\""

def largest : Int := 9223372036854775807

def smallest : Int := -9223372036854775808

/-- A number brought into the range by leaving out high bits. -/
def wrap (value : Int) : Int := Int.bmod value 18446744073709551616

/-- A number brought into the range by going no further than its ends. -/
def clamp (value : Int) : Int := max smallest (min largest value)

/-- The number at the front, in the base that its beginning shows, and what follows. -/
def readNumber (characters : List Char) : Int × List Char :=
  let inBase (base : Nat) (characters : List Char) : Int × List Char :=
    let (digits, rest) := Scanning.spanBase base characters
    (clamp (Scanning.valueOf base digits), rest)
  match characters with
  | '0' :: letter :: digit :: rest =>
      if (letter = 'x' || letter = 'X') && (Number.digit? 16 digit).isSome then
        inBase 16 (digit :: rest)
      else inBase 8 characters
  | '0' :: _ => inBase 8 characters
  | _ => inBase 10 characters

/-- The operators, longer ones before their beginnings. -/
def operators : List (List Char) :=
  ["<<=", ">>=", "||", "&&", "==", "!=", "<=", ">=", "<<", ">>", "*=", "/=", "%=", "+=",
    "-=", "&=", "^=", "|="].map String.toList

/-- Cuts an expression into symbols. -/
def symbols : Nat → List Char → List Symbol
  | 0, _ => []
  | _, [] => []
  | fuel + 1, character :: rest =>
      let characters := character :: rest
      if [' ', '\t', '\n'].contains character then symbols fuel rest
      else if character.isDigit then
        let (value, left) := readNumber characters
        .number value :: symbols fuel left
      else if Environment.isNameChar character then
        let (run, left) := Environment.spanName characters
        .name (String.ofList run) :: symbols fuel left
      else match operators.find? (·.isPrefixOf characters) with
        | some found =>
            .operator (String.ofList found) :: symbols fuel (characters.drop found.length)
        | none => .operator (String.singleton character) :: symbols fuel rest

/-- How loosely an operator between two values binds. -/
def rank? : String → Option Nat
  | "*" | "/" | "%" => some 0
  | "+" | "-" => some 1
  | "<<" | ">>" => some 2
  | "<" | "<=" | ">" | ">=" => some 3
  | "==" | "!=" => some 4
  | "&" => some 5
  | "^" => some 6
  | "|" => some 7
  | _ => none

/-- One for a condition that holds, else zero. -/
def truth (holds : Bool) : Int := if holds then 1 else 0

def onBits (operation : Nat → Nat → Nat) (left right : Int) : Int :=
  let bits (value : Int) : Nat := (value % 18446744073709551616).toNat
  wrap (operation (bits left) (bits right))

/-- The result of an operator between two values. -/
def apply (operator : String) (left right : Int) : Except Fault Int :=
  let amount := (right % 64).toNat
  match operator with
  | "|" => .ok (onBits (· ||| ·) left right)
  | "^" => .ok (onBits (· ^^^ ·) left right)
  | "&" => .ok (onBits (· &&& ·) left right)
  | "==" => .ok (truth (left = right))
  | "!=" => .ok (truth (left ≠ right))
  | "<" => .ok (truth (left < right))
  | "<=" => .ok (truth (left ≤ right))
  | ">" => .ok (truth (right < left))
  | ">=" => .ok (truth (right ≤ left))
  | "<<" => .ok (wrap (left * (Nat.pow 2 amount : Nat)))
  | ">>" => .ok (Int.fdiv left (Nat.pow 2 amount : Nat))
  | "+" => .ok (wrap (left + right))
  | "-" => .ok (wrap (left - right))
  | "*" => .ok (wrap (left * right))
  | "/" => if right = 0 then .error .zeroDivision else .ok (wrap (Int.tdiv left right))
  | "%" => if right = 0 then .error .zeroDivision else .ok (wrap (Int.tmod left right))
  | _ => .ok right

/-- What is left of an expression, and the variables that it set, the latest first. -/
structure Progress where
  left : List Symbol
  assigned : List (String × Int)
deriving Repr

/-- Evaluates a part of an expression. -/
abbrev Evaluator := StateT Progress (Except Fault)

/-- The number that the value of a variable writes; a blank one is zero. -/
def readValue (value : String) : Except Fault Int :=
  let body := value.toList.dropWhile Scanning.isBlank
  let (negative, digits) := Number.spanSign body
  if digits.head?.any Char.isDigit then
    let (number, rest) := readNumber digits
    if rest.all Scanning.isBlank then .ok (clamp (if negative then -number else number))
    else .error (.noNumber value)
  else if body.isEmpty then .ok 0
  else .error (.noNumber value)

/-- The value of a variable. -/
def valueOf (lookup : String → Option String) (name : String) : Evaluator Int := do
  match (← get).assigned.lookup name with
  | some value => return value
  | none =>
      match readValue ((lookup name).getD "") with
      | .ok value => return value
      | .error fault => throw fault

def next : Evaluator (Option Symbol) := do
  let progress ← get
  set { progress with left := progress.left.drop 1 }
  return progress.left.head?

/-- Takes an operator if it is next. -/
def takeIf (operator : String) : Evaluator Bool := do
  if (← get).left.head? = some (.operator operator) then
    let _ ← next
    return true
  return false

/-- The operator of an assignment without its equality sign. -/
def assigning? : Symbol → Option String
  | .operator "=" => some ""
  | .operator text =>
      if ["*=", "/=", "%=", "+=", "-=", "<<=", ">>=", "&=", "^=", "|="].contains text then
        some (Text.dropEnd 1 text)
      else none
  | _ => none

/-- What kind of part of an expression is evaluated. -/
inductive Level where
  | assignment
  | condition
  | disjunction
  | conjunction
  | sum
  /-- the operators behind a value that bind more tightly than a rank -/
  | tail (left : Int) (operator : String) (rank : Nat)
  | primary
deriving DecidableEq, Repr

/-- The operator between two values that is next. -/
def peekOperator : Evaluator (Option (String × Nat)) := do
  match (← get).left.head? with
  | some (.operator text) => return (rank? text).map fun rank => (text, rank)
  | _ => return none

/-- The value of a part of an expression; `idle` says that it is only read. -/
def evaluatePart (lookup : String → Option String) : Nat → Bool → Level → Evaluator Int
  | 0, _, _ => throw .noPrimary
  | fuel + 1, idle, level => do
      let part (idle : Bool) (level : Level) : Evaluator Int := evaluatePart lookup fuel idle level
      match level with
      | .assignment =>
          match (← get).left with
          | .name name :: sign :: others =>
              match assigning? sign with
              | some operator =>
                  modify fun progress => { progress with left := others }
                  let value ← part idle .assignment
                  if idle then return value
                  let value ← if operator = "" then pure value
                    else match apply operator (← valueOf lookup name) value with
                      | .ok value => pure value
                      | .error fault => throw fault
                  modify fun progress =>
                    { progress with assigned := (name, value) :: progress.assigned }
                  return value
              | none => part idle .condition
          | _ => part idle .condition
      | .condition =>
          let chosen ← part idle .disjunction
          if ← takeIf "?" then
            let yes ← part (idle || chosen = 0) .assignment
            if !(← takeIf ":") then throw .noColon
            let no ← part (idle || chosen ≠ 0) .condition
            return if chosen ≠ 0 then yes else no
          return chosen
      | .disjunction =>
          let left ← part idle .conjunction
          if ← takeIf "||" then
            let right ← part (idle || left ≠ 0) .disjunction
            return truth (left ≠ 0 || right ≠ 0)
          return left
      | .conjunction =>
          let left ← part idle .sum
          if ← takeIf "&&" then
            let right ← part (idle || left = 0) .conjunction
            return truth (left ≠ 0 && right ≠ 0)
          return left
      | .sum =>
          let left ← part idle .primary
          match ← peekOperator with
          | some (operator, _) => part idle (.tail left operator 8)
          | none => return left
      | .tail left operator rank =>
          let _ ← next
          let right ← part idle .primary
          let own := (rank? operator).getD 0
          let right ← match ← peekOperator with
            | some (following, behind) =>
                if behind < own then part idle (.tail right following own) else pure right
            | none => pure right
          let value ← if idle then pure right
            else match apply operator left right with
              | .ok value => pure value
              | .error fault => throw fault
          match ← peekOperator with
          | some (following, behind) =>
              if behind < rank then part idle (.tail value following rank) else return value
          | none => return value
      | .primary =>
          match ← next with
          | some (.number value) => return value
          | some (.name name) => if idle then return 0 else valueOf lookup name
          | some (.operator "(") =>
              let value ← part idle .assignment
              if !(← takeIf ")") then throw .noBracket
              return value
          | some (.operator "+") => part idle .primary
          | some (.operator "-") => return wrap (-(← part idle .primary))
          | some (.operator "!") => return truth ((← part idle .primary) = 0)
          | some (.operator "~") => return wrap (-(← part idle .primary) - 1)
          | _ => throw .noPrimary

/-- The value of an expression, and the variables that it sets, in their order. -/
def evaluate (lookup : String → Option String) (expression : List Char) :
    Except Fault (Int × List (String × Int)) := do
  let found := symbols (expression.length + 1) expression
  let (value, progress) ←
    (evaluatePart lookup (10 * found.length + 20) false .assignment).run ⟨found, []⟩
  if progress.left.isEmpty then return (value, progress.assigned.reverse)
  else throw .noEnd

end ToolParams.Shell.Arithmetic
