import ToolParams.Programs.Utility.Scanning
import ToolParams.Text.Pieces

/-!
# Modes of files

A mode says who may read, write and run a file.  It is written in octal digits, or as
clauses that change another mode.
-/

namespace ToolParams.Mode

/-- The users that letters name: which bits belong to them. -/
def audience (letters : List Char) : Nat :=
  if letters.isEmpty || letters.contains 'a' then 0o7777
  else (if letters.contains 'u' then 0o4700 else 0) ||| (if letters.contains 'g' then 0o2070 else 0) |||
    (if letters.contains 'o' then 0o1007 else 0)

/-- Three bits given to all kinds of users. -/
def forAll (bits : Nat) : Nat := bits * 0o111

/-- The bits that letters of permissions mean for a mode; nothing for other letters. -/
def permissions? (isDirectory : Bool) (mode : Nat) : List Char → Option Nat
  | [] => some 0
  | letter :: rest => do
      let others ← permissions? isDirectory mode rest
      let own ← match letter with
        | 'r' => some (forAll 4)
        | 'w' => some (forAll 2)
        | 'x' => some (forAll 1)
        | 'X' => some (if isDirectory || mode &&& 0o111 ≠ 0 then forAll 1 else 0)
        | 's' => some 0o6000
        | 't' => some 0o1000
        | 'u' => some (forAll (mode / 0o100 % 8))
        | 'g' => some (forAll (mode / 0o10 % 8))
        | 'o' => some (forAll (mode % 8))
        | _ => none
      return own ||| others

/-- The bits of one number that another one does not have. -/
def without (left right : Nat) : Nat := left - (left &&& right)

def isOperation (character : Char) : Bool := ['+', '-', '='].contains character

/-- Changes a mode by the operations of a clause. -/
def operate (mask : Nat) (isDirectory : Bool) (users : List Char) :
    Nat → Nat → List Char → Option Nat
  | 0, _, _ => none
  | _, mode, [] => some mode
  | fuel + 1, mode, operation :: rest =>
      if !isOperation operation then none
      else
        let letters := rest.takeWhile (!isOperation ·)
        let left := rest.drop letters.length
        let scope := if users.isEmpty then without 0o7777 mask else audience users
        match permissions? isDirectory mode letters with
        | none => none
        | some bits =>
            let bits := bits &&& scope
            let mode := match operation with
              | '+' => mode ||| bits
              | '-' => without mode bits
              | _ => without mode (audience users &&& 0o777) ||| bits
            operate mask isDirectory users fuel mode left

/-- Changes a mode by a clause. -/
def applyClause (mask : Nat) (isDirectory : Bool) (mode : Nat) (clause : String) : Option Nat :=
  let characters := clause.toList
  let users := characters.takeWhile ['u', 'g', 'o', 'a'].contains
  let operations := characters.drop users.length
  if operations.isEmpty then none
  else operate mask isDirectory users (operations.length + 1) mode operations

/-- The mode that a text makes of another one. -/
def applied (mask : Nat) (isDirectory : Bool) (text : String) (mode : Nat) : Option Nat :=
  let characters := text.toList
  if characters.head?.any Char.isDigit then
    let value := Scanning.valueOf 8 characters
    if characters.all (fun digit => '0' ≤ digit && digit ≤ '7') && value < 0o10000 then some value
    else none
  else (Text.split ',' text).foldlM (applyClause mask isDirectory) mode

/-- A mode in octal digits, at least a number of them. -/
def octal (width mode : Nat) : String :=
  let digits := Nat.toDigits 8 mode
  String.ofList (List.replicate (width - digits.length) '0' ++ digits)

/-- A mode as letters. -/
def letters (mode : Nat) : String :=
  let triple (shift special : Nat) (with_ alone : Char) : List Char :=
    let bits := mode / Nat.pow 2 shift % 8
    let isSpecial := mode &&& special ≠ 0
    [if bits / 4 % 2 = 1 then 'r' else '-',
      if bits / 2 % 2 = 1 then 'w' else '-',
      if bits % 2 = 1 then (if isSpecial then with_ else 'x')
      else if isSpecial then alone else '-']
  String.ofList (triple 6 0o4000 's' 'S' ++ triple 3 0o2000 's' 'S' ++ triple 0 0o1000 't' 'T')

end ToolParams.Mode
