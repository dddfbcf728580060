import ToolParams.Number.Places
import ToolParams.Programs.Utility.Quoting
import ToolParams.Programs.Utility.Scanning
import ToolParams.Programs.Utility.Basic

/-!
# Printing

Utilities that write their arguments, one of them in the layout that a format asks
for.  A backslash begins an escape.  There are two dialects: that of the shell and that
of the programs of the system.
-/

namespace ToolParams.Printing

/-- Who prints. -/
inductive Dialect where
  | shell
  | system
deriving DecidableEq, Repr

/-- Where an escape stands: in a format, or in a text in which octal digits may have a
zero in front that does not count. -/
inductive EscapePlace where
  | form
  | text
deriving DecidableEq, Repr

/-- The bytes of escapes that are single letters. -/
def letterEscapes : List (Char × Char) :=
  [('a', '\x07'), ('b', '\x08'), ('e', '\x1b'), ('f', '\x0c'), ('n', '\n'), ('r', '\r'),
    ('t', '\t'), ('v', '\x0b'), ('\\', '\\')]

def byte (value : Nat) : Char := Char.ofNat (value % 256)

/-- The byte of the escape behind a backslash, and what follows the escape. -/
def escape? (dialect : Dialect) (place : EscapePlace) : List Char → Option (Char × List Char)
  | [] => none
  | character :: rest =>
      match letterEscapes.lookup character with
      | some value => some (value, rest)
      | none =>
          if character = '\x22' && place = .form then some (character, rest)
          else if character = 'x' && dialect = .system then
            let digits := (Scanning.spanBase 16 (rest.take 2)).1
            if digits.isEmpty then none
            else some (byte (Scanning.valueOf 16 digits), rest.drop digits.length)
          else
            let digits := (Scanning.spanBase 8 ((character :: rest).take
              (if place = .text && character = '0' then 4 else 3))).1
            if digits.isEmpty then none
            else some (byte (Scanning.valueOf 8 digits), (character :: rest).drop digits.length)

/-- A text with its escapes replaced, and whether one of them ends all output. -/
def unescape (dialect : Dialect) : Nat → List Char → List Char × Bool
  | 0, _ => ([], false)
  | _, [] => ([], false)
  | fuel + 1, '\\' :: rest =>
      if rest.head? = some 'c' then ([], true)
      else match escape? dialect .text rest with
        | some (value, left) =>
            let (others, ended) := unescape dialect fuel left
            (value :: others, ended)
        | none =>
            let (others, ended) := unescape dialect fuel rest
            ('\\' :: others, ended)
  | fuel + 1, character :: rest =>
      let (others, ended) := unescape dialect fuel rest
      (character :: others, ended)

/-- Arguments with blanks between them and an end of line, with escapes or without. -/
def line (dialect : Dialect) (escapes ending : Bool) (arguments : List String) : String :=
  let text := " ".intercalate arguments
  let last := if ending then "\n" else ""
  if escapes then
    let (characters, ended) := unescape dialect (text.length + 1) text.toList
    String.ofList characters ++ (if ended then "" else last)
  else text ++ last

/-- Writes arguments as the shell does: escapes are always replaced. -/
def shellEcho : Utility := fun arguments =>
  match arguments with
  | "-n" :: rest => Work.say (line .shell true false rest)
  | _ => Work.say (line .shell true true arguments)

/-- The options in front of the arguments of `echo`. -/
def echoOptions : List String → List Char × List String
  | [] => ([], [])
  | argument :: rest =>
      match argument.toList with
      | '-' :: letter :: letters =>
          if (letter :: letters).all ['n', 'e', 'E'].contains then
            let (others, left) := echoOptions rest
            (letter :: letters ++ others, left)
          else ([], argument :: rest)
      | _ => ([], argument :: rest)

/-- Writes arguments; an option asks for escapes. -/
def echo : Utility := fun arguments =>
  let (letters, words) := echoOptions arguments
  let escapes := (letters.filter (· ≠ 'n')).getLast? = some 'e'
  Work.say (line .system escapes (!letters.contains 'n') words)

/-- How a value is laid out. -/
structure Layout where
  flags : List Char
  width : Nat
  toLeft : Bool
  places : Option Nat
deriving DecidableEq, Repr

/-- Brings characters to a width.  Zeros go between a beginning and the rest. -/
def Layout.pad (layout : Layout) (zeros : Bool) (beginning body : List Char) : List Char :=
  let missing := layout.width - (beginning.length + body.length)
  if layout.toLeft then beginning ++ body ++ List.replicate missing ' '
  else if zeros && layout.flags.contains '0' then
    beginning ++ List.replicate missing '0' ++ body
  else List.replicate missing ' ' ++ beginning ++ body

/-- The sign in front of a number. -/
def Layout.sign (layout : Layout) (negative : Bool) : List Char :=
  if negative then ['-']
  else if layout.flags.contains '+' then ['+']
  else if layout.flags.contains ' ' then [' ']
  else []

/-- A whole number, with digits in front up to the wanted count. -/
def Layout.digits (layout : Layout) (base value : Nat) : List Char :=
  let digits := Nat.toDigits base value
  match layout.places with
  | none => digits
  | some 0 => if value = 0 then [] else digits
  | some places => List.replicate (places - digits.length) '0' ++ digits

/-- A whole number with a sign. -/
def Layout.signed (layout : Layout) (value : Int) : List Char :=
  layout.pad layout.places.isNone (layout.sign (value < 0)) (layout.digits 10 value.natAbs)

/-- A whole number without a sign, in the base that a letter tells. -/
def Layout.unsigned (layout : Layout) (letter : Char) (value : Nat) : List Char :=
  let alternate := layout.flags.contains '#'
  let zeros := layout.places.isNone
  match letter with
  | 'o' =>
      let digits := layout.digits 8 value
      layout.pad zeros [] (if alternate && digits.head? ≠ some '0' then '0' :: digits else digits)
  | 'x' =>
      layout.pad zeros (if alternate && value ≠ 0 then ['0', 'x'] else []) (layout.digits 16 value)
  | 'X' =>
      layout.pad zeros (if alternate && value ≠ 0 then ['0', 'X'] else [])
        ((layout.digits 16 value).map Char.toUpper)
  | _ => layout.pad zeros [] (layout.digits 10 value)

/-- A number with places or an exponent, as a letter tells. -/
def Layout.real (layout : Layout) (letter : Char) (value : Number) : List Char :=
  let places := layout.places.getD 6
  let point := layout.flags.contains '#'
  let capital (characters : List Char) : List Char :=
    if letter.isUpper then characters.map Char.toUpper else characters
  match value with
  | .nan => layout.pad false (layout.sign false) (capital ['n', 'a', 'n'])
  | .infinity negative => layout.pad false (layout.sign negative) (capital ['i', 'n', 'f'])
  | .finite negative magnitude =>
      let body := match letter.toLower with
        | 'e' => Number.scientific 'e' places point magnitude
        | 'g' => Number.general 'e' places point magnitude
        | _ => Number.fixed places point magnitude
      layout.pad true (layout.sign negative) (capital body)

/-- A text, of which no more than the wanted bytes are kept. -/
def Layout.text (layout : Layout) (characters : List Char) : List Char :=
  layout.pad false [] (match layout.places with
    | some places => characters.take places
    | none => characters)

/-- The complaint about an argument that does not begin with a number. -/
def noNumber (dialect : Dialect) (argument : String) : String :=
  match dialect with
  | .shell => s!"{argument}: expected numeric value"
  | .system => s!"{Quoting.plain argument}: expected a numeric value"

/-- The complaint about an argument that goes on behind a number. -/
def notAllNumber (dialect : Dialect) (argument : String) : String :=
  match dialect with
  | .shell => s!"{argument}: not completely converted"
  | .system => s!"{Quoting.plain argument}: value not completely converted"

/-- The complaint about a number that does not fit. -/
def outOfRange (dialect : Dialect) (argument : String) : String :=
  match dialect with
  | .shell => s!"{argument}: Numerical result out of range"
  | .system => s!"{Quoting.plain argument}: Numerical result out of range"

/-- Reads an argument as a number and complains if that is not all of it. -/
def readNumber {α : Type} [Inhabited α] (dialect : Dialect)
    (scan : List Char → Option (α × List Char)) (zero : α) (argument : String) : Work α := do
  match scan argument.toList with
  | some (value, []) => return value
  | some (value, _) =>
      Work.complain 1 (notAllNumber dialect argument)
      return value
  | none =>
      if argument ≠ "" then Work.complain 1 (noNumber dialect argument)
      return zero

/-- Reads an argument as a whole number between bounds.  A quote in front of a
character stands for its number. -/
def readWhole (dialect : Dialect) (low high : Int) (argument : Option String) : Work Int := do
  match argument with
  | none => return 0
  | some argument =>
      match argument.toList with
      | '\x22' :: character :: _ => return character.toNat
      | '\x27' :: character :: _ => return character.toNat
      | _ =>
          let value ← readNumber dialect Scanning.integer? 0 argument
          if value < low then
            Work.complain 1 (outOfRange dialect argument)
            return low
          if high < value then
            Work.complain 1 (outOfRange dialect argument)
            return high
          return value

/-- The largest whole number with a sign. -/
def largest : Int := 9223372036854775807

/-- The number of values of a whole number without a sign. -/
def modulus : Nat := 18446744073709551616

/-- What is left to do with a format. -/
structure Filling where
  arguments : List String
  /-- whether output is to end -/
  ended : Bool
deriving Repr

/-- Reads the width or the places of a layout: digits, or a star for an argument. -/
def readSize (dialect : Dialect) (characters : List Char) (arguments : List String) :
    Work (Option Int × List Char × List String) := do
  match characters with
  | '*' :: rest =>
      let value ← readWhole dialect (-largest) largest arguments.head?
      return (some value, rest, arguments.drop 1)
  | _ =>
      let (digits, rest) := Number.spanDigits characters
      let value : Option Int :=
        if digits.isEmpty then none else some (Number.digitsValue digits : Nat)
      return (value, rest, arguments)

/-- Writes an argument as the letter behind a percent sign asks. -/
def convert (dialect : Dialect) (layout : Layout) (letter : Char) (shown : String)
    (arguments : List String) : Work Filling := do
  let argument := arguments.head?
  let text := argument.getD ""
  let filling : Filling := ⟨arguments.drop 1, false⟩
  let put (characters : List Char) : Work Filling := do
    Work.say (String.ofList characters)
    return filling
  if letter = 's' then put (layout.text text.toList)
  else if letter = 'c' then
    let first := text.toList.head?.getD '\x00'
    put ({ layout with places := none }.text [first])
  else if letter = 'b' then
    let (characters, ended) := unescape dialect (text.length + 1) text.toList
    let filling ← put (layout.text characters)
    return { filling with ended }
  else if letter = 'd' || letter = 'i' then
    put (layout.signed (← readWhole dialect (-largest - 1) largest argument))
  else if ['o', 'u', 'x', 'X'].contains letter then
    let value ← readWhole dialect (-(modulus - 1 : Nat)) (modulus - 1 : Nat) argument
    put (layout.unsigned letter (value % modulus).toNat)
  else if ['e', 'E', 'f', 'F', 'g', 'G'].contains letter then
    let value ← match argument with
      | none => pure (Number.zero false)
      | some argument => readNumber dialect Scanning.number? (Number.zero false) argument
    put (layout.real letter value)
  else
    match dialect with
    | .shell => Work.complain 2 s!"{shown}: invalid directive"
    | .system => Work.complain 1 s!"{shown}: invalid conversion specification"
    return { filling with ended := true }

/-- Writes a format once, and tells the arguments that it did not use. -/
def fill (dialect : Dialect) : Nat → List Char → List String → Work Filling
  | 0, _, arguments => return ⟨arguments, false⟩
  | _, [], arguments => return ⟨arguments, false⟩
  | fuel + 1, '\\' :: rest, arguments => do
      if rest.head? = some 'c' && dialect = .system then return ⟨arguments, true⟩
      match escape? dialect .form rest with
      | some (value, left) =>
          Work.say (String.singleton value)
          fill dialect fuel left arguments
      | none =>
          Work.say "\\"
          fill dialect fuel rest arguments
  | fuel + 1, '%' :: '%' :: rest, arguments => do
      Work.say "%"
      fill dialect fuel rest arguments
  | fuel + 1, '%' :: rest, arguments => do
      let flags := rest.takeWhile ['#', '-', '+', ' ', '0'].contains
      let (width, left, arguments) ← readSize dialect (rest.drop flags.length) arguments
      let (places, left, arguments) ← match left with
        | '.' :: behind => do
            let (places, left, arguments) ← readSize dialect behind arguments
            pure (some (places.getD 0), left, arguments)
        | _ => pure (none, left, arguments)
      let width := width.getD 0
      let layout : Layout :=
        { flags, width := width.natAbs, toLeft := flags.contains '-' || width < 0
          places := (places.filter (0 ≤ ·)).map Int.toNat }
      match left with
      | [] =>
          match dialect with
          | .shell => Work.complain 2 "missing format character"
          | .system =>
              Work.complain 1 s!"%{String.ofList rest}: invalid conversion specification"
          return ⟨arguments, true⟩
      | letter :: left =>
          let shown := String.ofList ('%' :: rest.take (rest.length - left.length))
          let filling ← convert dialect layout letter shown arguments
          if filling.ended then return filling
          fill dialect fuel left filling.arguments
  | fuel + 1, character :: rest, arguments => do
      Work.say (String.singleton character)
      fill dialect fuel rest arguments

/-- Writes a format again and again until it has used all arguments. -/
def fillAll (dialect : Dialect) (form : List Char) : Nat → List String → Work Unit
  | 0, _ => return ()
  | fuel + 1, arguments => do
      let filling ← fill dialect (form.length + 1) form arguments
      if filling.ended || filling.arguments.isEmpty then return ()
      if filling.arguments.length = arguments.length then
        if dialect = .system then
          let first := Quoting.plain (arguments.headD "")
          Work.remark
            s!"{(← get).name}: warning: ignoring excess arguments, starting with {first}\n"
        return ()
      fillAll dialect form fuel filling.arguments

/-- Writes arguments as a format asks. -/
def printf (dialect : Dialect) : Utility := fun arguments =>
  let print (arguments : List String) : Work Unit :=
    match dialect, arguments with
    | .shell, [] => Work.complain 2 "usage: printf format [arg ...]"
    | .system, [] => Work.refuse 1 "missing operand"
    | .system, form :: rest => fillAll dialect form.toList (rest.length + 1) rest
    | .shell, form :: rest => do
        fillAll dialect form.toList (rest.length + 1) rest
        Work.complaintsFirst
  match dialect, arguments with
  | _, "--" :: rest => print rest
  | .shell, argument :: _ =>
      match argument.toList with
      | '-' :: letter :: _ => Work.complain 2 s!"Illegal option -{letter}"
      | _ => print arguments
  | _, _ => print arguments

end ToolParams.Printing
