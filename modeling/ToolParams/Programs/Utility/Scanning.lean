import ToolParams.Number.Numeral

/-!
# Numbers at the front of a text

Programs read a number as far as it goes and look at what follows it.
-/

namespace ToolParams.Scanning

def isBlank (character : Char) : Bool :=
  character = ' ' || ('\t' ≤ character && character ≤ '\r')

def valueOf (base : Nat) (digits : List Char) : Nat :=
  (digits.filterMap (Number.digit? base)).foldl (fun value digit => value * base + digit) 0

/-- The digits of a base at the front, and what follows them. -/
def spanBase (base : Nat) (characters : List Char) : List Char × List Char :=
  characters.span fun character => (Number.digit? base character).isSome

/-- The whole number at the front, after blanks and a sign, and what follows it.  The
base is told by the digits: `0x` or a zero in front. -/
def integer? (characters : List Char) : Option (Int × List Char) :=
  let (negative, body) := Number.spanSign (characters.dropWhile isBlank)
  let found : Option (Nat × List Char) := match body with
    | '0' :: letter :: rest =>
        let (digits, left) := spanBase 16 rest
        if (letter = 'x' || letter = 'X') && !digits.isEmpty then some (valueOf 16 digits, left)
        else
          let (digits, left) := spanBase 8 (letter :: rest)
          some (valueOf 8 digits, left)
    | _ =>
        let (digits, left) := spanBase 10 body
        if digits.isEmpty then none else some (valueOf 10 digits, left)
  found.map fun (value, left) => (if negative then -(value : Int) else value, left)

/-- The decimal number at the front, after blanks and a sign, and what follows it. -/
def number? (characters : List Char) : Option (Number × List Char) :=
  let (negative, body) := Number.spanSign (characters.dropWhile isBlank)
  let lower := body.map Char.toLower
  if ['i', 'n', 'f', 'i', 'n', 'i', 't', 'y'].isPrefixOf lower then
    some (.infinity negative, body.drop 8)
  else if ['i', 'n', 'f'].isPrefixOf lower then some (.infinity negative, body.drop 3)
  else if ['n', 'a', 'n'].isPrefixOf lower then some (.nan, body.drop 3)
  else match body with
    | '0' :: letter :: rest =>
        let (digits, left) := spanBase 16 rest
        if (letter = 'x' || letter = 'X') && !digits.isEmpty then
          some (.ofRatio negative (valueOf 16 digits) 1, left)
        else decimal? negative body
    | _ => decimal? negative body
where
  decimal? (negative : Bool) (body : List Char) : Option (Number × List Char) :=
    let (whole, rest) := Number.spanDigits body
    let (fraction, rest) := match rest with
      | '.' :: behind =>
          let (fraction, left) := Number.spanDigits behind
          if whole.isEmpty && fraction.isEmpty then ([], rest) else (fraction, left)
      | _ => ([], rest)
    if whole.isEmpty && fraction.isEmpty then none
    else
      let (power, rest) : Int × List Char := match rest with
        | mark :: behind =>
            let (down, digits) := Number.spanSign behind
            let (digits, left) := Number.spanDigits digits
            if (mark = 'e' || mark = 'E') && !digits.isEmpty then
              (if down then -(Number.digitsValue digits : Int) else Number.digitsValue digits, left)
            else (0, rest)
        | [] => (0, rest)
      some (.ofDecimal negative (Number.digitsValue (whole ++ fraction)) (power - fraction.length),
        rest)

/-- The whole number that a text writes in base ten, with blanks around it. -/
def whole? (text : String) : Option Int :=
  let (negative, body) := Number.spanSign (text.toList.dropWhile isBlank)
  let (digits, left) := Number.spanDigits body
  if digits.isEmpty || !left.all isBlank then none
  else some (if negative then -(Number.digitsValue digits : Int) else Number.digitsValue digits)

def natural? (text : String) : Option Nat :=
  if Number.isDigits text.toList then some (Number.digitsValue text.toList) else none

end ToolParams.Scanning
