import ToolParams.Programs.Utility.Viewing

/-!
# Sorting lines

Utilities that bring lines into an order, or drop those that are like the one before.  Lines
are compared by keys, which are parts of them, and in the end as a whole.
-/

namespace ToolParams.Sorting

/-- How a key is compared. -/
structure KeyManner where
  letters : List Char
deriving DecidableEq, Repr

/-- Where a key begins or ends: a field and a byte in it, both counted from one; the end
of the field if the byte is zero. -/
structure KeyPlace where
  field : Nat
  byte : Nat
  skipsBlanks : Bool
deriving DecidableEq, Repr

/-- A part of a line. -/
structure Key where
  first : KeyPlace
  last : Option KeyPlace
  manner : KeyManner
deriving DecidableEq, Repr

/-- The letters that say how keys are compared. -/
def mannerLetters : List Char := ['b', 'd', 'f', 'g', 'h', 'i', 'M', 'n', 'R', 'r', 'V']

/-- Whether a character is a blank between fields. -/
def isGap (character : Char) : Bool := character = ' ' || character = '\t' || character = '\n'

/-- What follows some fields; a separator at the end of the last one is passed as well if
more is wanted. -/
def afterFields (separator : Option Char) (passLast : Bool) : Nat → List Char → List Char
  | 0, characters => characters
  | count + 1, characters =>
      match separator with
      | some mark =>
          let rest := characters.dropWhile (· ≠ mark)
          afterFields separator passLast count
            (if count ≠ 0 || passLast then rest.drop 1 else rest)
      | none =>
          afterFields separator passLast count
            ((characters.dropWhile isGap).dropWhile (!isGap ·))

/-- The part of a line that a key is about. -/
def Key.part (separator : Option Char) (key : Key) (line : List Char) : List Char :=
  let start := afterFields separator true (key.first.field - 1) line
  let start := if key.first.skipsBlanks then start.dropWhile isGap else start
  let start := start.drop (key.first.byte - 1)
  match key.last with
  | none => start
  | some place =>
      let rest :=
        if place.byte = 0 then afterFields separator false place.field line
        else
          let rest := afterFields separator true (place.field - 1) line
          let rest := if place.skipsBlanks then rest.dropWhile isGap else rest
          rest.drop place.byte
      start.take (start.length - rest.length)

/-- A decimal number at the front of a text: a numerator and the count of places. -/
def readDecimal (characters : List Char) : Int × Nat :=
  let (negative, body) : Bool × List Char := match characters.dropWhile isGap with
    | '-' :: rest => (true, rest)
    | rest => (false, rest)
  let (whole, rest) := Number.spanDigits body
  let (fraction, _) := Number.spanFraction rest
  let value := Number.digitsValue (whole ++ fraction)
  (if negative then -(value : Int) else value, fraction.length)

/-- The order of two decimal numbers. -/
def compareDecimals (left right : Int × Nat) : Ordering :=
  compare (left.1 * (Nat.pow 10 right.2 : Nat)) (right.1 * (Nat.pow 10 left.2 : Nat))

/-- The rank of the letter behind a number that stands for a size. -/
def sizeRank (characters : List Char) : Int :=
  let (negative, body) : Bool × List Char := match characters.dropWhile isGap with
    | '-' :: rest => (true, rest)
    | rest => (false, rest)
  let rest := (Number.spanFraction (Number.spanDigits body).2).2
  let rank : Int := match rest with
    | letter :: _ => ((['K', 'M', 'G', 'T', 'P', 'E', 'Z', 'Y'].idxOf? letter.toUpper).map
        (fun index => (index + 1 : Int))).getD 0
    | [] => 0
  if negative then -rank else rank

def monthRank (characters : List Char) : Nat :=
  let name := ((characters.dropWhile isGap).take 3).map Char.toUpper
  let months := ["JAN", "FEB", "MAR", "APR", "MAY", "JUN", "JUL", "AUG", "SEP", "OCT", "NOV",
    "DEC"]
  ((months.idxOf? (String.ofList name)).map (· + 1)).getD 0

def compareBytes (left right : List Char) : Ordering :=
  compare (left.map Char.toNat) (right.map Char.toNat)

/-- The order of versions: digits count as numbers. -/
def compareVersions : Nat → List Char → List Char → Ordering
  | 0, _, _ => .eq
  | _, [], [] => .eq
  | _, [], _ => .lt
  | _, _, [] => .gt
  | fuel + 1, left, right =>
      let (leftWord, leftRest) := left.span (!Char.isDigit ·)
      let (rightWord, rightRest) := right.span (!Char.isDigit ·)
      match compareBytes leftWord rightWord with
      | .eq =>
          let (leftDigits, leftRest) := Number.spanDigits leftRest
          let (rightDigits, rightRest) := Number.spanDigits rightRest
          match compare (Number.digitsValue leftDigits) (Number.digitsValue rightDigits) with
          | .eq => compareVersions fuel leftRest rightRest
          | order => order
      | order => order

/-- The rank of a number that may be written with an exponent; what is none comes first. -/
def realRank (characters : List Char) : Int :=
  match Scanning.number? characters with
  | none => -2 * (Magnitude.limit : Int)
  | some (value, _) => (value.rank).getD (-2 * (Magnitude.limit : Int) + 1)

/-- The order of two parts of lines. -/
def KeyManner.compare (manner : KeyManner) (left right : List Char) : Ordering :=
  let has (letter : Char) : Bool := manner.letters.contains letter
  let order :=
    if has 'n' then compareDecimals (readDecimal left) (readDecimal right)
    else if has 'g' then Ord.compare (realRank left) (realRank right)
    else if has 'h' then
      (Ord.compare (sizeRank left) (sizeRank right)).then
        (compareDecimals (readDecimal left) (readDecimal right))
    else if has 'M' then Ord.compare (monthRank left) (monthRank right)
    else if has 'V' then compareVersions (left.length + right.length + 1) left right
    else
      let prepare (characters : List Char) : List Char :=
        let characters := if has 'd' then
            characters.filter fun character => character.isAlphanum || isGap character
          else if has 'i' then characters.filter Quoting.isPrintable
          else characters
        if has 'f' then characters.map Char.toUpper else characters
      compareBytes (prepare left) (prepare right)
  if has 'r' then order.swap else order

/-- Reads a number of a key; a complaint tells where it should be. -/
def readCount (place : String) (characters : List Char) : Except String (Nat × List Char) :=
  let (digits, rest) := Number.spanDigits characters
  if digits.isEmpty then
    .error s!"invalid number {place}: invalid count at start of {Quoting.plain (String.ofList rest)}"
  else .ok (Number.digitsValue digits, rest)

def badKey (text fault : String) : Except String Unit :=
  .error s!"{fault}: invalid field specification {Quoting.plain text}"

/-- Reads a place of a key. -/
def readPlace (text place : String) (isFirst : Bool) (characters : List Char) :
    Except String (KeyPlace × List Char × List Char) := do
  let (field, rest) ← readCount place characters
  if field = 0 then badKey text "field number is zero"
  let (byte, rest) ← match rest with
    | '.' :: behind => do
        let (byte, rest) ← readCount "after '.'" behind
        if isFirst && byte = 0 then badKey text "character offset is zero"
        pure (byte, rest)
    | _ => pure (if isFirst then 1 else 0, rest)
  let letters := rest.takeWhile mannerLetters.contains
  return (⟨field, byte, letters.contains 'b'⟩, letters, rest.drop letters.length)

/-- Reads a key. -/
def readKey (text : String) : Except String Key := do
  let (first, letters, rest) ← readPlace text "at field start" true text.toList
  let (last, more, rest) ← match rest with
    | ',' :: behind => do
        let (last, more, rest) ← readPlace text "after ','" false behind
        pure (some last, more, rest)
    | _ => pure (none, [], rest)
  if !rest.isEmpty then badKey text "stray character in field spec"
  return ⟨first, last, ⟨letters ++ more⟩⟩

/-- The letters of orders that exclude each other, as far as they are given. -/
def conflict? (letters : List Char) : Option String :=
  let has (letter : Char) : Bool := letters.contains letter
  let orders := ['n', 'g', 'h', 'M'].countP has + (if ['d', 'i', 'V', 'R'].any has then 1 else 0) +
    (if has 'V' && has 'R' then 1 else 0)
  if orders < 2 then none
  else some (String.ofList (['M', 'R', 'V', 'd', 'f', 'g', 'h', 'i', 'n'].filter fun letter =>
    letter ≠ 'f' && has letter))

/-- How lines are brought into an order. -/
structure LineOrder where
  separator : Option Char
  keys : List Key
  manner : KeyManner
  /-- whether lines with equal keys are equal -/
  byKeys : Bool

/-- The order of two lines by their keys. -/
def LineOrder.compareKeys (order : LineOrder) (left right : List Char) : Ordering :=
  if order.keys.isEmpty then
    let skip (line : List Char) : List Char :=
      if order.manner.letters.contains 'b' then line.dropWhile isGap else line
    order.manner.compare (skip left) (skip right)
  else order.keys.foldl (fun found key =>
    found.then (key.manner.compare (key.part order.separator left)
      (key.part order.separator right))) .eq

/-- The order of two lines. -/
def LineOrder.compare (order : LineOrder) (left right : List Char) : Ordering :=
  let found := order.compareKeys left right
  if order.byKeys then found
  else
    let last := compareBytes left right
    found.then (if order.manner.letters.contains 'r' then last.swap else last)

/-- Lines of which those that are equal to the one before are left out. -/
def withoutEqual (same : List Char → List Char → Bool) : List (List Char) → List (List Char)
  | [] => []
  | first :: rest =>
      match withoutEqual same rest with
      | second :: others => if same first second then first :: others else first :: second :: others
      | [] => [first]

/-- The first line that is out of order, with its number. -/
def disorder? (good : List Char → List Char → Bool) : Nat → List (List Char) →
    Option (Nat × List Char)
  | number, first :: second :: rest =>
      if good first second then disorder? good (number + 1) (second :: rest)
      else some (number + 1, second)
  | _, _ => none

/-- Writes the lines of files in an order. -/
def sort : Utility := fun arguments =>
  let form : OptionForm := .of "bcCdfghiMmnRrsuVz" "koSTt" [("ignore-leading-blanks", 'b'),
    ("dictionary-order", 'd'), ("ignore-case", 'f'), ("general-numeric-sort", 'g'),
    ("human-numeric-sort", 'h'), ("month-sort", 'M'), ("numeric-sort", 'n'), ("reverse", 'r'),
    ("version-sort", 'V'), ("key", 'k'), ("output", 'o'), ("stable", 's'),
    ("field-separator", 't'), ("unique", 'u'), ("merge", 'm'), ("zero-terminated", 'z'),
    ("buffer-size", 'S'), ("temporary-directory", 'T'), ("random-sort", 'R')]
  Work.withOptions form 2 arguments fun options => do
    let letters := (options.given.map (·.1)).filter mannerLetters.contains
    let ending := if options.has 'z' then '\x00' else '\n'
    match (options.values 'k').mapM readKey with
    | .error fault => Work.complain 2 fault
    | .ok keys =>
        let tab := options.value? 't'
        if tab = some "" then
          Work.complain 2 "empty tab"
          return ()
        if let some text := tab.filter fun text => 1 < text.length && text ≠ "\\0" then
          Work.complain 2 s!"multi-character tab {Quoting.plain text}"
          return ()
        let checking := options.has 'c' || options.has 'C'
        if let some letters := (letters :: keys.map (·.manner.letters)).findSome? conflict? then
          Work.complain 2 s!"options '-{letters}' are incompatible"
          return ()
        if options.has 'c' && options.has 'C' then
          Work.complain 2 "options '-cC' are incompatible"
          return ()
        if let _ :: extra :: _ := options.operands then
          if checking then
            let letter := if options.has 'c' then "c" else "C"
            Work.complain 2 s!"extra operand {Quoting.plain extra} not allowed with -{letter}"
            return ()
        let inherit (key : Key) : Key :=
          if !key.manner.letters.isEmpty then key
          else
            let skips := letters.contains 'b'
            { first := { key.first with skipsBlanks := skips }
              last := key.last.map fun place => { place with skipsBlanks := skips }
              manner := ⟨letters⟩ }
        let mark := (tab.map fun text =>
          if text = "\\0" then '\x00' else text.toList.headD '\x00')
        let order : LineOrder :=
          { separator := mark, keys := keys.map inherit
            manner := ⟨letters⟩, byKeys := options.has 's' || options.has 'u' }
        let names := if options.operands.isEmpty then ["-"] else options.operands
        let mut found : List (List (List Char)) := []
        let mut failed := false
        for name in names do
          if !failed then
            match ← Work.content name with
            | .ok text => found := Lines.upTo ending text :: found
            | .error why =>
                let action := if why = FileCause.isDirectory.sentence then "read failed" else "cannot read"
                Work.complain 2 s!"{action}: {Quoting.ifNeeded name}: {why}"
                failed := true
        if !failed then
          let lines := found.reverse.flatten
          let same (left right : List Char) : Bool := order.compareKeys left right == .eq
          if checking then
            let good (left right : List Char) : Bool :=
              let found := order.compare left right
              if options.has 'u' then found == .lt else found != .gt
            match disorder? good 1 lines with
            | none => return ()
            | some (number, line) =>
                if options.has 'c' then
                  let name := names.headD "-"
                  Work.complain 1 s!"{name}:{number}: disorder: {String.ofList line}"
                else Work.finish 1
          else
            let sorted := lines.mergeSort fun left right => order.compare left right != .gt
            let sorted := if options.has 'u' then withoutEqual same sorted else sorted
            match options.value? 'o' with
            | none => Work.say (Lines.join ending sorted)
            | some path =>
                Work.attempt s!"open failed: {Quoting.ifNeeded path}"
                  (Work.write (← Work.files) (← get).mask path (Lines.join ending sorted))

/-- Equal lines that follow each other, together. -/
def runs (same : List Char → List Char → Bool) : List (List Char) → List (List (List Char))
  | [] => []
  | line :: rest =>
      match runs same rest with
      | (next :: others) :: groups =>
          if same line next then (line :: next :: others) :: groups
          else [line] :: (next :: others) :: groups
      | groups => [line] :: groups

/-- Writes one of several equal lines that follow each other. -/
def uniq : Utility := fun arguments =>
  let form : OptionForm := .of "cdDiuz" "fsw" [("count", 'c'), ("repeated", 'd'),
    ("ignore-case", 'i'), ("unique", 'u'), ("skip-fields", 'f'), ("skip-chars", 's'),
    ("check-chars", 'w'), ("all-repeated", 'D')]
  Work.withOptions form 1 arguments fun options => do
    let ending := if options.has 'z' then '\x00' else '\n'
    let number (letter : Char) : Option Nat := (options.value? letter).bind Scanning.natural?
    let part (line : List Char) : List Char :=
      let line := afterFields none false ((number 'f').getD 0) line
      let line := line.drop ((number 's').getD 0)
      let line := match number 'w' with
        | some count => line.take count
        | none => line
      if options.has 'i' then line.map Char.toLower else line
    let wanted (group : List (List Char)) : Bool :=
      let several := 1 < group.length
      if options.has 'd' && options.has 'u' then false
      else if options.has 'd' || options.has 'D' then several
      else if options.has 'u' then !several
      else true
    match options.operands with
    | _ :: _ :: extra :: _ => Work.refuse 1 s!"extra operand {Quoting.plain extra}"
    | operands =>
        let name := operands.headD "-"
        match ← Work.content name with
        | .error why =>
            if why = FileCause.isDirectory.sentence then
              Work.complain 1 s!"error reading {Quoting.always name}: {why}"
            else Work.complain 1 s!"{Quoting.ifNeeded name}: {why}"
        | .ok text =>
            let groups := (runs (fun left right => part left = part right)
              (Lines.upTo ending text)).filter wanted
            let shown := groups.flatMap fun group =>
              if options.has 'D' then group
              else
                let count := if options.has 'c' then
                    (Viewing.onWidth 7 group.length).toList ++ [' ']
                  else []
                [count ++ group.headD []]
            match operands with
            | [_, path] =>
                Work.attempt (Quoting.ifNeeded path)
                  (Work.write (← Work.files) (← get).mask path (Lines.join ending shown))
            | _ => Work.say (Lines.join ending shown)

end ToolParams.Sorting
