import ToolParams.Programs.Utility.Quoting
import ToolParams.Programs.Utility.Scanning
import ToolParams.Programs.Utility.Basic
import ToolParams.Text.Units

/-!
# Viewing files

Utilities that write files or parts of them, or count what is in them.
-/

namespace ToolParams.Viewing

/-- A number on a width, with blanks in front. -/
def onWidth (width value : Nat) : String := Text.padStart width (toString value)

/-- A byte as it is shown if it cannot be printed. -/
def shown (tabs : Bool) (character : Char) : List Char :=
  let code := character.toNat
  let small (code : Nat) : List Char :=
    if code < 32 then ['^', Char.ofNat (code + 64)]
    else if code = 127 then ['^', '?']
    else [Char.ofNat code]
  if character = '\t' && !tabs then ['\t']
  else if code < 128 then small code
  else 'M' :: '-' :: small (code - 128)

/-- Lines one after the other, with the marks and numbers that options ask for. -/
def decorate (options : Options) : Nat → Bool → List String → List String
  | _, _, [] => []
  | number, afterBlank, line :: rest =>
      let isBlank := line = "\n"
      if options.has 's' && isBlank && afterBlank then decorate options number true rest
      else
        let numbered := if options.has 'b' then !isBlank else options.has 'n'
        let body := line.toList.filter (· ≠ '\n')
        let body := if options.has 'v' then body.flatMap (shown (options.has 'T'))
          else if options.has 'T' then body.flatMap fun character =>
            if character = '\t' then ['^', 'I'] else [character]
          else body
        let ending := if Text.has '\n' line then (if options.has 'E' then "$\n" else "\n") else ""
        ((if numbered then onWidth 6 number ++ "\t" else "") ++ String.ofList body ++ ending) ::
          decorate options (if numbered then number + 1 else number) isBlank rest

/-- Writes files one after the other. -/
def cat : Utility := fun arguments =>
  let form : OptionForm := .of "AbeEnstTuv" "" [("show-all", 'A'), ("number-nonblank", 'b'),
    ("show-ends", 'E'), ("number", 'n'), ("squeeze-blank", 's'), ("show-tabs", 'T'),
    ("show-nonprinting", 'v')]
  Work.withOptions form 1 arguments fun options => do
    let names := if options.operands.isEmpty then ["-"] else options.operands
    let mut found : List String := []
    for name in names do
      let left ← Work.readsResults name
      let written := found.any (· ≠ "")
      if left.any fun left => left ≠ 0 || written then
        Work.complain 1 s!"{Quoting.ifNeeded name}: input file is output file"
      else match ← Work.content name with
      | .ok text => found := text :: found
      | .error why =>
          Work.complain 1 s!"{Quoting.ifNeeded name}: {why}"
          if why = "Bad file descriptor" then
            Work.complain 1 s!"closing standard input: {why}"
    let text := String.join found.reverse
    let meant : List (Char × List Char) := [('A', ['v', 'E', 'T']), ('e', ['v', 'E']), ('t', ['v', 'T'])]
    let letters := options.given.flatMap fun entry => entry.1 :: (meant.lookup entry.1).getD []
    let options := { options with given := letters.map fun letter => (letter, "") }
    if (letters.filter (· ≠ 'u')).isEmpty then Work.say text
    else Work.say (String.join (decorate options 1 false (Lines.whole text)))

/-- How much of a file is wanted. -/
structure Extent where
  ofBytes : Bool
  /-- whether it is counted from the other end -/
  fromOther : Bool
  count : Nat
deriving DecidableEq, Repr

/-- The units in which an amount may be written. -/
def units : List (String × Nat) :=
  [("", 1), ("b", 512), ("k", 1024), ("K", 1024), ("kB", 1000), ("KB", 1000), ("KiB", 1024),
    ("m", 1048576), ("M", 1048576), ("MB", 1000000), ("MiB", 1048576)]

def amount? (characters : List Char) : Option Nat :=
  let (digits, rest) := Number.spanDigits characters
  if digits.isEmpty then none
  else (units.lookup (String.ofList rest)).map (Number.digitsValue digits * ·)

/-- Reads an amount behind a sign that may turn it around. -/
def extent? (ofBytes : Bool) (turning : Char) (text : String) : Option Extent :=
  match text.toList with
  | sign :: digits =>
      if sign = turning then (amount? digits).map fun count => ⟨ofBytes, true, count⟩
      else if sign = '-' || sign = '+' then
        (amount? digits).map fun count => ⟨ofBytes, false, count⟩
      else (amount? text.toList).map fun count => ⟨ofBytes, false, count⟩
  | [] => none

/-- Arguments in which a number behind a dash is written as an option. -/
def withCount (arguments : List String) : List String :=
  match arguments with
  | first :: rest =>
      match first.toList with
      | '-' :: digit :: digits =>
          let (number, letters) := Number.spanDigits (digit :: digits)
          if number.isEmpty then arguments
          else
            let option := if letters.contains 'c' then "-c" else "-n"
            option :: String.ofList number :: rest
      | _ => arguments
  | [] => []

/-- Writes a part of each file, with its name above it if there are several. -/
def part (turning : Char) (choose : Extent → {α : Type} → List α → List α) : Utility :=
  fun arguments =>
  let form : OptionForm := .of "qvzfF" "ncs" [("lines", 'n'), ("bytes", 'c'), ("quiet", 'q'),
    ("silent", 'q'), ("verbose", 'v')]
  Work.withOptions form 1 (withCount arguments) fun options => do
    let ofBytes := options.last? ['n', 'c'] = some 'c'
    let given := if ofBytes then options.value? 'c' else options.value? 'n'
    match extent? ofBytes turning (given.getD "10") with
    | none =>
        let what := if ofBytes then "bytes" else "lines"
        let shown := given.getD ""
        Work.complain 1 s!"invalid number of {what}: {Quoting.plain shown}"
    | some extent =>
        let names := if options.operands.isEmpty then ["-"] else options.operands
        let titled := (names.length > 1 && !options.has 'q') || options.has 'v'
        let ending := if options.has 'z' then '\x00' else '\n'
        let mut first := true
        for name in names do
          let label := if name = "-" then "standard input" else name
          let title := s!"==> {label} <==\n"
          let title := if !titled then "" else if first then title else "\n" ++ title
          match ← Work.content name with
          | .ok text =>
              first := false
              Work.say title
              Work.say (if ofBytes then String.ofList (choose extent text.toList)
                else String.join (choose extent (Lines.wholeUpTo ending text)))
          | .error why =>
              if why = FileCause.isDirectory.sentence then
                first := false
                Work.say title
                Work.complain 1 s!"error reading {Quoting.always label}: {why}"
              else Work.complain 1 s!"cannot open {Quoting.always label} for reading: {why}"

/-- Writes the beginning of each file. -/
def head : Utility :=
  part '-' fun extent _ pieces =>
    pieces.take (if extent.fromOther then pieces.length - extent.count else extent.count)

/-- Writes the end of each file.  A number behind a plus sign may stand alone. -/
def tail : Utility := fun arguments =>
  let arguments := match arguments with
    | first :: rest =>
        match first.toList with
        | '+' :: digits =>
            if Number.isDigits digits && rest.length ≤ 1 then "-n" :: first :: rest else arguments
        | _ => arguments
    | [] => []
  part '+' (fun extent _ pieces =>
    pieces.drop (if extent.fromOther then extent.count - 1 else pieces.length - extent.count))
    arguments

/-- The words of a text, counted. -/
def countWords (characters : List Char) : Nat :=
  (('\n' :: characters).zip characters).countP fun (previous, character) =>
    Scanning.isBlank previous && !Scanning.isBlank character

/-- The columns that a line takes. -/
def columns (line : List Char) : Nat :=
  line.foldl (fun column character =>
    if character = '\t' then (column / 8 + 1) * 8
    else if Quoting.isPrintable character then column + 1
    else column) 0

/-- The counts of a text that options ask for: lines, words, bytes and the longest line. -/
def counts (wanted : List Char) (text : String) : List Nat :=
  let characters := text.toList
  (if wanted.contains 'l' then [characters.count '\n'] else []) ++
    (if wanted.contains 'w' then [countWords characters] else []) ++
    (if wanted.contains 'm' then [characters.length] else []) ++
    (if wanted.contains 'c' then [characters.length] else []) ++
    (if wanted.contains 'L' then
      [((Lines.of text).map columns).foldl max 0] else [])

/-- Counts from two texts together; the last count may be that of the longest line. -/
def addCounts (longest : Bool) (left right : List Nat) : List Nat :=
  let sums := left.zipWith (· + ·) right
  if longest then sums.dropLast ++ [max (left.getLastD 0) (right.getLastD 0)] else sums

/-- Counts lines, words and bytes. -/
def wc : Utility := fun arguments =>
  let form : OptionForm := .of "clmwL" "" [("bytes", 'c'), ("chars", 'm'), ("lines", 'l'),
    ("words", 'w'), ("max-line-length", 'L')]
  Work.withOptions form 1 arguments fun options => do
    let wanted := if options.given.isEmpty then ['l', 'w', 'c'] else options.given.map (·.1)
    let named := !options.operands.isEmpty
    let names := if named then options.operands else ["-"]
    let working ← get
    let files := working.files
    let isFile (name : String) : Bool :=
      if Work.inputNames.contains name then working.inputFile.isSome
      else match files.lookup name with
        | .ok (.file ..) => true
        | _ => false
    let fails (name : String) : Bool :=
      !Work.inputNames.contains name && (files.lookup name).toOption.isNone
    let sizes := names.map fun name =>
      if Work.inputNames.contains name then (working.input.getD "").length
      else match files.read name with
        | .ok text => text.length
        | .error _ => 0
    let regular := ((names.zip sizes).filter fun entry => isFile entry.1).map (·.2)
    let total := (toString (regular.foldl (· + ·) 0)).length
    let single := (counts wanted "").length = 1
    let width :=
      if (names.length = 1 && single) || fails (names.headD "") then 1
      else if names.all fun name => isFile name || fails name then total
      else max total 7
    let tell (values : List Nat) (label : String) : Work Unit :=
      Work.say (" ".intercalate (values.map (onWidth width)) ++
        (if label = "" then "\n" else s!" {label}\n"))
    let mut sum := counts wanted ""
    for name in names do
      match ← Work.content name with
      | .ok text =>
          let found := counts wanted text
          sum := addCounts (wanted.contains 'L') sum found
          tell found (if named then name else "")
      | .error why =>
          let shown := if name = "-" then Quoting.always "standard input" else Quoting.ifNeeded name
          Work.complain 1 s!"{shown}: {why}"
          if why = FileCause.isDirectory.sentence then
            tell (counts wanted "") (if named then name else "")
    if names.length > 1 then tell sum "total"

end ToolParams.Viewing
