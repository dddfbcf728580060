import ToolParams.Programs.Utility.Quoting
import ToolParams.Programs.Utility.Scanning
import ToolParams.Programs.Utility.Basic

/-!
# Columns

The utility that takes lines apart into bytes or fields.
-/

namespace ToolParams.Columns

/-- A range of positions, which begin with one; without an end it has all that follow. -/
structure Span where
  first : Nat
  last : Option Nat
deriving DecidableEq, Repr

def Span.has (span : Span) (position : Nat) : Bool :=
  span.first ≤ position && span.last.all (position ≤ ·)

/-- What is wrong with a list of ranges. -/
inductive ListFault where
  | zero
  | invalid (text : String)
  | decreasing
  | noEnds
deriving DecidableEq, Repr

/-- The text of a fault in a list of fields, or of bytes. -/
def ListFault.message (ofFields : Bool) : ListFault → String
  | .zero => if ofFields then "fields are numbered from 1"
      else "byte/character positions are numbered from 1"
  | .invalid text =>
      if ofFields then s!"invalid field value {Quoting.plain text}"
      else s!"invalid byte/character position {Quoting.plain text}"
  | .decreasing => "invalid decreasing range"
  | .noEnds => "invalid range with no endpoint: -"

/-- Reads a range. -/
def readSpan (text : List Char) : Except ListFault Span := do
  let (low, rest) := Number.spanDigits text
  match rest with
  | [] =>
      if low.isEmpty then throw .zero
      let position := Number.digitsValue low
      if position = 0 then throw .zero
      return ⟨position, some position⟩
  | '-' :: behind =>
      let (high, rest) := Number.spanDigits behind
      if !rest.isEmpty then throw (.invalid (String.ofList rest))
      if low.isEmpty && high.isEmpty then throw .noEnds
      let first := if low.isEmpty then 1 else Number.digitsValue low
      if first = 0 then throw .zero
      if high.isEmpty then return ⟨first, none⟩
      if Number.digitsValue high < first then throw .decreasing
      return ⟨first, some (Number.digitsValue high)⟩
  | _ => throw (.invalid (String.ofList text))

def readSpans (text : String) : Except ListFault (List Span) :=
  (text.toList.splitOnP fun character => character = ',' || character = ' ').mapM readSpan

def chosen (spans : List Span) (complement : Bool) (position : Nat) : Bool :=
  spans.any (·.has position) != complement

/-- The chosen bytes of a line, with a text between those of ranges that do not touch. -/
def cutBytes (spans : List Span) (complement : Bool) (separator : List Char)
    (line : List Char) : List Char :=
  let positions := (line.zipIdx 1).filter fun entry => chosen spans complement entry.2
  let begins (position : Nat) : Bool :=
    !(chosen spans complement (position - 1)) || position = 1 ||
      (!complement && spans.any (·.first = position) &&
        !spans.any fun span => span.has position && span.has (position - 1))
  (positions.zipIdx).flatMap fun ((character, position), index) =>
    if index ≠ 0 && begins position then separator ++ [character] else [character]

/-- The chosen fields of a line; a line without a separator is kept or left out. -/
def cutFields (spans : List Span) (complement onlySeparated : Bool) (mark : Char)
    (separator : List Char) (line : List Char) : Option (List Char) :=
  if !line.contains mark then if onlySeparated then none else some line
  else
    let fields := ((line.splitOn mark).zipIdx 1).filter fun entry =>
      chosen spans complement entry.2
    some (separator.intercalate (fields.map (·.1)))

/-- Writes parts of each line. -/
def cut : Utility := fun arguments =>
  let form : OptionForm := .of "nszC" "bcdfO" [("zero-terminated", 'z'), ("bytes", 'b'), ("characters", 'c'),
    ("delimiter", 'd'), ("fields", 'f'), ("only-delimited", 's'), ("output-delimiter", 'O'),
    ("complement", 'C')]
  Work.withOptions form 1 arguments fun options => do
    let lists := options.given.filter fun entry => ['b', 'c', 'f'].contains entry.1
    let ofFields := options.has 'f'
    let delimiter := options.value? 'd'
    let ending := if options.has 'z' then '\x00' else '\n'
    match lists with
    | [] => Work.refuse 1 "you must specify a list of bytes, characters, or fields"
    | _ :: _ :: _ => Work.refuse 1 "only one list may be specified"
    | [(_, text)] =>
        match readSpans text with
        | .error fault => Work.refuse 1 (fault.message ofFields)
        | .ok spans =>
            if (delimiter.map String.length).any (1 < ·) then
              Work.refuse 1 "the delimiter must be a single character"
            else if delimiter.isSome && !ofFields then
              Work.refuse 1 "an input delimiter may be specified only when operating on fields"
            else if options.has 's' && !ofFields then
              Work.refuse 1
                "suppressing non-delimited lines makes sense\n\tonly when operating on fields"
            else
              let mark := (delimiter.getD "\t").toList.headD '\x00'
              let complement := options.has 'C'
              let standard := if ofFields then [mark] else []
              let separator := ((options.value? 'O').map String.toList).getD standard
              Work.overContents options.operands Quoting.ifNeeded fun _ text =>
                Work.say (Lines.join ending ((Lines.upTo ending text).filterMap fun line =>
                  if ofFields then
                    cutFields spans complement (options.has 's') mark separator line
                  else some (cutBytes spans complement separator line)))

end ToolParams.Columns
