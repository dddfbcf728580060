import ToolParams.Number.Numeral
import ToolParams.Programs.Utility.Keeping

/-!
# Utilities that tell something small

Names out of paths, the environment, and a utility that only lets time pass.
-/

namespace ToolParams.Telling

open Quoting (always)

/-- Writes the working directory. -/
def pwd : Utility := fun arguments =>
  Work.withOptions (.of "LP" "" [("logical", 'L'), ("physical", 'P')]) 1 arguments fun options => do
    if !options.operands.isEmpty then
      Work.remark s!"{(← get).name}: ignoring non-option arguments\n"
    Work.say ("/" ++ "/".intercalate (← Work.files).here ++ "\n")

def nameWithout (ending path : String) : String :=
  let name := Path.baseName path
  if name = "" then (if path = "" then "" else "/")
  else if ending ≠ "" && name ≠ ending && Text.endsWith name ending then
    Text.dropEnd ending.length name
  else name

/-- Writes the last names of paths, without an ending. -/
def basename : Utility := fun arguments =>
  match Options.readLeading (.of "az" "s" [("multiple", 'a'), ("suffix", 's'), ("zero", 'z')])
    arguments with
  | .error fault => Work.refuse 1 fault.message
  | .ok options => do
      let ending := if options.has 'z' then "\x00" else "\n"
      match options.operands, options.has 'a' || options.has 's' with
      | [], _ => Keeping.lacking "operand"
      | paths, true =>
          for path in paths do
            Work.say (nameWithout ((options.value? 's').getD "") path ++ ending)
      | [path], false => Work.say (nameWithout "" path ++ ending)
      | [path, suffix], false => Work.say (nameWithout suffix path ++ ending)
      | _ :: _ :: extra :: _, false => Work.refuse 1 s!"extra operand {always extra}"

def directoryOf (path : String) : String :=
  let trimmed := path.toList.reverse.dropWhile (· = '/')
  let above := (trimmed.dropWhile (· ≠ '/')).dropWhile (· = '/')
  if above.isEmpty then (if Path.isAbsolute path then "/" else ".")
  else String.ofList above.reverse

/-- Writes the paths of the directories that paths are in. -/
def dirname : Utility := fun arguments =>
  Work.withOptions (.of "z" "" [("zero", 'z')]) 1 arguments fun options => do
    if options.operands.isEmpty then Keeping.lacking "operand"
    for path in options.operands do
      Work.say (directoryOf path ++ if options.has 'z' then "\x00" else "\n")

/-- The microseconds of a unit of time. -/
def unitTime : Char → Option Nat
  | 's' => some 1000000
  | 'm' => some 60000000
  | 'h' => some 3600000000
  | 'd' => some 86400000000
  | _ => none

/-- The microseconds of a duration in seconds, or in the unit behind it. -/
def readDuration (text : String) : Option Nat :=
  let (whole, rest) := Number.spanDigits text.toList
  let (places, rest) := Number.spanFraction rest
  let value (unit : Nat) : Nat :=
    Number.digitsValue (whole ++ places) * unit / Nat.pow 10 places.length
  if whole.isEmpty && places.isEmpty then none
  else match rest with
    | [] => some (value 1000000)
    | [unit] => (unitTime unit).map value
    | _ => none

/-- Lets time pass. -/
def sleep : Utility := fun arguments =>
  Work.withOptions (.of "" "" []) 1 arguments fun options => do
    let wrong := options.operands.filter fun operand => (readDuration operand).isNone
    if options.operands.isEmpty then Keeping.lacking "operand"
    else if wrong.isEmpty then
      Work.pass ((options.operands.filterMap readDuration).foldl (· + ·) 0)
    else
      for operand in wrong do
        Work.complain 1 s!"invalid time interval {always operand}"
      Work.remark s!"Try '{(← get).name} --help' for more information.\n"

/-- Writes the environment, or the values of some variables. -/
def printenv : Utility := fun arguments =>
  Work.withOptions (.of "0" "" [("null", '0')]) 2 arguments fun options => do
    let environment := (← get).environment
    let ending := if options.has '0' then "\x00" else "\n"
    if options.operands.isEmpty then
      Work.say (String.join (environment.toList.map fun (name, value) => s!"{name}={value}{ending}"))
    for name in options.operands do
      match environment.get? name with
      | some value => Work.say (value ++ ending)
      | none => Work.worsen 1

end ToolParams.Telling
