import ToolParams.ParameterFile.Contents
import ToolParams.ParameterFile.Line
import ToolParams.Store.Session

/-!
# Exchanging a store with a parameter file

A store is written to a file, held against it, and read from it.  A value whose
text is longer than the field limit goes to a stack file of its own, one element
a line, and its line names that file.  The stack files of a store are kept by
parameter, so that a value is recognised when the file is read back.
-/

namespace ToolParams.ParameterFile

/-- Stack files by parameter. -/
abbrev Overflow := OrderedMap String String

/-- The longest text, in bytes, that stands in a line unless another limit is set. -/
def defaultLimit : Number := .ofNat 1023

def stackPath (path name : String) : String := s!"{path}.{name}.stk"

/-- The content of a stack file: the elements of a text, one a line. -/
def stackContent (text : String) : String :=
  "\n".intercalate (Text.split ',' text) ++ "\n"

/-- The text that a stack file stands for: its lines that are not blank, with commas
between them. -/
def stackText (content : String) : String :=
  ",".intercalate (((Text.split '\n' content).map Text.trim).filter (· ≠ ""))

/-- The text that refers to a stack file. -/
def stackReference (stack : String) : String := stackMark ++ stack

/-- Writes a file that a store goes to. -/
def writeFile {σ : Type} (path content : String) : Action σ Unit :=
  Action.alter (.unwritable path) (·.write path content)

/-- Whether a text is too long for its line. -/
def exceeds (limit : Number) (text : String) : Bool :=
  limit.lt (.ofNat text.utf8ByteSize)

/-- The text of a value for its line; a text over the limit is written to a stack file. -/
def placeValue (limit : Number) (store : Store) (path : String) (declaration : Declaration) :
    Action Overflow String := do
  let some text := valueText? declaration (store.entry declaration.name)
    | throw (.textless .writing)
  if exceeds limit text then
    let stack := stackPath path declaration.name
    writeFile stack (stackContent text)
    Action.putState ((← Action.state).insert declaration.name stack)
    Action.note .debug "parfile.overflow"
      [("tool", .text store.tool), ("name", .text declaration.name), ("stack", .text stack),
        ("length", .ofNat (Text.width text))]
    return stackReference stack
  else return text

/-- The lines of parameters, their stack files written. -/
def placeLines (limit : Number) (store : Store) (path : String) :
    List Declaration → Action Overflow (List String)
  | [] => return []
  | declaration :: rest => do
      let text ← placeValue limit store path declaration
      let others ← placeLines limit store path rest
      return line declaration text :: others

/-- Writes a store to a file.  A stack file counts as soon as it exists, even when
the file itself cannot be written. -/
def write (limit : Number) (store : Store) (path : String) : Action Overflow Unit := do
  let lines ← placeLines limit store path store.declarations
  writeFile path ("\n".intercalate (lines ++ [modeLine, ""]))
  Action.note .debug "parfile.write"
    [("tool", .text store.tool), ("path", .text path),
      ("overflow", .ofNat (← Action.state).size)]

def load {σ : Type} (path : String) : Action σ Contents := do
  let text ← Action.look (.unreadable path) (·.read path)
  Action.lift (.malformed path) (contents text)

/-- A parameter whose text in a file is not that of the store. -/
structure Mismatch where
  name : String
  expected : String
  actual : Option String
deriving DecidableEq, Repr

/-- The text of a value that a reader of the file would arrive at, redirects followed
and variables replaced. -/
def concreteText (contents : Contents) (environment : Environment) (text : String) : String :=
  environment.expand (follow contents text)

/-- The text of a parameter's concrete value; a redirect that leads nowhere counts by
the text it has in the file. -/
def resolvedText? {σ : Type} (store : Store) (declaration : Declaration) (fallback : String) :
    Action σ (Option String) := do
  match store.resolve declaration.name with
  | .ok value => return valueText? declaration (.literal value)
  | .error fault =>
      Action.note .debug "parfile.verify_unresolved"
        [("tool", .text store.tool), ("name", .text declaration.name),
          ("error", .text fault.message)]
      return some fallback

def sameValue (type : ParameterType) (actual expected : String) : Bool :=
  type.isNumeric && Text.trim actual ≠ "" && (Number.read actual).eqv (Number.read expected)

/-- Whether a text in a file means the value that the store holds, the text of which
is given. -/
def agrees {σ : Type} (store : Store) (declaration : Declaration) (contents : Contents)
    (held actual : String) : Action σ Bool := do
  let environment := (← Action.world).environment
  let expected := concreteText contents environment held
  let resolved ← resolvedText? store declaration expected
  let got := concreteText contents environment actual
  return got = expected || match resolved with
    | some text => got = text || sameValue declaration.type got text
    | none => false

/-- How a text that a file may hold for a parameter departs from the store, if it
does.  A parameter without a text agrees with a file that does not name it, and
cannot be held against any other.  A stack file without a path counts as none. -/
def departure? {σ : Type} (store : Store) (overflow : Overflow) (contents : Contents)
    (declaration : Declaration) : Action σ (Option Mismatch) := do
  let name := declaration.name
  let held := valueText? declaration (store.entry name)
  let stack := (overflow.get? name).filter (· ≠ "")
  match stack.map stackReference <|> held, contents.get? name with
  | none, none => return none
  | some expected, none => return some { name, expected, actual := none }
  | expected, some text =>
      if some text = expected then return none
      let some held := held | throw (.textless .comparing)
      if ← agrees store declaration contents held text then return none
      return some { name, expected := expected.getD held, actual := some text }

/-- The parameters among some whose text in a file does not mean the value that the
store holds. -/
def compare {σ : Type} (store : Store) (path : String) (overflow : Overflow)
    (contents : Contents) : List Declaration → Action σ (List Mismatch)
  | [] => return []
  | declaration :: rest => do
      match ← departure? store overflow contents declaration with
      | none => compare store path overflow contents rest
      | some mismatch => do
          Action.note .warn "parfile.verify_mismatch"
            [("tool", .text store.tool), ("path", .text path), ("name", .text mismatch.name),
              ("expected", .text mismatch.expected),
              ("actual", match mismatch.actual with | some text => .text text | none => .null)]
          let others ← compare store path overflow contents rest
          return mismatch :: others

/-- Holds a file against a store.  Departures are recorded and given; a file that
cannot be read is recorded and shows none. -/
def verify {σ : Type} (store : Store) (path : String) (overflow : Overflow) :
    Action σ (List Mismatch) := do
  match ← Action.outcome (load path) with
  | .ok contents => compare store path overflow contents store.declarations
  | .error failure =>
      let cause := match failure with
        | .unreadable _ cause => cause.message
        | .malformed _ cause => cause.message
        | other => other.message
      Action.note .warn "parfile.verify_unreadable"
        [("tool", .text store.tool), ("path", .text path), ("error", .text cause)]
      return []

/-- The input that a text in a file stands for. -/
def inputOf {σ : Type} (declaration : Declaration) (text : String) (overflow : Overflow) :
    Action σ Input := do
  let plain := if declaration.type.isText && text = "" then Input.scalar .null else .ofText text
  match overflow.get? declaration.name with
  | none => return plain
  | some stack =>
      if text = stackReference stack then
        return .ofText (stackText (← Action.look (.unreadable stack) (·.read stack)))
      else return plain

/-- Assigns the values of a file to some parameters, in order.  A parameter that the
file does not name keeps its value. -/
def assignAll (path : String) (overflow : Overflow) (contents : Contents) :
    List Declaration → Action Store Unit
  | [] => return ()
  | declaration :: rest => do
      match contents.get? declaration.name with
      | none =>
          Action.note .warn "parfile.read_missing"
            [("tool", .text (← Action.state).tool), ("path", .text path),
              ("name", .text declaration.name)]
      | some text =>
          let input ← inputOf declaration text overflow
          let _ ← Store.assign declaration.name input
      assignAll path overflow contents rest

/-- Reads a file into the store.  If anything in it is refused the store stays as
it was. -/
def read (path : String) (overflow : Overflow) : Action Store Unit := do
  let contents ← load path
  let store ← Action.state
  Store.orRestore (assignAll path overflow contents store.declarations)
  Action.note .debug "parfile.read" [("tool", .text store.tool), ("path", .text path)]

/-- Writes a store to a file of the caller's choice, every value in its line. -/
def save (store : Store) (path : String) : Action Overflow Unit :=
  write (.infinity false) store path

/-- Reads a file of the caller's choice into the store. -/
def restore (path : String) : Action Store Unit :=
  read path .empty

end ToolParams.ParameterFile
