import ToolParams.Json.Printer
import ToolParams.Parameter.Value

/-!
# The journal

What the program does is recorded in entries with a level, the name of an event
and named data.  An entry is shown, as a line of JSON, if its level reaches a
threshold.
-/

namespace ToolParams

/-- The weight of an entry. -/
inductive Level where
  | debug
  | info
  | warn
  | error
deriving DecidableEq, Repr

namespace Level

/-- The place of a level in the order of levels. -/
def rank : Level → Nat
  | .debug => 10
  | .info => 20
  | .warn => 30
  | .error => 40

def name : Level → String
  | .debug => "debug"
  | .info => "info"
  | .warn => "warn"
  | .error => "error"

def ofName? (name : String) : Option Level :=
  [debug, info, warn, error].find? fun level => level.name = name

def capitals (level : Level) : String :=
  String.ofList (level.name.toList.map Char.toUpper)

end Level

/-- One entry of the journal. -/
structure Entry where
  level : Level
  event : String
  data : List (String × Json)
deriving Repr

namespace Entry

def reaches (entry : Entry) (threshold : Level) : Bool :=
  threshold.rank ≤ entry.level.rank

/-- The line of an entry made at a time.  Data under the name of one of the three
leading members takes its place. -/
def line (time : String) (entry : Entry) : String :=
  (Json.ofMembers (("ts", .text time) :: ("level", .text entry.level.capitals) ::
    ("event", .text entry.event) :: entry.data)).compact

end Entry

/-- A scalar as data of an entry under a name; an absent one leaves no data. -/
def Scalar.member (name : String) : Scalar → List (String × Json)
  | .absent => []
  | .null => [(name, .null)]
  | .bool value => [(name, .bool value)]
  | .number value => [(name, .number value)]
  | .text value => [(name, .text value)]

end ToolParams
