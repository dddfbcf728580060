import ToolParams.Number.Shortest
import ToolParams.Text.Blank
import ToolParams.Text.Pieces

/-!
# Values of parameters

A scalar is a concrete value.  What a store holds is a scalar or a redirect: the
name of another parameter whose value is meant.  A redirect is written as a
closing parenthesis with the name behind it.
-/

namespace ToolParams

/-- A concrete value of a parameter. -/
inductive Scalar where
  /-- no value at all, which is all that an untyped parameter can hold -/
  | absent
  /-- the value of a parameter that is not set -/
  | null
  | bool (value : Bool)
  | number (value : Number)
  | text (value : String)
deriving DecidableEq, Repr

instance : Inhabited Scalar := ⟨.null⟩

namespace Scalar

/-- The text of a scalar in messages. -/
def shown : Scalar → String
  | .absent => "undefined"
  | .null => "null"
  | .bool value => if value then "true" else "false"
  | .number value => value.text
  | .text value => value

end Scalar

/-- An item of a list that is assigned to a parameter. -/
inductive Item where
  | number (value : Number)
  | text (value : String)
deriving DecidableEq, Repr

def Item.shown : Item → String
  | .number value => value.text
  | .text value => value

/-- What a caller may assign to a parameter: a scalar, or a list of items. -/
inductive Input where
  | scalar (value : Scalar)
  | list (items : List Item)
deriving DecidableEq, Repr

namespace Input

def ofText (text : String) : Input := .scalar (.text text)

/-- The items of a list with commas between them. -/
def joined (items : List Item) : String :=
  ",".intercalate (items.map Item.shown)

/-- The text of an input in messages. -/
def shown : Input → String
  | .scalar value => value.shown
  | .list items => joined items

/-- An input as one scalar, a list by its joined text. -/
def toScalar : Input → Scalar
  | .scalar value => value
  | .list items => .text (joined items)

end Input

/-- What a store holds for a parameter. -/
inductive Stored where
  | literal (value : Scalar)
  | redirect (target : String)
deriving DecidableEq, Repr

instance : Inhabited Stored := ⟨.literal .null⟩

namespace Redirect

def isWritten (text : String) : Bool :=
  Text.startsWith text ")"

/-- The name behind the parenthesis of a redirect. -/
def target (text : String) : String :=
  Text.trim (Text.drop 1 text)

/-- The written form of a redirect. -/
def write (name : String) : String :=
  ")" ++ name

def ofInput? : Input → Option String
  | .scalar (.text text) => if isWritten text then some (target text) else none
  | _ => none

end Redirect

namespace Stored

/-- A raw value, with redirects recognised. -/
def ofRaw : Scalar → Stored
  | .text text =>
      if Redirect.isWritten text then .redirect (Redirect.target text) else .literal (.text text)
  | value => .literal value

/-- The raw form: a literal as it is, a redirect as it is written. -/
def raw : Stored → Scalar
  | .literal value => value
  | .redirect target => .text (Redirect.write target)

end Stored

end ToolParams
