import ToolParams.Number.Numeral
import ToolParams.Parameter.Declaration
import ToolParams.Store.Fault

/-!
# Values of a type

An input is brought to the type of its parameter: words to booleans, numerals to
numbers, and everything to text.  Redirects are resolved before this.
-/

namespace ToolParams

namespace Coerce

def notOfType (tool : String) (declaration : Declaration) (wanted : String) (input : Input) :
    ValueFault :=
  .notOfType tool declaration.name wanted input.shown

def trueWords : List String := ["yes", "true", "on", "1"]

def falseWords : List String := ["no", "false", "off", "0"]

/-- The truth value of an input. -/
def toBoolean? : Input → Option Bool
  | .scalar (.bool value) => some value
  | .scalar (.number value) =>
      if value.eqv (.ofNat 1) then some true
      else if value.eqv (.ofNat 0) then some false
      else none
  | .scalar (.text text) =>
      let word := Text.toLower (Text.trim text)
      if word ∈ trueWords then some true else if word ∈ falseWords then some false else none
  | _ => none

/-- The number of a text, or its being unset, as a parameter of the type takes it. -/
def textToNumber? (integer : Bool) (text : String) : Option Scalar :=
  let content := Text.trimChars text.toList
  if content = "INDEF".toList then some .null
  else if content = [] then some (.number (.ofNat 0))
  else if integer then (Number.integer? content).map .number
  else
    let value := Number.read text
    if value.isFinite then some (.number value) else none

/-- The number of an input, or its being unset. -/
def toNumber? (integer : Bool) : Input → Option Scalar
  | .scalar .null => some .null
  | .scalar (.number value) =>
      if (if integer then value.isInteger else value.isFinite) then some (.number value) else none
  | .scalar (.text text) => textToNumber? integer text
  | _ => none

/-- The text of an input; no text is unset. -/
def toText : Input → Scalar
  | .scalar .null => .null
  | input => if input.shown = "" then .null else .text input.shown

end Coerce

/-- An input as a value of the type of its parameter. -/
def coerce (tool : String) (declaration : Declaration) (input : Input) :
    Except ValueFault Scalar :=
  match declaration.type with
  | .boolean =>
      match Coerce.toBoolean? input with
      | some value => .ok (.bool value)
      | none => .error (Coerce.notOfType tool declaration "a boolean" input)
  | .integer =>
      match Coerce.toNumber? true input with
      | some value => .ok value
      | none => .error (Coerce.notOfType tool declaration "an integer" input)
  | .real =>
      match Coerce.toNumber? false input with
      | some value => .ok value
      | none => .error (Coerce.notOfType tool declaration "a number" input)
  | .string | .filename => .ok (Coerce.toText input)
  | .untyped _ => .ok .absent

end ToolParams
