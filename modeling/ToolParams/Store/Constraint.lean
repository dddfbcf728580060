import ToolParams.Number.Numeral
import ToolParams.Parameter.Declaration
import ToolParams.Store.Fault

/-!
# Ranges and options

A value of the right type is held against the constraint of its parameter.
Limits may be redirects, so the check is given a way to find the value of a
parameter; options of text parameters may be shortened to a unique beginning.
-/

namespace ToolParams

/-- Finds the concrete value of a parameter by its name. -/
abbrev Resolver := String → Except ValueFault Scalar

namespace Constraint

/-- The number that a limit stands for, if it limits at all. -/
def limit (tool : String) (declaration : Declaration) (resolver : Resolver) :
    Bound → Except ValueFault (Option Number)
  | .unbounded => .ok none
  | .number value => .ok (some value)
  | .text written =>
      if Redirect.isWritten written then do
        match ← resolver (Redirect.target written) with
        | .null => return none
        | .number value => return some value
        | .text text =>
            if Text.trim text ≠ "" ∧ (Number.read text).isFinite then
              return some (Number.read text)
            else throw (.limitNotNumeric tool declaration.name written)
        | .absent | .bool _ => throw (.limitNotNumeric tool declaration.name written)
      else
        let value := Number.read written
        if Text.trim written = "INDEF" ∨ value.isNaN then .ok none else .ok (some value)

/-- Holds a number against the two limits of a range, the lower one first. -/
def checkRange (tool : String) (declaration : Declaration) (resolver : Resolver)
    (low high : Bound) (value : Number) : Except ValueFault Unit := do
  if let some least ← limit tool declaration resolver low then
    if value.lt least then throw (.below tool declaration.name least value)
  if let some most ← limit tool declaration resolver high then
    if most.lt value then throw (.above tool declaration.name most value)

def spells (value : Scalar) (option : String) : Bool :=
  option = value.shown || match value with
    | .number number => (Number.read option).eqv number
    | _ => false

/-- The option that a value stands for. -/
def matchOption (declaration : Declaration) (options : List String) (value : Scalar) :
    Except ValueFault Scalar :=
  match value with
  | .null =>
      if "" ∈ options then .ok .null
      else .error (.notAnOption declaration.name "''" options)
  | value =>
      let text := value.shown
      if declaration.type.isText then
        if text ∈ options then .ok (.text text)
        else match options.filter (Text.startsWith · text) with
          | [] => .error (.notAnOption declaration.name text options)
          | [only] => .ok (.text only)
          | candidates => .error (.severalOptions declaration.name text candidates)
      else if options.any (spells value) then .ok value
      else .error (.notAnOption declaration.name text options)

/-- Holds a value against the constraint of its parameter, and completes a
shortened option. -/
def check (tool : String) (declaration : Declaration) (resolver : Resolver) (value : Scalar) :
    Except ValueFault Scalar :=
  match declaration.constraint, value with
  | none, value => .ok value
  | some (.options choices), value => matchOption declaration choices value
  | some (.range low high), .number number => do
      checkRange tool declaration resolver low high number
      return .number number
  | some (.range _ _), value => .ok value

end Constraint

end ToolParams
