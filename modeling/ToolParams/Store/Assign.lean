import ToolParams.Store.Coerce
import ToolParams.Store.Constraint
import ToolParams.Store.Resolve

/-!
# Assigning values

Every assignment is checked against the type and the constraint of its
parameter.  A redirect is kept as a redirect, after its present value was checked
in the same way.
-/

namespace ToolParams.Store

/-- Checks an input for a declared parameter; the checked form is what a store holds. -/
def check (store : Store) (declaration : Declaration) (input : Input) :
    Except ValueFault Stored :=
  let resolver : Resolver := fun target =>
    store.followTarget declaration.name target [declaration.name]
  match Redirect.ofInput? input with
  | some target => do
      let value ← resolver target
      let concrete ← coerce store.tool declaration (.scalar value)
      let _ ← Constraint.check store.tool declaration resolver concrete
      return .redirect target
  | none => do
      let concrete ← coerce store.tool declaration input
      let value ← Constraint.check store.tool declaration resolver concrete
      return .literal value

/-- Checks an input for the parameter that a name stands for, without storing it. -/
def validate (store : Store) (requested : String) (input : Input) :
    Except StoreFault Stored := do
  let declaration ← store.declaration requested
  (store.check declaration input).mapError .value

/-- The store with another entry under an exact name. -/
def put (store : Store) (name : String) (stored : Stored) : Store :=
  { store with values := store.values.insert name stored }

/-- Stores a checked input; gives the new store and the raw form of what it holds. -/
def set (store : Store) (requested : String) (input : Input) :
    Except StoreFault (Store × Scalar) := do
  let name ← store.resolveName requested
  let stored ← store.validate name input
  return (store.put name stored, stored.raw)

end ToolParams.Store
