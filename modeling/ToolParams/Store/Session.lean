import ToolParams.Store.Assign
import ToolParams.World

/-!
# Working on a store

Assignments to a store as actions: what is done to the store is what the pure
operations say, and every check and every assignment is recorded.
-/

namespace ToolParams.Store

/-- Records that an input is going to be checked, if the name stands for a parameter. -/
def noteCheck {σ : Type} (store : Store) (requested : String) (input : Input) : Action σ Unit :=
  match store.declaration requested with
  | .error _ => pure ()
  | .ok declaration => do
      let kind := match declaration.type.inWords? with
        | some words => [("as", Json.text words)]
        | none => []
      Action.note .debug "store.validate"
        ([("tool", .text store.tool), ("name", .text declaration.name)] ++
          input.toScalar.member "value" ++ kind)

def examine (requested : String) (input : Input) : Action Store Stored := do
  let store ← Action.state
  store.noteCheck requested input
  Action.lift .store (store.validate requested input)

/-- Stores a checked input; gives the raw form of what the store then holds. -/
def assign (requested : String) (input : Input) : Action Store Scalar := do
  let store ← Action.state
  store.noteCheck requested input
  let (next, raw) ← Action.lift .store (store.set requested input)
  let name ← Action.lift .store (store.resolveName requested)
  Action.putState next
  Action.note .debug "store.set"
    ([("tool", .text store.tool), ("name", .text name)] ++ raw.member "value")
  return raw

/-- Puts every parameter back to its default. -/
def clear : Action Store Unit := do
  let store ← Action.state
  Action.putState store.reset
  Action.note .debug "store.reset" [("tool", .text store.tool)]

/-- Performs an action; if it fails, the store holds the values that it held before. -/
def orRestore {α : Type} (action : Action Store α) : Action Store α := do
  let before := (← Action.state).snapshot
  match ← Action.outcome action with
  | .ok value => return value
  | .error failure =>
      Action.putState ((← Action.state).restore before)
      throw failure

end ToolParams.Store
