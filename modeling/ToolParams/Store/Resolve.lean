import ToolParams.Store.Basic

/-!
# Following redirects

A redirect is followed to the value of its target, which may be a redirect
itself.  The names passed on the way are kept, so a walk that comes back to one
of them is found out; as every name of the walk is declared, it ends.
-/

namespace ToolParams.Store

/-- The declared names that a walk has not passed. -/
def unvisited (store : Store) (chain : List String) : List String :=
  store.schema.names.filter fun name => decide (name ∉ chain)

theorem unvisited_append_lt (store : Store) {chain : List String} {target : String}
    (fresh : target ∉ chain) (declared : target ∈ store.schema.names) :
    (store.unvisited (chain ++ [target])).length < (store.unvisited chain).length := by
  have isFilter : store.unvisited (chain ++ [target]) =
      (store.unvisited chain).filter fun name => decide (name ≠ target) := by
    rw [unvisited, unvisited, List.filter_filter]
    refine List.filter_congr fun name _ => ?_
    simp [not_or, and_comm]
  rw [isFilter, List.length_filter_lt_length_iff_exists]
  exact ⟨target, List.mem_filter.mpr ⟨declared, by simp [fresh]⟩, by simp⟩

/-- The value of a redirect's target.  `holder` is the parameter that holds the
redirect, and `chain` the names passed so far. -/
def followTarget (store : Store) (holder target : String) (chain : List String) :
    Except ValueFault Scalar :=
  if _ : target ∈ chain then
    .error (.cycle store.tool (chain.headD holder) (chain ++ [target]))
  else if _ : target ∈ store.schema.names then
    match store.entry target with
    | .literal value => .ok value
    | .redirect next => followTarget store target next (chain ++ [target])
  else .error (.dangling store.tool holder target)
termination_by (store.unvisited chain).length
decreasing_by exact store.unvisited_append_lt (by assumption) (by assumption)

/-- The concrete value of a declared parameter. -/
def follow (store : Store) (name : String) : Except ValueFault Scalar :=
  match store.entry name with
  | .literal value => .ok value
  | .redirect target => store.followTarget name target [name]

def resolve (store : Store) (requested : String) : Except StoreFault Scalar := do
  let name ← store.resolveName requested
  (store.follow name).mapError .value

end ToolParams.Store
