import ToolParams.Registry
import ToolParams.Run
import ToolParams.Scope
import ToolParams.Settings

/-!
# The application

The registry, the runner and the scopes that settings describe.
-/

namespace ToolParams

/-- What works together to run tools. -/
structure Application where
  settings : Settings
  registry : Registry
  runner : Runner
  scopes : ScopeManager
deriving DecidableEq, Repr

namespace Application

/-- Fills the registry as settings say. -/
def fill (settings : Settings) : Action Registry Unit := do
  Registry.loadDocument settings.registry
  if let some directory := settings.parameterFiles then
    let loaded ← Registry.loadDirectory directory .parameterFile
    Action.note .debug "registry.par_dir"
      [("dir", .text directory), ("tools", .ofNat loaded.length)]
  Action.note .debug "startup.config"
    [("tools", .ofNat (← Action.state).list.length), ("schemaPath", .text settings.registry)]

/-- The application of some settings. -/
def start {σ : Type} (settings : Settings) : Action σ Application := do
  let (outcome, registry) ← Action.outcomeOn Registry.empty (fill settings)
  Action.yield outcome
  return {
    settings, registry
    runner :=
      { programs := settings.programs, scratch := settings.scratch, limit := settings.limit,
        verify := settings.verify }
    scopes := .idle settings.pathVariable settings.scratch }

/-- A store for a tool, with every parameter at its default. -/
def store (application : Application) (tool : String) : Except SchemaFault Store :=
  (application.registry.get tool).map Store.fresh

end Application

end ToolParams
