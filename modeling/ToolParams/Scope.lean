import ToolParams.FreshName
import ToolParams.ParameterFile.Naming
import ToolParams.SearchPath

/-!
# Private parameter directories

Entering a scope makes a directory, copies parameter files into it and puts it in
front of the system directories in the search path variable.  Leaving it gives the
variable its former value and removes the directory.  Scopes nest: the innermost
is left first.
-/

namespace ToolParams

/-- A scope that was entered. -/
structure Scope where
  /-- the number that tells scopes apart -/
  id : Nat
  directory : String
  /-- the variables with the search path of the scope -/
  environment : Environment
  /-- the search path variable before -/
  previous : Option String
  /-- the tools whose files were copied -/
  copied : List String
  /-- whether the directory was made for the scope, and goes with it -/
  owned : Bool
deriving DecidableEq, Repr

/-- What a scope is to hold. -/
structure ScopeOptions where
  /-- tools whose files are needed -/
  seeds : List String
  /-- whether private files without a counterpart in the system are wanted too -/
  copyUser : Bool
  /-- a directory to use instead of a fresh one -/
  directory : Option String
deriving DecidableEq, Repr

def ScopeOptions.none : ScopeOptions := { seeds := [], copyUser := false, directory := .none }

/-- A variable and the scopes entered on it, the innermost first. -/
structure ScopeManager where
  pathVariable : String
  scratch : String
  active : List Scope
deriving DecidableEq, Repr

namespace ScopeManager

def idle (pathVariable scratch : String) : ScopeManager :=
  { pathVariable, scratch, active := [] }

/-- The number of scopes that are entered. -/
def depth (manager : ScopeManager) : Nat := manager.active.length

/-- The first file of a tool in some directories. -/
def find? (files : FileTree) (tool : String) : List String → Except FileFault (Option String)
  | [] => .ok none
  | directory :: rest => do
      let candidate := Path.join directory (ParameterFile.fileName tool)
      if ← files.exists? candidate then return some candidate
      find? files tool rest

/-- The mode of a copy: that of its source, and its owner may read and write it. -/
def copyMode (mode : Nat) : Nat := (mode &&& 0o777) ||| 0o600

def copyInto {σ : Type} (source directory : String) : Action σ Unit := do
  let target := Path.join directory (Path.baseName source)
  Action.advance .file (·.copy source target)
  let mode ← Action.look .file (·.mode target)
  Action.alter .file (·.setMode target (copyMode mode))

/-- Copies the files of the seeds; each must be found along the search path. -/
def copySeeds {σ : Type} (manager : ScopeManager) (searched : Option String) (path : SearchPath)
    (directory : String) : List String → Action σ Unit
  | [] => return ()
  | seed :: rest => do
      match ← Action.look .file (find? · seed (path.user ++ path.system)) with
      | none =>
          throw (.scope (.missingSeed seed manager.pathVariable (searched.getD "")))
      | some source =>
          copyInto source directory
          copySeeds manager searched path directory rest

/-- Copies the files of one private directory that have no counterpart in the system
and were not copied before.  A file that vanishes meanwhile is recorded. -/
def copyUserFiles {σ : Type} (system : List String) (userDirectory directory : String) :
    List String → List String → Action σ (List String)
  | copied, [] => return copied
  | copied, fileName :: rest => do
      let tool := ParameterFile.toolOf fileName
      if tool ∈ copied then copyUserFiles system userDirectory directory copied rest
      else match ← Action.look .file (find? · tool system) with
        | some _ => copyUserFiles system userDirectory directory copied rest
        | none =>
            let source := Path.join userDirectory fileName
            match ← Action.outcome (copyInto source directory) with
            | .ok _ => copyUserFiles system userDirectory directory (copied ++ [tool]) rest
            | .error (.file fault) =>
                if fault.code = FileCause.notFound.code then
                  Action.note .debug "scope.copy_vanished" [("file", .text source)]
                  copyUserFiles system userDirectory directory copied rest
                else throw (.file fault)
            | .error failure => throw failure

/-- Copies the files of private directories; gives the tools copied so far. -/
def copyUserDirectories {σ : Type} (system : List String) (directory : String) :
    List String → List String → Action σ (List String)
  | copied, [] => return copied
  | copied, userDirectory :: rest => do
      match (← Action.world).files.names userDirectory with
      | .ok names =>
          let copied ← copyUserFiles system userDirectory directory copied (ParameterFile.select names)
          copyUserDirectories system directory copied rest
      | .error fault =>
          if fault.code = FileCause.notFound.code then
            Action.note .debug "scope.user_dir_missing" [("dir", .text userDirectory)]
            copyUserDirectories system directory copied rest
          else throw (.file fault)

/-- Fills the directory of a scope; gives the tools whose files were copied. -/
def populate {σ : Type} (manager : ScopeManager) (options : ScopeOptions)
    (searched : Option String) (directory : String) : Action σ (List String) := do
  let path := SearchPath.ofVariable searched
  copySeeds manager searched path directory options.seeds
  if options.copyUser then
    copyUserDirectories path.system directory options.seeds path.user
  else return options.seeds

/-- Makes the directory of a scope; gives its path and whether it is new. -/
def makeDirectory {σ : Type} (manager : ScopeManager) (options : ScopeOptions) :
    Action σ (String × Bool) := do
  let wrap (fault : FileFault) : Failure :=
    .scope (.cannotCreate (options.directory.getD manager.scratch) fault)
  match options.directory.filter (· ≠ "") with
  | some directory => do
      let existed ← Action.look wrap (·.exists? directory)
      Action.advance wrap (·.makeDirectories directory)
      return (directory, !existed)
  | none => do
      let beginning := Path.join manager.scratch "pfiles-"
      let ending := FreshName.short (← Action.freshNumber)
      Action.alter wrap (·.makeFresh beginning ending)
      return (beginning ++ ending, true)

/-- Removes a directory with all it holds; a failure is recorded. -/
def removeDirectory {σ : Type} (directory : String) : Action σ Unit := do
  match ← Action.outcome (Action.advance .file (·.remove directory true)) with
  | .ok _ => pure ()
  | .error failure =>
      Action.note .warn "scope.cleanup_failed"
        [("dir", .text directory), ("error", .text failure.message)]

def populationFailure (directory : String) : Failure → Failure
  | .file fault => .scope (.cannotPopulate directory fault)
  | failure => failure

def setVariable (environment : Environment) (name : String) : Option String → Environment
  | some value => environment.insert name value
  | none => environment.erase name

/-- Enters a scope. -/
def enter (options : ScopeOptions) : Action ScopeManager Scope := do
  let manager ← Action.state
  let searched := (← Action.world).environment.get? manager.pathVariable
  let (directory, owned) ← makeDirectory manager options
  match ← Action.outcome (populate manager options searched directory) with
  | .error failure =>
      if owned then removeDirectory directory
      throw (populationFailure directory failure)
  | .ok copied =>
      let outer := (← Action.world).environment
      let previous := outer.get? manager.pathVariable
      let value := SearchPath.write
        { user := [directory], system := (SearchPath.ofVariable previous).system }
      let environment := outer.insert manager.pathVariable value
      let scope : Scope :=
        { id := ← Action.freshNumber, directory, environment, previous, copied, owned }
      Action.change fun world => { world with environment }
      Action.putState { manager with active := scope :: manager.active }
      Action.note .info "scope.enter"
        [("dir", .text directory), ("variable", .text manager.pathVariable),
          ("copied", .ofTexts copied), ("depth", .ofNat (manager.depth + 1))]
      return scope

/-- Leaves a scope, which must be the innermost. -/
def leave (scope : Scope) : Action ScopeManager Unit := do
  let manager ← Action.state
  match manager.active with
  | [] => throw (.scope (.notInnermost scope.directory))
  | innermost :: outer =>
      if innermost.id ≠ scope.id then throw (.scope (.notInnermost scope.directory))
      Action.putState { manager with active := outer }
      Action.change fun world =>
        { world with
          environment := setVariable world.environment manager.pathVariable scope.previous }
      if scope.owned then removeDirectory scope.directory
      Action.note .info "scope.exit"
        [("dir", .text scope.directory), ("depth", .ofNat outer.length)]

/-- Performs a body inside a scope, which is left however the body ends.  A failure
to leave it hides the outcome of the body.  The body may also work on a state of
its own. -/
def within {τ α : Type} (options : ScopeOptions)
    (body : Scope → Action (ScopeManager × τ) α) : Action (ScopeManager × τ) α := do
  let scope ← Action.onFirst (enter options)
  let outcome ← Action.outcome (body scope)
  Action.onFirst (leave scope)
  Action.yield outcome

end ScopeManager

end ToolParams
