import Mathlib.Data.List.Nodup
import ToolParams.Proofs.Action
import ToolParams.Proofs.OrderedMap
import ToolParams.Proofs.Outcome
import ToolParams.Registry

/-!
# Loads of a registry

A load takes up its tools one after another.  A load that fails has taken up the tools in
front of the faulty one, and these stay: it changes nothing only if there are none.
-/

namespace ToolParams.Registry

/-- The ways to register several tools. -/
inductive Load where
  | tools (entries : List (String × ToolEntry))
  | document (path : String)
  | directory (path : String) (kind : ToolKind)

/-- The schema of each tool of a document, or what is wrong with it. -/
def readEntries (entries : List (String × ToolEntry)) : List (Except Failure Schema) :=
  entries.map fun (name, entry) => (schemaOf name entry).mapError .schema

/-- The schema of each parameter file, or what is wrong with it. -/
def readFiles (files : FileTree) (directory : String) (kind : ToolKind)
    (fileNames : List String) : List (Except Failure Schema) :=
  fileNames.map fun fileName => do
    let text ← (files.read (Path.join directory fileName)).mapError .file
    (Schema.read (ParameterFile.toolOf fileName) text kind).mapError .schema

namespace Load

/-- What is done to load. -/
def action : Load → Action Registry Unit
  | tools entries => addAll entries
  | document path => loadDocument path
  | directory path kind => do
      let _ ← loadDirectory path kind

/-- What a load takes up, in order: the schema of each, or what is wrong with it.  A document
that is refused as a whole, and a directory that cannot be listed, give none. -/
def readings (files : FileTree) : Load → Except Failure (List (Except Failure Schema))
  | tools entries => .ok (readEntries entries)
  | document path => do
      let text ← (files.read path).mapError
        fun fault => .schema (.unreadable path fault.message)
      match Json.read? text with
      | none => .error (.schema (.malformed path))
      | some json =>
          match Document.check json with
          | .error issues => .error (.schema (.invalid path issues))
          | .ok entries => .ok (readEntries entries)
  | directory path kind => do
      let names ← (files.names path).mapError .file
      .ok (readFiles files path kind (ParameterFile.select names))

end Load

/-- Registers tools one after another, up to the first faulty one. -/
def takeUp (registry : Registry) : List (Except Failure Schema) → Except Failure Unit × Registry
  | [] => (.ok (), registry)
  | .error failure :: _ => (.error failure, registry)
  | .ok schema :: rest => takeUp (registry.register schema) rest

/-- The registry after tools were registered one after another. -/
def registerAll (registry : Registry) (schemas : List Schema) : Registry :=
  schemas.foldl register registry

def latest? (name : String) : List Schema → Option Schema
  | [] => none
  | schema :: rest =>
      (latest? name rest).or (if schema.name = name then some schema else none)

variable {world after : World} {registry final : Registry} {failure : Failure}

theorem perform_addAll (entries : List (String × ToolEntry)) :
    (addAll entries).perform world registry =
      ((takeUp registry (readEntries entries)).1, world,
        (takeUp registry (readEntries entries)).2) := by
  induction entries generalizing registry with
  | nil => rfl
  | cons entry rest induction =>
      obtain ⟨name, entry⟩ := entry
      cases read : schemaOf name entry with
      | error fault => simp [addAll, readEntries, takeUp, read]
      | ok schema => simpa [addAll, add, readEntries, takeUp, read] using induction

theorem perform_loadFiles (directory : String) (kind : ToolKind) (fileNames : List String) :
    (loadFiles directory kind fileNames).perform world registry =
      ((takeUp registry (readFiles world.files directory kind fileNames)).1.map
          fun _ => fileNames.map ParameterFile.toolOf,
        world, (takeUp registry (readFiles world.files directory kind fileNames)).2) := by
  induction fileNames generalizing registry with
  | nil => rfl
  | cons fileName rest induction =>
      cases found : world.files.read (Path.join directory fileName) with
      | error fault => simp [loadFiles, readFiles, takeUp, found, Except.map]
      | ok text =>
          cases read : Schema.read (ParameterFile.toolOf fileName) text kind with
          | error fault => simp [loadFiles, readFiles, takeUp, found, read, Except.map]
          | ok schema =>
              have taken : readFiles world.files directory kind (fileName :: rest) =
                  .ok schema :: readFiles world.files directory kind rest := by
                simp [readFiles, found, read]
              rw [taken, takeUp]
              simp only [loadFiles, add, Action.perform_bind, Action.perform_look,
                Action.perform_lift, Action.perform_state, Action.perform_putState,
                Outcome.mapError_ok, found, read, induction]
              cases (takeUp (registry.register schema) _).1 <;> rfl

/-- A load registers its tools up to the first faulty one, and does nothing else. -/
theorem perform_load (load : Load) :
    load.action.perform world registry =
      match load.readings world.files with
      | .error failure => (.error failure, world, registry)
      | .ok tools => ((takeUp registry tools).1, world, (takeUp registry tools).2) := by
  cases load with
  | tools entries => exact perform_addAll entries
  | document path =>
      cases found : world.files.read path with
      | error fault => simp [Load.action, Load.readings, loadDocument, found]
      | ok text =>
          cases parsed : Json.read? text with
          | none => simp [Load.action, Load.readings, loadDocument, found, parsed]
          | some json =>
              cases checked : Document.check json with
              | error issues =>
                  simp [Load.action, Load.readings, loadDocument, found, parsed, checked]
              | ok entries =>
                  simp [Load.action, Load.readings, loadDocument, found, parsed, checked,
                    perform_addAll]
  | directory path kind =>
      cases listed : world.files.names path with
      | error fault => simp [Load.action, Load.readings, loadDirectory, listed]
      | ok names =>
          simp only [Load.action, Load.readings, loadDirectory, Action.perform_bind,
            Action.perform_look, listed, Outcome.mapError_ok, perform_loadFiles, Outcome.ok_bind]
          cases (takeUp registry _).1 <;> rfl

theorem takeUp_eq_error {tools : List (Except Failure Schema)}
    (stops : takeUp registry tools = (.error failure, final)) :
    ∃ front later, tools = front.map .ok ++ .error failure :: later ∧
      final = registry.registerAll front := by
  induction tools generalizing registry with
  | nil => cases stops
  | cons tool rest induction =>
      cases tool with
      | error fault =>
          cases stops
          exact ⟨[], rest, rfl, rfl⟩
      | ok schema =>
          obtain ⟨front, later, rfl, rfl⟩ := induction stops
          exact ⟨schema :: front, later, rfl, rfl⟩

theorem get?_registerAll (registry : Registry) (schemas : List Schema) (name : String) :
    (registry.registerAll schemas).tools.get? name =
      (latest? name schemas).or (registry.tools.get? name) := by
  induction schemas generalizing registry with
  | nil => rfl
  | cons schema rest induction =>
      refine (induction (registry.register schema)).trans ?_
      rw [register, OrderedMap.get?_insert, latest?, Option.or_assoc]
      split <;> rfl

/-- Only names that were not there before come new. -/
theorem keys_registerAll (registry : Registry) (schemas : List Schema) :
    ∃ arrivals : List String, arrivals.Nodup ∧
      (∀ name, name ∈ arrivals ↔
        name ∉ registry.tools.keys ∧ name ∈ schemas.map Schema.name) ∧
      (registry.registerAll schemas).tools.keys = registry.tools.keys ++ arrivals := by
  induction schemas generalizing registry with
  | nil => exact ⟨[], .nil, by simp, (List.append_nil _).symm⟩
  | cons schema rest induction =>
      obtain ⟨arrivals, distinct, exactly, keys⟩ := induction (registry.register schema)
      have inserted := OrderedMap.keys_insert registry.tools schema.name schema
      by_cases known : schema.name ∈ registry.tools.keys
      · rw [if_pos known] at inserted
        refine ⟨arrivals, distinct, ?_, ?_⟩
        · intro name
          rw [exactly, register, inserted, List.map_cons, List.mem_cons]
          grind
        · exact keys.trans (by rw [register, inserted])
      · rw [if_neg known] at inserted
        refine ⟨schema.name :: arrivals, ?_, ?_, ?_⟩
        · refine List.nodup_cons.mpr ⟨?_, distinct⟩
          rw [exactly, register, inserted]
          simp
        · intro name
          rw [List.mem_cons, exactly, register, inserted, List.map_cons, List.mem_cons]
          grind
        · exact keys.trans (by rw [register, inserted, List.append_assoc]; rfl)

/-- How a registry answers after tools were registered on top of another one. -/
structure Answers (before : Registry) (front : List Schema) (after : Registry) : Prop where
  /-- the last tool of a name counts, and other names are answered as before -/
  get : ∀ name, after.get name =
    match latest? name front with
    | some schema => .ok schema
    | none => before.get name
  has : ∀ name, after.has name = ((latest? name front).isSome || before.has name)
  /-- only names that are new are listed besides those before -/
  list : ∃ arrivals : List String, arrivals.Nodup ∧
    (∀ name, name ∈ arrivals ↔ before.has name = false ∧ name ∈ front.map Schema.name) ∧
    after.list = Text.sortByUnits (before.tools.keys ++ arrivals)

theorem answers_registerAll (registry : Registry) (front : List Schema) :
    Answers registry front (registry.registerAll front) where
  get := by
    intro name
    rw [get, get?_registerAll]
    cases latest? name front <;> rfl
  has := by
    intro name
    rw [has, OrderedMap.contains, get?_registerAll, Option.isSome_or]
    rfl
  list := by
    obtain ⟨arrivals, distinct, exactly, keys⟩ := keys_registerAll registry front
    refine ⟨arrivals, distinct, ?_, ?_⟩
    · intro name
      rw [exactly, OrderedMap.mem_keys_iff, has, OrderedMap.contains, Bool.not_eq_true]
    · rw [list, keys]

/-- A load that fails has registered the tools in front of the first faulty one, and has
done nothing else. -/
theorem load_of_error {load : Load}
    (fails : load.action.perform world registry = (.error failure, after, final)) :
    after = world ∧ ∃ front : List Schema,
      (load.readings world.files = .error failure ∧ front = [] ∨
        ∃ later, load.readings world.files = .ok (front.map .ok ++ .error failure :: later)) ∧
      Answers registry front final ∧
      (front = [] → final = registry) := by
  rw [perform_load] at fails
  cases found : load.readings world.files with
  | error refused =>
      rw [found] at fails
      cases fails
      exact ⟨rfl, [], .inl ⟨rfl, rfl⟩, answers_registerAll registry [], fun _ => rfl⟩
  | ok readings =>
      rw [found] at fails
      rcases taken : takeUp registry readings with ⟨outcome, grown⟩
      simp only [taken] at fails
      cases fails
      obtain ⟨front, later, rfl, rfl⟩ := takeUp_eq_error taken
      refine ⟨rfl, front, .inr ⟨later, rfl⟩, answers_registerAll registry front, ?_⟩
      rintro rfl
      rfl

/-- Tools of which only the first can be read. -/
def halfReadable : List (String × ToolEntry) :=
  [("first", { kind := .parameterFile, executable := none, lines := ["x,i,h,1,,,"] }),
    ("second", { kind := .parameterFile, executable := none, lines := ["broken"] })]

/-- The tool that is registered when they are loaded. -/
def firstReadable : Schema where
  name := "first"
  kind := .parameterFile
  executable := none
  required := []
  optional := [
    { name := "x", type := .integer, help := "", default := .number (.ofNat 1), required := false,
      mode := "h", constraint := none }]

theorem load_of_error_half_readable :
    ∃ after final, (Load.tools halfReadable).action.perform .empty .empty =
        (.error (.schema (.tooFewColumns "second" "broken")), after, final) ∧
      Answers .empty [firstReadable] final := by
  have fails : (Load.tools halfReadable).action.perform .empty .empty =
      (.error (.schema (.tooFewColumns "second" "broken")), _) :=
    Action.perform_eq (by decide +kernel)
  have readings : (Load.tools halfReadable).readings World.empty.files =
      .ok [.ok firstReadable, .error (.schema (.tooFewColumns "second" "broken"))] := by
    decide +kernel
  obtain ⟨-, front, stops, answers, -⟩ := load_of_error fails
  have front_eq : front = [firstReadable] := by
    rw [readings] at stops
    rcases stops with ⟨refused, -⟩ | ⟨later, stops⟩
    · cases refused
    · match front, stops with
      | [schema], stops =>
        simp only [List.map_cons, List.map_nil, List.cons_append, List.nil_append] at stops
        cases stops
        rfl
  subst front_eq
  exact ⟨_, _, fails, answers⟩

/-- A load that fails can leave a tool that was not there before. -/
theorem half_readable_not_kept :
    ((addAll halfReadable).perform .empty .empty).1 =
        .error (.schema (.tooFewColumns "second" "broken")) ∧
      Registry.empty.has "first" = false ∧
      ((addAll halfReadable).perform .empty .empty).2.2.has "first" = true ∧
      ((addAll halfReadable).perform .empty .empty).2.2.list = ["first"] := by
  decide +kernel

end ToolParams.Registry
