import ToolParams.Proofs.OrderedMap
import ToolParams.Proofs.ParameterFile.Spilling
import ToolParams.Proofs.ParameterFile.Verifying
import ToolParams.Proofs.Run.Rereading
import ToolParams.Proofs.SearchPath
import ToolParams.ToolArguments

/-!
# Values on the command line

A tool that takes its values on the command line gets a parameter file as well.  Both come
from the store and from what was too long for the file, one with quotes and one without.
They carry the same values: a reader of the file and a reader of the words find the same text
for each parameter.
-/

namespace ToolParams

namespace ToolArguments

/-- The word that gives a value to a name. -/
def spelled (pair : String × String) : String :=
  pair.1 ++ "=" ++ pair.2

/-- A name that a word can give a value to. -/
structure IsNameable (name : String) : Prop where
  filled : name ≠ ""
  apart : '=' ∉ name.toList
  kept : name ≠ droppedName

variable {pairs : List (String × String)}

theorem binding?_spelled {pair : String × String} (nameable : IsNameable pair.1) :
    binding? (spelled pair) = some pair := by
  have cut : Text.cut? '=' (spelled pair) = some pair := Text.cut?_append nameable.apart pair.2
  rw [binding?, cut]
  exact Option.filter_some_pos (decide_eq_true nameable.filled)

/-- The values are found again in the words for them. -/
theorem ofWords_spelled (nameable : ∀ pair ∈ pairs, IsNameable pair.1)
    (distinct : (pairs.map Prod.fst).Nodup) :
    (ofWords (pairs.map spelled)).positional = [] ∧
      (ofWords (pairs.map spelled)).named.Perm pairs := by
  have found : (pairs.map spelled).filterMap binding? = pairs := by
    rw [List.filterMap_map]
    exact (List.filterMap_congr fun pair member => binding?_spelled (nameable pair member)).trans
      List.filterMap_some
  have kept : pairs.filter (fun pair => pair.1 ≠ droppedName) = pairs :=
    List.filter_eq_self.mpr fun pair member => decide_eq_true (nameable pair member).kept
  constructor
  · refine List.filter_eq_nil_iff.mpr fun word member => ?_
    obtain ⟨pair, isPair, rfl⟩ := List.mem_map.mp member
    rw [binding?_spelled (nameable pair isPair)]
    exact Bool.false_ne_true
  · change (OrderedMap.members (((pairs.map spelled).filterMap binding?).filter
      fun pair => pair.1 ≠ droppedName)).Perm pairs
    rw [found, kept]
    exact OrderedMap.perm_members_of_nodup distinct

end ToolArguments

namespace ParameterFile

variable {limit : Number} {store : Store} {path : String} {world after : World}
  {overflow : Overflow}

/-- What is handed over to a tool on the command line are the texts of the lines. -/
theorem handedOver_of_write (distinct : store.schema.names.Nodup)
    (writes : (write limit store path).perform world .empty = (.ok (), after, overflow)) :
    Runner.handedOver store overflow = store.declarations.map fun declaration =>
      (declaration.name, lineText limit store path declaration) := by
  obtain ⟨texted, refers, _⟩ := refers_of_write writes
  apply List.map_congr_left
  intro declaration declared
  obtain ⟨text, held⟩ := texted declaration declared
  rw [lineText_eq held, held]
  by_cases long : exceeds limit text = true
  · rw [refers declaration declared text held long, if_pos long]
  · have unplaced : overflow.get? declaration.name = none := by
      rw [← Option.not_isSome_iff_eq_none, ← OrderedMap.mem_keys_iff]
      intro placed
      obtain ⟨entry, isEntry, named⟩ := List.mem_map.mp placed
      rw [toList_of_write distinct writes] at isEntry
      obtain ⟨other, overlong, rfl⟩ := List.mem_map.mp isEntry
      obtain ⟨otherDeclared, isLong⟩ := List.mem_filter.mp overlong
      obtain rfl := Schema.eq_of_name distinct otherDeclared declared named
      rw [held] at isLong
      exact long isLong
    rw [unplaced, if_neg long]
    rfl

end ParameterFile

namespace Runner

/-- The arguments that a tool is started with have the values that its parameter file has, and
nothing besides but the one that keeps it from asking. -/
structure Carries (schema : Schema) (file : String) (launch : Launch)
    (found : ParameterFile.Contents) (parameters : List (String × String)) : Prop where
  file : ∃ content, launch.files.Holds file content ∧
    ParameterFile.contents content = .ok found
  names : parameters.map Prod.fst = schema.names
  values : ∀ pair ∈ parameters, found.get? pair.1 = some pair.2
  words : launch.request.arguments = silentArgument :: parameters.map ToolArguments.spelled
  positional : (ToolArguments.ofWords launch.request.arguments).positional = []
  named : (ToolArguments.ofWords launch.request.arguments).named.Perm
    (("mode", "h") :: parameters)

variable {limit : Number} {store : Store} {path : String} {world after : World}
  {overflow : ParameterFile.Overflow}

/-- A tool that is started after a store was written gets the values of the file. -/
theorem exists_carries_of_write {schema : Schema} (isSchema : store.schema = schema)
    (direct : schema.kind = .direct) (legible : schema.Legible) (sound : schema.Sound)
    (listed : ∀ name ∈ schema.names, isListed name = true)
    (nameable : ∀ name ∈ schema.names, ToolArguments.IsNameable name)
    (writable : ∀ declaration ∈ schema.declarations,
      (store.entry declaration.name).IsWritable declaration)
    (plainPath : IsPlain path)
    (writes : (ParameterFile.write limit store path).perform world .empty =
      (.ok (), after, overflow))
    {launch : Launch} (files : launch.files = after.files)
    (arguments : launch.request.arguments =
      programArguments store.schema.kind path (handedOver store overflow)) :
    ∃ found parameters, Carries schema path launch found parameters := by
  subst isSchema
  obtain ⟨texted, _, holds⟩ := ParameterFile.refers_of_write writes
  have writableTexts : ∀ declaration ∈ store.declarations,
      ParameterFile.WritableText declaration
        (ParameterFile.lineText limit store path declaration) := by
    intro declaration declared
    obtain ⟨text, held⟩ := texted declaration declared
    exact ParameterFile.writableText_lineText (legible.name declaration declared) held
      (ParameterFile.writableText_of_isWritable (writable declaration declared) held)
      fun _ => plainPath
  obtain ⟨found, isContent, _, finds⟩ :=
    ParameterFile.contents_of_writable legible sound writableTexts
  have handed := ParameterFile.handedOver_of_write sound.distinct writes
  have names : (handedOver store overflow).map Prod.fst = store.schema.names := by
    rw [handed, List.map_map]
    rfl
  have words : launch.request.arguments =
      (("mode", "h") :: handedOver store overflow).map ToolArguments.spelled := by
    rw [arguments, direct]
    rfl
  -- The word that keeps the tool from asking reads as a value for a name that no parameter has.
  have allNameable : ∀ pair ∈ ("mode", "h") :: handedOver store overflow,
      ToolArguments.IsNameable pair.1 := by
    intro pair member
    rcases List.mem_cons.mp member with rfl | later
    · exact ⟨by decide, by decide, by decide⟩
    · exact nameable pair.1 (names ▸ List.mem_map_of_mem later)
  have distinct : ((("mode", "h") :: handedOver store overflow).map Prod.fst).Nodup := by
    rw [List.map_cons, names]
    exact List.nodup_cons.mpr ⟨sound.unreserved, sound.distinct⟩
  obtain ⟨positional, named⟩ := ToolArguments.ofWords_spelled allNameable distinct
  rw [← words] at positional named
  refine ⟨found, handedOver store overflow, ⟨_, files ▸ holds, isContent⟩, names, ?_, words,
    positional, named⟩
  intro pair member
  rw [handed] at member
  obtain ⟨declaration, declared, rfl⟩ := List.mem_map.mp member
  have isListedHere := listed _ (List.mem_map_of_mem declared)
  refine finds declaration declared isListedHere fun other otherDeclared same => ?_
  rwa [ParameterFile.keyOf_of_isListed (listed _ (List.mem_map_of_mem otherDeclared))] at same

/-- Whenever a run starts a tool that takes its values on the command line, the words and the
parameter file of the run carry the same values, those that are in stack files by the same
references. -/
theorem carries_of_run (runner : Runner) (launcher : Launcher) (options : RunOptions)
    (world : World) (store : Store) {tool text : String}
    (accepted : Schema.read tool text .direct = .ok { store.schema with executable := none })
    (legible : store.schema.Legible)
    (listed : ∀ name ∈ store.schema.names, isListed name = true)
    (nameable : ∀ name ∈ store.schema.names, ToolArguments.IsNameable name)
    (writable : ∀ declaration ∈ store.schema.declarations,
      (((bindArguments options).perform world store).2.2.entry declaration.name).IsWritable
        declaration)
    (plainPath : IsPlain (runner.parameterFile store.schema world.namesGiven)) :
    ∃ made, ((runner.run launcher options).perform world store).2.1.launches =
        world.launches ++ made ∧
      ∀ launch ∈ made, ∃ found parameters, Carries store.schema
        (runner.parameterFile store.schema world.namesGiven) launch found parameters := by
  have direct : store.schema.kind = .direct := by
    obtain ⟨_, _, _, same⟩ := Schema.parts_of_read accepted
    exact congrArg Schema.kind same
  have runs : store.schema.kind ≠ .parametersOnly := by
    rw [direct]
    nofun
  obtain ⟨distinct, unreserved, help⟩ := Schema.sound_of_read accepted
  have sound : store.schema.Sound := ⟨distinct, unreserved, help⟩
  have binding := worked_bindArguments options world store
  rcases binds : (bindArguments options).perform world store with ⟨failure | _, noted, bound⟩
  · obtain ⟨noted, quiet, performed⟩ := runner.perform_run_of_unbound launcher runs
      (congrArg Prod.fst binds)
    refine ⟨[], ?_, fun _ member => absurd member List.not_mem_nil⟩
    rw [performed, List.append_nil]
    exact quiet.launches
  rw [binds] at binding writable
  have sameSchema : bound.schema = store.schema := binding.2.schema_eq
  obtain ⟨result, after, final, written, overflow, saved, worked, performed, course⟩ :=
    runner.perform_run_of_bound launcher runs binds
  rw [performed, course.launches]
  rcases course.working with ⟨_, _, _, rfl, _⟩ | ⟨rfl, operated⟩
  · refine ⟨[], ?_, fun _ member => absurd member List.not_mem_nil⟩
    rw [List.append_nil]
    exact course.saving.edited.launches
  · obtain ⟨start, _, writes⟩ := course.wrote
    refine ⟨_, operated.launches.trans (congrArg (· ++ _) course.saving.edited.launches), ?_⟩
    intro launch member
    cases List.mem_singleton.mp member
    exact exists_carries_of_write sameSchema direct legible sound listed nameable writable plainPath
      writes rfl rfl

/-- A tool that takes files, a condition and a switch on the command line. -/
def selector : Schema :=
  { name := "selector", kind := .direct, executable := some "bin/select", required := []
    optional := [
      { name := "files", type := .string, help := "", default := .null, required := false,
        mode := "h", constraint := none },
      { name := "keep", type := .string, help := "", default := .null, required := false,
        mode := "h", constraint := none },
      { name := "rest", type := .boolean, help := "", default := .bool false, required := false,
        mode := "h", constraint := none }] }

/-- A runner that writes short lines. -/
def narrow : Runner :=
  { bare with limit := .ofNat 12 }

/-- A list of files that is too long for its line, and a condition with quotes in it. -/
def selecting : RunOptions :=
  { RunOptions.none with
    parameters := [("files", .ofText "first.evt,second.evt"), ("keep", .ofText "x=\"1,2\"")] }

/-- The list goes to the tool by a reference, and the condition as it is. -/
theorem carries_selector :
    ∃ launch found parameters,
      ((narrow.run idle selecting).perform .empty (Store.fresh selector)).2.1.launches =
        [launch] ∧
      launch.request.arguments =
        ["mode=h", "files=@-selector.00000000-0000-4000-8000-000000000000.par.files.stk",
          "keep=x=\"1,2\"", "rest=no"] ∧
      Carries selector "selector.00000000-0000-4000-8000-000000000000.par" launch found
        parameters := by
  have file : narrow.parameterFile (Store.fresh selector).schema World.empty.namesGiven =
      "selector.00000000-0000-4000-8000-000000000000.par" := by decide +kernel
  have arguments : ((narrow.run idle selecting).perform .empty
      (Store.fresh selector)).2.1.launches.map (fun launch => launch.request.arguments) =
        [["mode=h", "files=@-selector.00000000-0000-4000-8000-000000000000.par.files.stk",
          "keep=x=\"1,2\"", "rest=no"]] := by decide +kernel
  have nameable : ∀ name ∈ selector.names, name ≠ "" ∧ '=' ∉ name.toList ∧
      name ≠ ToolArguments.droppedName := by decide +kernel
  have accepted : Schema.read "selector" "files,s,h,,,,\nkeep,s,h,,,,\nrest,b,h,no,,," .direct =
      .ok { selector with executable := none } := by decide +kernel
  obtain ⟨made, launches, carries⟩ := carries_of_run narrow idle selecting .empty
    (Store.fresh selector) accepted
    ⟨by decide +kernel, by decide +kernel, by decide +kernel, by decide +kernel⟩
    (by decide +kernel)
    (fun name named => ⟨(nameable name named).1, (nameable name named).2.1,
      (nameable name named).2.2⟩)
    (by decide +kernel) (by rw [file]; decide)
  rw [file] at carries
  have same : ((narrow.run idle selecting).perform .empty (Store.fresh selector)).2.1.launches =
      made := launches
  rw [same] at arguments
  obtain ⟨launch, rfl, isRequest⟩ := List.map_eq_singleton_iff.mp arguments
  obtain ⟨found, parameters, here⟩ := carries launch (List.mem_singleton_self _)
  exact ⟨launch, found, parameters, same, isRequest, here⟩

end Runner

end ToolParams
