import ToolParams.Proofs.Action
import ToolParams.Proofs.Files.Joining
import ToolParams.Proofs.Outcome
import ToolParams.Scope

/-!
# Filling the directory of a scope

Files are copied one after another, each to a name in the directory that ends as names of
parameter files do.  What every such copy keeps, filling the directory keeps, however far
it gets.
-/

namespace ToolParams

namespace ParameterFile

variable {tool name : String}

theorem toolOf_fileName (tool : String) : toolOf (fileName tool) = tool := by
  simp [toolOf, fileName, Text.dropEnd]

theorem eq_of_fileName {other : String} (same : fileName tool = fileName other) :
    tool = other := by
  rw [← toolOf_fileName tool, same, toolOf_fileName]

theorem fileName_toolOf (ends : Text.endsWith name ending = true) :
    fileName (toolOf name) = name := by
  obtain ⟨front, whole⟩ := List.isSuffixOf_iff_suffix.mp ends
  have split : name = String.ofList front ++ ending := by
    apply String.toList_injective
    rw [String.toList_append, String.toList_ofList, whole]
  rw [split]
  exact congrArg fileName (toolOf_fileName (String.ofList front))

theorem isName_fileName (noSlash : '/' ∉ tool.toList) : Path.IsName (fileName tool) := by
  have long : 4 ≤ (fileName tool).toList.length := by
    simp [fileName, ending]
  constructor
  · intro same
    simp [same] at long
  · intro same
    simp [same] at long
  · intro same
    simp [same] at long
  · simp [fileName, ending, noSlash]

theorem endsWith_fileName (tool : String) : Text.endsWith (fileName tool) ending = true := by
  rw [Text.endsWith, List.isSuffixOf_iff_suffix, fileName, String.toList_append]
  exact List.suffix_append _ _

theorem exists_steps_fileName (tool : String) : ∃ front last, '/' ∉ last.toList ∧
    Path.steps (fileName tool) = front ++ [fileName last] := by
  obtain ⟨front, last, split⟩ : ∃ front last, Path.steps tool = front ++ [last] := by
    rcases List.eq_nil_or_concat (Path.steps tool) with none | ⟨front, last, split⟩
    · exact absurd none (Path.steps_ne_nil tool)
    · exact ⟨front, last, by rw [split, List.concat_eq_append]⟩
  have noSlash : '/' ∉ last.toList :=
    Path.noSlash_of_mem_steps (split ▸ List.mem_append_right _ List.mem_cons_self)
  exact ⟨front, last, noSlash, Path.steps_append_of_noSlash split (by decide)⟩

theorem baseName_fileName (noSlash : '/' ∉ tool.toList) :
    Path.baseName (fileName tool) = fileName tool := by
  have isName := isName_fileName noSlash
  have split : Path.steps (fileName tool) = [] ++ [fileName tool] :=
    Path.steps_of_noSlash isName.noSlash
  exact Path.baseName_of_steps split isName.filled

theorem exists_baseName (tool : String) :
    ∃ last, '/' ∉ last.toList ∧ Path.baseName (fileName tool) = fileName last := by
  obtain ⟨front, last, noSlash, split⟩ := exists_steps_fileName tool
  exact ⟨last, noSlash, Path.baseName_of_steps split (isName_fileName noSlash).filled⟩

theorem baseName_join (directory tool : String) :
    Path.baseName (Path.join directory (fileName tool)) = Path.baseName (fileName tool) := by
  obtain ⟨front, last, noSlash, split⟩ := exists_steps_fileName tool
  have isName := isName_fileName noSlash
  obtain ⟨before, joined⟩ := Path.last_join split isName directory
  rw [Path.baseName_of_steps split isName.filled, Path.baseName_of_steps joined isName.filled]

theorem exists_tool_of_mem_select {names : List String} (member : name ∈ select names) :
    ∃ tool, name = fileName tool := by
  have ends : name ∈ names.filter (Text.endsWith · ending) := by
    unfold select Text.sortByUnits at member
    exact List.mem_mergeSort.mp member
  exact ⟨toolOf name, (fileName_toolOf (List.mem_filter.mp ends).2).symm⟩

end ParameterFile

namespace ScopeManager

variable {files : FileTree} {tool source : String} {directories : List String}

theorem exists_of_find? (found : find? files tool directories = .ok (some source)) :
    ∃ directory ∈ directories, source = Path.join directory (ParameterFile.fileName tool) := by
  induction directories with
  | nil => cases found
  | cons directory rest induction =>
      obtain ⟨present, _, found⟩ := Outcome.bind_eq_ok_iff.mp found
      cases present with
      | true =>
          cases found
          exact ⟨directory, List.mem_cons_self, rfl⟩
      | false =>
          obtain ⟨other, member, same⟩ := induction found
          exact ⟨other, List.mem_cons_of_mem _ member, same⟩

variable {σ : Type} {relation : World × σ → World × σ → Prop} {wanted : String → Prop}
  {directory : String}

/-- A relation between moments that holds across notes in the journal and across copies of
the parameter files of some tools into a directory, and across any number of them. -/
structure Admits (relation : World × σ → World × σ → Prop) (wanted : String → Prop)
    (directory : String) : Prop where
  refl : ∀ point, relation point point
  trans : ∀ {first second third},
    relation first second → relation second third → relation first third
  note : ∀ (world : World) (state : σ) (entry : Entry),
    relation (world, state) ({ world with journal := world.journal ++ [entry] }, state)
  copy : ∀ folder tool, wanted tool → Action.Within relation
    (copyInto (Path.join folder (ParameterFile.fileName tool)) directory : Action σ Unit)

namespace Admits

open ToolParams.Action (Within)

variable (admits : Admits relation wanted directory)

include admits

theorem bind {α β : Type} {action : Action σ α} {next : α → Action σ β}
    (first : Within relation action) (later : ∀ value, Within relation (next value)) :
    Within relation (action >>= next) := by
  refine Within.bind ?_ first later
  intro start middle last earlier further
  exact admits.trans earlier further

theorem noted (level : Level) (event : String) (data : List (String × Json)) :
    Within relation (Action.note level event data : Action σ Unit) :=
  fun world state => admits.note world state ⟨level, event, data⟩

theorem copySeeds (manager : ScopeManager) (searched : Option String) (path : SearchPath)
    {seeds : List String} (covered : ∀ seed ∈ seeds, wanted seed) :
    Within relation (copySeeds manager searched path directory seeds : Action σ Unit) := by
  induction seeds with
  | nil => exact .pure admits.refl ()
  | cons seed rest induction =>
      have isWanted := covered seed List.mem_cons_self
      have later := induction fun other member => covered other (List.mem_cons_of_mem _ member)
      intro world state
      simp only [ScopeManager.copySeeds, Action.perform_bind, Action.perform_look]
      cases found : find? world.files seed (path.user ++ path.system) with
      | error fault => exact admits.refl _
      | ok result =>
          cases result with
          | none => exact admits.refl _
          | some source =>
              obtain ⟨folder, _, rfl⟩ := exists_of_find? found
              exact admits.bind (admits.copy folder seed isWanted) (fun _ => later) world state

theorem copyUserFiles (covered : ∀ tool, wanted tool) (system : List String)
    (folder : String) (copied : List String) {fileNames : List String}
    (named : ∀ name ∈ fileNames, ∃ tool, name = ParameterFile.fileName tool) :
    Within relation
      (copyUserFiles system folder directory copied fileNames : Action σ (List String)) := by
  induction fileNames generalizing copied with
  | nil => exact .pure admits.refl copied
  | cons name rest induction =>
      have later := fun copied => induction copied
        fun other member => named other (List.mem_cons_of_mem _ member)
      obtain ⟨tool, rfl⟩ := named name List.mem_cons_self
      unfold ScopeManager.copyUserFiles
      dsimp only
      split
      · exact later copied
      · refine admits.bind (.look admits.refl _ _) fun found => ?_
        cases found with
        | some _ => exact later copied
        | none =>
            refine admits.bind (.outcome (admits.copy folder tool (covered tool))) fun result => ?_
            rcases result with failure | _
            · cases failure with
              | file fault =>
                  dsimp only
                  split
                  · exact admits.bind (admits.noted _ _ _) fun _ => later copied
                  · exact .throw admits.refl _
              | _ => exact .throw admits.refl _
            · exact later _

theorem copyUserDirectories (covered : ∀ tool, wanted tool)
    (system copied userDirectories : List String) :
    Within relation (copyUserDirectories system directory copied userDirectories :
      Action σ (List String)) := by
  induction userDirectories generalizing copied with
  | nil => exact .pure admits.refl copied
  | cons folder rest induction =>
      refine admits.bind (.world admits.refl) fun world => ?_
      split
      · refine admits.bind (admits.copyUserFiles covered _ _ _ ?_) fun _ => induction _
        exact fun name member => ParameterFile.exists_tool_of_mem_select member
      · split
        · exact admits.bind (admits.noted _ _ _) fun _ => induction copied
        · exact .throw admits.refl _

/-- Filling a directory stays inside what copies into it and notes stay inside. -/
theorem populate {options : ScopeOptions} (seeds : ∀ seed ∈ options.seeds, wanted seed)
    (others : options.copyUser = true → ∀ tool, wanted tool) (manager : ScopeManager)
    (searched : Option String) :
    Within relation (populate manager options searched directory : Action σ (List String)) := by
  refine admits.bind (admits.copySeeds _ _ _ seeds) fun _ => ?_
  split
  · rename_i copyUser
    exact admits.copyUserDirectories (others copyUser) _ _ _
  · exact .pure admits.refl _

end Admits

end ScopeManager

end ToolParams
