import ToolParams.CommandLine
import ToolParams.Programs
import ToolParams.Proofs.Outcome

/-!
# What comes before a command

Files of variables only add to the environment: a variable that is set keeps its value, and of
two files the one that is read first counts.  A vault that is not opened, and a program that
cannot be started, leave everything as it was.
-/

namespace ToolParams

namespace VariableFile

theorem get?_foldl_add (pairs : List (String × String)) (environment : Environment)
    (name : String) :
    (pairs.foldl (fun current (key, value) =>
        if current.contains key then current else current.insert key value) environment).get?
          name =
      (environment.get? name).or (OrderedMap.lookup name pairs) := by
  induction pairs generalizing environment with
  | nil => simp [OrderedMap.lookup]
  | cons pair rest induction =>
      obtain ⟨key, value⟩ := pair
      rw [List.foldl_cons, induction]
      dsimp only
      by_cases known : environment.contains key = true
      · rw [if_pos known]
        by_cases same : key = name
        · obtain ⟨held, isHeld⟩ := Option.isSome_iff_exists.mp known
          rw [← same, isHeld, Option.some_or, Option.some_or]
        · simp [OrderedMap.lookup, same]
      · rw [if_neg known, OrderedMap.get?_insert]
        by_cases same : key = name
        · have unset : environment.get? key = none := by
            simpa [OrderedMap.contains] using known
          rw [if_pos same, ← same, unset]
          simp [OrderedMap.lookup]
        · simp [OrderedMap.lookup, same]

/-- A variable that is set keeps its value, and any other gets that of the file. -/
theorem get?_addTo (environment : Environment) (text name : String) :
    (addTo environment text).get? name =
      (environment.get? name).or (OrderedMap.lookup name (read text)) :=
  get?_foldl_add (read text) environment name

end VariableFile

theorem Vault.get?_addTo {environment loaded : Environment} {text keys : String}
    (added : addTo environment text keys = .ok loaded) :
    ∃ opened, ∀ name, loaded.get? name =
      ((environment.get? name).or (OrderedMap.lookup name (VariableFile.read text))).or
        (OrderedMap.lookup name (VariableFile.read opened)) := by
  unfold addTo at added
  obtain ⟨opened, _, isLoaded⟩ := Outcome.bind_eq_ok_iff.mp added
  cases isLoaded
  exact ⟨opened, fun name => by rw [VariableFile.get?_addTo, VariableFile.get?_addTo]⟩

namespace CommandLine

variable {world : World}

theorem get?_withVariableFile {name value : String}
    (held : world.environment.get? name = some value) :
    (withVariableFile world).get? name = some value := by
  unfold withVariableFile
  split
  · rw [VariableFile.get?_addTo, held, Option.some_or]
  · exact held

theorem get?_withVariables {loaded : Environment} {notice name value : String}
    (added : withVariables world = (.ok loaded, notice))
    (held : world.environment.get? name = some value) : loaded.get? name = some value := by
  unfold withVariables at added
  dsimp only at added
  split at added
  · cases added
    exact get?_withVariableFile held
  · split at added
    · cases added
      exact get?_withVariableFile held
    · obtain ⟨opened, isLoaded⟩ := Vault.get?_addTo (Prod.mk.inj added).1
      rw [isLoaded, held, Option.some_or, Option.some_or]

theorem run_of_unopened {first : String} {fault : Vault.VaultFault} {notice : String}
    (launcher : Launcher) (bundled : String) (rest : List String)
    (asks : first ≠ "--help" ∧ first ≠ "-h")
    (refused : withVariables world = (.error fault, notice)) :
    (run launcher bundled (first :: rest) world).2 = world ∧
      (run launcher bundled (first :: rest) world).1.exitCode = 1 ∧
      (run launcher bundled (first :: rest) world).1.complaint = some fault.message := by
  have isAsked : ¬(first = "--help" ∨ first = "-h") := not_or.mpr asks
  have ended : run launcher bundled (first :: rest) world =
      ({ failed [] (.raised fault.message) with output := notice }, world) := by
    simp only [run, if_neg isAsked, refused]
  rw [ended]
  exact ⟨rfl, rfl, rfl⟩

end CommandLine

namespace Programs

variable {request : LaunchRequest} {files : FileTree}

theorem start_of_error {fault : FileFault} (refused : (start request files).1 = .error fault) :
    (start request files).2 = files := by
  unfold start at refused ⊢
  cases checked : checkWords request with
  | error refusal => rfl
  | ok _ =>
      simp only [checked] at refused ⊢
      split
      · rfl
      · rename_i entered isEntered
        simp only [isEntered] at refused
        split
        · rfl
        · rename_i notAtOnce
          simp only [if_neg notAtOnce] at refused
          cases refused

theorem launcher_of_error {message : String}
    (refused : (launcher request files).1 = .error message) :
    (launcher request files).2 = files := by
  unfold launcher at refused ⊢
  cases started : (start request files).1 with
  | ok completion => simp [started] at refused
  | error fault => exact start_of_error started

end Programs

end ToolParams
