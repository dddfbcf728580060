import ToolParams.CommandLine
import ToolParams.Proofs.Store.Ordering
import ToolParams.Proofs.Store.Session

/-!
# Binding the words of a command

The words of a command are read as assignments from left to right, those without a name
before those with one.  What a run binds is an object that lists each name once.  It makes
of the store what the words from left to right make of it, unless the order of the object
moves a word past another one that it depends on.
-/

namespace ToolParams.Runner

open ToolArguments (binding?)

variable {store bound final : Store} {words : List String}

/-- The assignments of the words without a name, to the parameters in order. -/
def ordered (store : Store) (words : List String) : List (String × Input) :=
  (store.declarations.map Declaration.name).zip
    ((words.filter fun word => (binding? word).isNone).map .ofText)

/-- The assignments of the words with a name, from left to right. -/
def named (words : List String) : List (String × Input) :=
  (words.filterMap binding?).map fun pair => (pair.1, .ofText pair.2)

theorem bindInOrder_eq (declarations : List Declaration) (inputs : List Input) :
    bindInOrder declarations inputs =
      bindByName ((declarations.map Declaration.name).zip inputs) := by
  induction declarations generalizing inputs with
  | nil => rfl
  | cons declaration rest induction =>
      cases inputs with
      | nil => rfl
      | cons input others => simp only [bindInOrder, induction, List.map_cons, List.zip_cons_cons,
          bindByName]

theorem perform_bindByName {assignments : List (String × Input)}
    (all : store.setAll assignments = .ok final) (world : World) :
    ∃ noted, world.Noted noted ∧
      (bindByName assignments).perform world store = (.ok (), noted, final) := by
  induction assignments generalizing store world with
  | nil =>
      cases all
      exact ⟨world, .refl world, rfl⟩
  | cons assignment rest induction =>
      obtain ⟨requested, input⟩ := assignment
      obtain ⟨next, raw, assigned, later⟩ := Store.setAll_cons_eq_ok_iff.mp all
      obtain ⟨first, early, performed⟩ := Store.perform_assign requested input world store
      obtain ⟨noted, late, performedRest⟩ := induction later first
      refine ⟨noted, early.trans late, ?_⟩
      rw [Store.afterSet_of_ok assigned] at performed
      simp only [bindByName, Action.perform_bind, performed, performedRest]

theorem perform_bindArguments {options : RunOptions}
    (fits : options.arguments.length ≤ store.declarations.length)
    (first : store.setAll ((store.declarations.map Declaration.name).zip options.arguments) =
      .ok bound)
    (second : bound.setAll (OrderedMap.members options.parameters) = .ok final) (world : World) :
    ∃ noted, world.Noted noted ∧
      (bindArguments options).perform world store = (.ok (), noted, final) := by
  obtain ⟨midway, early, performed⟩ := perform_bindByName first world
  obtain ⟨noted, late, performedToo⟩ := perform_bindByName second midway
  refine ⟨noted, early.trans late, ?_⟩
  unfold bindArguments
  simp only [Action.perform_bind, Action.perform_state, if_neg (Nat.not_lt.mpr fits),
    bindInOrder_eq, performed, performedToo]

theorem lists_parameters
    (plain : ∀ word ∈ named words, word.1 ≠ ToolArguments.droppedName) :
    OrderedMap.Lists (named words)
      (OrderedMap.members (CommandLine.optionsOf words).parameters) := by
  have kept : (words.filterMap binding?).filter (fun pair => pair.1 ≠ ToolArguments.droppedName) =
      words.filterMap binding? := by
    refine List.filter_eq_self.mpr fun pair member => decide_eq_true ?_
    exact plain _ (List.mem_map_of_mem member)
  have listed := (OrderedMap.lists_members (words.filterMap binding?)).map Input.ofText
  rw [← kept] at listed
  have given := listed.members
  unfold named
  rw [← kept]
  exact given

/-- Words that may be assigned from left to right are bound by a run with the same values,
unless the order of the names disturbs them; and the last word for a parameter counts. -/
theorem binds_of_undisturbed (world : World)
    (fits : (words.filter fun word => (binding? word).isNone).length ≤ store.declarations.length)
    (plain : ∀ word ∈ named words, word.1 ≠ ToolArguments.droppedName)
    (first : store.setAll (ordered store words) = .ok bound)
    (second : bound.setAll (named words) = .ok final)
    (undisturbed : bound.Undisturbed (named words)
      (OrderedMap.members (CommandLine.optionsOf words).parameters)) :
    ∃ noted reached,
      (bindArguments (CommandLine.optionsOf words)).perform world store =
          (.ok (), noted, reached) ∧
        world.Noted noted ∧ reached.schema = store.schema ∧
        (∀ name, reached.entry name = final.entry name) ∧
        ∀ front requested input back own,
          ordered store words ++ named words = front ++ (requested, input) :: back →
          store.resolveName requested = .ok own →
          (∀ word ∈ back, store.resolveName word.1 ≠ .ok own) →
          ∃ midway, store.setAll front = .ok midway ∧
            midway.validate requested input = .ok (reached.entry own) := by
  obtain ⟨reached, isReached, entries⟩ :=
    Store.setAll_of_undisturbed (lists_parameters plain) undisturbed second
  have fitting : (CommandLine.optionsOf words).arguments.length ≤ store.declarations.length :=
    Nat.le_trans (Nat.le_of_eq (List.length_map _)) fits
  obtain ⟨noted, isNoted, performed⟩ := perform_bindArguments fitting first isReached world
  have boundSchema := (Store.assigned_of_setAll first).schema_eq
  refine ⟨noted, reached, performed, isNoted,
    (Store.assigned_of_setAll isReached).schema_eq.trans boundSchema, entries, ?_⟩
  intro front requested input back own whole resolved last
  have all : store.setAll (front ++ (requested, input) :: back) = .ok final :=
    whole ▸ Store.setAll_append_eq_ok_iff.mpr ⟨bound, first, second⟩
  obtain ⟨midway, declaration, early, found, checked⟩ :=
    Store.entry_setAll_of_last all resolved last
  have midwaySchema := (Store.assigned_of_setAll early).schema_eq
  refine ⟨midway, early, ?_⟩
  rw [entries]
  exact Store.validate_of_check ((Store.resolveName_congr midwaySchema requested).trans resolved)
    (midwaySchema ▸ found) checked

/-- A dial whose level is at least the value of another parameter. -/
def dial : Schema where
  name := "dial"
  kind := .parameterFile
  executable := none
  required := []
  optional := [
    { name := "label", type := .string, help := "", default := .null, required := false,
      mode := "h", constraint := none },
    { name := "level", type := .integer, help := "", default := .number (.ofNat 15),
      required := false, mode := "h", constraint := some (.range (.text ")low") .unbounded) },
    { name := "low", type := .integer, help := "", default := .number (.ofNat 10),
      required := false, mode := "h", constraint := none }]

def labelled (text : String) : Store :=
  (Store.fresh dial).put "label" (.literal (.text text))

/-- Words that set the label and the limit of a dial, each of them twice. -/
def dialWords : List String := ["old", "lo=1", "label=new", "lo=2"]

theorem binds_of_undisturbed_dial :
    ∃ noted reached,
      (bindArguments (CommandLine.optionsOf dialWords)).perform .empty (Store.fresh dial) =
          (.ok (), noted, reached) ∧
        reached.entry "label" = .literal (.text "new") ∧
        reached.entry "low" = .literal (.number (.ofNat 2)) := by
  have plain : ∀ word ∈ named dialWords, word.1 ≠ ToolArguments.droppedName := by decide +kernel
  have first : (Store.fresh dial).setAll (ordered (Store.fresh dial) dialWords) =
      .ok (labelled "old") := by
    decide +kernel
  have second : (labelled "old").setAll (named dialWords) =
      .ok ((labelled "new").put "low" (.literal (.number (.ofNat 2)))) := by
    decide +kernel
  have undisturbed : (labelled "old").Undisturbed (named dialWords)
      (OrderedMap.members (CommandLine.optionsOf dialWords).parameters) :=
    Store.undisturbed_of_unlinked (lists_parameters plain) (by decide +kernel) (by decide +kernel)
  obtain ⟨noted, reached, performed, _, _, entries, _⟩ :=
    binds_of_undisturbed World.empty (by decide +kernel) plain first second undisturbed
  exact ⟨noted, reached, performed, (entries "label").trans (by decide +kernel),
    (entries "low").trans (by decide +kernel)⟩

/-- Words in which a shortened name comes again behind another one for its parameter. -/
def repeatingWords : List String := ["le=11", "lev=12", "le=13"]

/-- Words that lower a limit before the value that it limits is lowered. -/
def loweringWords : List String := ["level=16", "low=5", "level=7"]

/-- A name that comes again keeps its place in front of another name for its parameter, which
then counts; and its last value is checked there, against a limit that is lowered later. -/
theorem dial_not_leftToRight :
    ((Store.fresh dial).setAll (ordered (Store.fresh dial) repeatingWords ++
        named repeatingWords)).map (Store.entry · "level") = .ok (.literal (.number (.ofNat 13))) ∧
      ((bindArguments (CommandLine.optionsOf repeatingWords)).perform .empty
        (Store.fresh dial)).1 = .ok () ∧
      ((bindArguments (CommandLine.optionsOf repeatingWords)).perform .empty
        (Store.fresh dial)).2.2.entry "level" = .literal (.number (.ofNat 12)) ∧
      ((Store.fresh dial).setAll (ordered (Store.fresh dial) loweringWords ++
        named loweringWords)).map (Store.entry · "level") = .ok (.literal (.number (.ofNat 7))) ∧
      ((bindArguments (CommandLine.optionsOf loweringWords)).perform .empty
        (Store.fresh dial)).1 =
        .error (.store (.value (.below "dial" "level" (.ofNat 10) (.ofNat 7)))) := by
  decide +kernel

end ToolParams.Runner
