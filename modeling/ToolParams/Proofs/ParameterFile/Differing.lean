import ToolParams.Proofs.Environment
import ToolParams.Proofs.ParameterFile.Comparing
import ToolParams.Proofs.ParameterFile.Folding
import ToolParams.Proofs.ParameterFile.Redirects

/-!
# A comparison finds the values that differ

A text that is neither a redirect nor refers to variables means itself.  Where the store holds
such texts only, and the file says such texts only, a comparison comes down to the texts: a
parameter is reported when the file does not name it, or when the text in the file is another
one and not another numeral of the same number.
-/

namespace ToolParams

theorem Store.resolve_of_literal {store : Store} {name : String} {value : Scalar}
    (declared : name ∈ store.schema.names) (held : store.entry name = .literal value) :
    store.resolve name = .ok value := by
  rw [resolve_eq_ok_iff declared]
  exact (Walk.start declared).follow_of_ends (.value (holds_iff.mpr held))

namespace ParameterFile

/-- A text that means itself: it is no redirect and refers to no variables. -/
def IsStill (text : String) : Prop :=
  Redirect.isWritten text = false ∧ '$' ∉ text.toList

instance (text : String) : Decidable (IsStill text) :=
  inferInstanceAs (Decidable (Redirect.isWritten text = false ∧ '$' ∉ text.toList))

/-- What a file says of a parameter, if anything, departs from the text that the store holds:
it is another text, and for a number not even a numeral of the same value. -/
def Departs (type : ParameterType) (held : String) : Option String → Prop
  | none => True
  | some text =>
      text ≠ held ∧
        ¬(type.isNumeric = true ∧ Text.trim text ≠ "" ∧
          (Number.read text).eqv (Number.read held) = true)

instance (type : ParameterType) (held : String) :
    (actual : Option String) → Decidable (Departs type held actual)
  | none => .isTrue trivial
  | some text =>
      inferInstanceAs (Decidable (text ≠ held ∧
        ¬(type.isNumeric = true ∧ Text.trim text ≠ "" ∧
          (Number.read text).eqv (Number.read held) = true)))

/-- The departures among some parameters, in their order. -/
def departures (store : Store) (actual : String → Option String)
    (declarations : List Declaration) : List Mismatch :=
  (declarations.filter fun declaration =>
    Departs declaration.type (textOf store declaration) (actual declaration.name)).map
      fun declaration =>
        { name := declaration.name, expected := textOf store declaration
          actual := actual declaration.name }

def HoldsStill (store : Store) (declaration : Declaration) : Prop :=
  ∃ value, store.entry declaration.name = .literal value ∧
    ∃ held, valueText? declaration (.literal value) = some held ∧ IsStill held

section Comparison

variable {σ : Type} {store : Store} {declaration : Declaration} {contents : Contents}
  {environment : Environment} {world : World} {text : String}

theorem concreteText_of_still (still : IsStill text) :
    concreteText contents environment text = text := by
  have followed : follow contents text = text :=
    Leads.start.follow_of_rests (.plain still.1)
  rw [concreteText, followed, environment.expand_of_plain still.2]

theorem departs_iff {type : ParameterType} {held : String} :
    Departs type held (some text) ↔ (text = held || sameValue type text held) = false := by
  simp [Departs, sameValue]

theorem HoldsStill.textOf (holds : HoldsStill store declaration) :
    valueText? declaration (store.entry declaration.name) =
        some (textOf store declaration) ∧ IsStill (textOf store declaration) := by
  obtain ⟨value, isEntry, held, isHeld, still⟩ := holds
  rw [ParameterFile.textOf, isEntry, isHeld]
  exact ⟨rfl, still⟩

theorem perform_agrees_of_still (contents : Contents)
    (declared : declaration ∈ store.declarations) (holds : HoldsStill store declaration)
    (still : IsStill text) (world : World) (state : σ) :
    (agrees store declaration contents (textOf store declaration) text).perform world state =
      (.ok (text = textOf store declaration ||
        sameValue declaration.type text (textOf store declaration)), world, state) := by
  obtain ⟨heldText, heldStill⟩ := holds.textOf
  obtain ⟨value, isEntry, _⟩ := holds
  have resolved := Store.resolve_of_literal (List.mem_map_of_mem declared) isEntry
  rw [isEntry] at heldText
  simp only [agrees, resolvedText?, Action.perform_bind, Action.perform_world, resolved,
    Action.perform_pure, concreteText_of_still still, concreteText_of_still heldStill, heldText,
    ← Bool.or_assoc, Bool.or_self]

theorem perform_departure?_of_still (declared : declaration ∈ store.declarations)
    (holds : HoldsStill store declaration)
    (still : ∀ text, contents.get? declaration.name = some text → IsStill text)
    (world : World) (state : σ) :
    (departure? store .empty contents declaration).perform world state =
      (.ok (if Departs declaration.type (textOf store declaration)
          (contents.get? declaration.name) then
        some { name := declaration.name, expected := textOf store declaration
               actual := contents.get? declaration.name } else none), world, state) := by
  unfold departure?
  simp only [holds.textOf.1, OrderedMap.get?_empty]
  cases found : contents.get? declaration.name with
  | none => simp [Departs]
  | some text =>
      have agreed := perform_agrees_of_still contents declared holds (still text found)
        world state
      by_cases same : text = textOf store declaration
      · simp [Departs, same]
      · have expected : some text ≠ some (textOf store declaration) :=
          fun isHeld => same (Option.some.inj isHeld)
        have held : (none <|> some (textOf store declaration)) =
            some (textOf store declaration) := rfl
        simp only [departs_iff, Option.filter_none, Option.map_none, held, if_neg expected,
          Action.perform_bind, agreed, Option.getD_some]
        cases text = textOf store declaration ||
          sameValue declaration.type text (textOf store declaration) <;> rfl

theorem departures_cons (store : Store) (actual : String → Option String)
    (declaration : Declaration) (rest : List Declaration) :
    departures store actual (declaration :: rest) =
      if Departs declaration.type (textOf store declaration) (actual declaration.name) then
        { name := declaration.name, expected := textOf store declaration
          actual := actual declaration.name } :: departures store actual rest
      else departures store actual rest := by
  unfold departures
  rw [List.filter_cons]
  split <;> simp_all

theorem departures_eq_nil_iff {actual : String → Option String}
    {declarations : List Declaration} :
    departures store actual declarations = [] ↔ ∀ declaration ∈ declarations,
      ¬Departs declaration.type (textOf store declaration) (actual declaration.name) := by
  simp [departures]

theorem perform_compare_of_departs {overflow : Overflow} {mismatch : Mismatch} {path : String}
    {rest : List Declaration} {world : World} {state : σ}
    (departs : (departure? store overflow contents declaration).perform world state =
      (.ok (some mismatch), world, state)) :
    ∃ middle, world.Noted middle ∧
      (compare store path overflow contents (declaration :: rest)).perform world state =
        (((compare store path overflow contents rest).perform middle state).1.map
            (mismatch :: ·),
          ((compare store path overflow contents rest).perform middle state).2) := by
  rw [compare]
  simp only [Action.perform_bind, departs, Action.perform_note, bind_pure_comp,
    Action.perform_map]
  exact ⟨_, .note _ _, rfl⟩

theorem perform_compare_of_still {declarations : List Declaration} (path : String)
    (declared : ∀ declaration ∈ declarations, declaration ∈ store.declarations)
    (holds : ∀ declaration ∈ declarations, HoldsStill store declaration)
    (still : ∀ declaration ∈ declarations, ∀ text,
      contents.get? declaration.name = some text → IsStill text)
    (world : World) (state : σ) :
    ∃ noted, world.Noted noted ∧
      (compare store path .empty contents declarations).perform world state =
        (.ok (departures store contents.get? declarations), noted, state) := by
  induction declarations generalizing world with
  | nil => exact ⟨world, .refl world, rfl⟩
  | cons declaration rest induction =>
      have later := induction (fun other member => declared other (List.mem_cons_of_mem _ member))
        (fun other member => holds other (List.mem_cons_of_mem _ member))
        fun other member => still other (List.mem_cons_of_mem _ member)
      have first := perform_departure?_of_still (declared declaration List.mem_cons_self)
        (holds declaration List.mem_cons_self) (still declaration List.mem_cons_self) world state
      by_cases departs : Departs declaration.type (textOf store declaration)
        (contents.get? declaration.name)
      · rw [if_pos departs] at first
        obtain ⟨middle, recorded, given⟩ := perform_compare_of_departs first
        obtain ⟨noted, quiet, performed⟩ := later middle
        refine ⟨noted, recorded.trans quiet, ?_⟩
        rw [given, performed, departures_cons, if_pos departs]
        rfl
      · rw [if_neg departs] at first
        obtain ⟨noted, quiet, performed⟩ := later world
        refine ⟨noted, quiet, ?_⟩
        rw [departures_cons, if_neg departs, compare]
        simp only [Action.perform_bind, first]
        exact performed

theorem perform_verify_of_still {path text : String} {listed : List (List String)}
    (holds : ∀ declaration ∈ store.declarations, HoldsStill store declaration)
    (found : world.files.read path = .ok text) (cut : rows text = .ok listed)
    (still : ∀ declaration ∈ store.declarations, ∀ text,
      lastValue? listed declaration.name = some text → IsStill text) (state : σ) :
    ∃ noted, world.Noted noted ∧
      (verify store path .empty).perform world state =
        (.ok (departures store (lastValue? listed) store.declarations), noted, state) := by
  have values : (listed.foldl addColumns .empty).get? = lastValue? listed :=
    funext (get?_foldl_empty listed)
  obtain ⟨noted, quiet, performed⟩ := perform_compare_of_still path (fun _ member => member) holds
    (values ▸ still) world state
  refine ⟨noted, quiet, ?_⟩
  simp only [verify, Action.perform_bind, Action.perform_outcome, perform_load,
    loadFrom_of_rows found cut]
  exact values ▸ performed

/-- A file is held against a store of such texts by the texts alone: exactly those parameters
are reported that the file does not name, or has another text for, unless it is a numeral of the
same number. -/
theorem verify_of_still {σ : Type} (store : Store) (path : String) (world : World)
    (text : String) (listed : List (List String)) (state : σ)
    (distinct : store.schema.names.Nodup)
    (holds : ∀ declaration ∈ store.declarations, HoldsStill store declaration)
    (found : world.files.read path = .ok text) (cut : rows text = .ok listed)
    (still : ∀ declaration ∈ store.declarations, ∀ text,
      lastValue? listed declaration.name = some text → IsStill text) :
    (∃ noted, world.Noted noted ∧
      (verify store path .empty).perform world state =
        (.ok (departures store (lastValue? listed) store.declarations), noted, state)) ∧
      ((departures store (lastValue? listed) store.declarations).map Mismatch.name).Nodup ∧
      ((departures store (lastValue? listed) store.declarations).map Mismatch.name).Sublist
        store.schema.names := by
  have inOrder : ((departures store (lastValue? listed) store.declarations).map
      Mismatch.name).Sublist store.schema.names := by
    rw [departures, List.map_map]
    exact List.filter_sublist.map Declaration.name
  exact ⟨perform_verify_of_still holds found cut still state, inOrder.nodup distinct, inOrder⟩

/-- A schema with two numbers and two texts. -/
def bench : Schema :=
  { name := "bench", kind := .parameterFile, executable := none, required := []
    optional := [("count", ParameterType.integer, .number (.ofNat 3)),
      ("width", .real, .number (.ofNat 2)), ("title", .string, .text "3"),
      ("notes", .string, .null)].map fun (name, type, default) =>
        { name, type, help := "", default, required := false, mode := "h", constraint := none } }

/-- What a file says of a bench: the count as another numeral, the width once as it is and then
otherwise, the title as another text, and the notes not at all. -/
def benchRows : List (List String) :=
  [["count", "i", "h", "3.0", "", "", ""], ["width", "r", "h", "2", "", "", ""],
    ["width", "r", "h", "2.5", "", "", ""], ["title", "s", "h", "3.0", "", "", ""]]

def benchWorld : World :=
  { World.empty with
    files := FileTree.empty.place ["bench.par"]
      (.file ("\n".intercalate (benchRows.map Columns.join)) FileTree.fileMode) }

/-- The numeral of the same number is not reported. -/
theorem verify_of_still_bench :
    (Store.fresh bench).schema.names.Nodup ∧
      ∃ noted, benchWorld.Noted noted ∧
        (verify (Store.fresh bench) "bench.par" .empty).perform benchWorld () =
          (.ok [⟨"width", "2", some "2.5"⟩, ⟨"title", "3", some "3.0"⟩, ⟨"notes", "", none⟩],
            noted, ()) := by
  have distinct : (Store.fresh bench).schema.names.Nodup := by decide +kernel
  have holds : ∀ declaration ∈ (Store.fresh bench).declarations,
      HoldsStill (Store.fresh bench) declaration := by
    intro declaration declared
    simp only [Store.fresh, bench, Store.declarations, Schema.declarations, List.map_cons,
      List.map_nil, List.nil_append, List.mem_cons, List.not_mem_nil, or_false] at declared
    rcases declared with rfl | rfl | rfl | rfl
    · exact ⟨.number (.ofNat 3), by decide +kernel, "3", by decide +kernel⟩
    · exact ⟨.number (.ofNat 2), by decide +kernel, "2", by decide +kernel⟩
    · exact ⟨.text "3", by decide +kernel, "3", by decide +kernel⟩
    · exact ⟨.null, by decide +kernel, "", by decide +kernel⟩
  have still : ∀ declaration ∈ (Store.fresh bench).declarations,
      (lastValue? benchRows declaration.name).all (IsStill ·) = true := by
    decide +kernel
  have stays : ∀ declaration ∈ (Store.fresh bench).declarations, ∀ text,
      lastValue? benchRows declaration.name = some text → IsStill text := by
    intro declaration declared text named
    have isStill := still declaration declared
    rw [named] at isStill
    exact of_decide_eq_true isStill
  have given : departures (Store.fresh bench) (lastValue? benchRows)
        (Store.fresh bench).declarations =
      [⟨"width", "2", some "2.5"⟩, ⟨"title", "3", some "3.0"⟩, ⟨"notes", "", none⟩] := by
    decide +kernel
  have found : benchWorld.files.read "bench.par" =
      .ok ("\n".intercalate (benchRows.map Columns.join)) := by
    decide +kernel
  have cut : rows ("\n".intercalate (benchRows.map Columns.join)) = .ok benchRows := by
    decide +kernel
  obtain ⟨held, _⟩ := verify_of_still (Store.fresh bench) "bench.par" benchWorld _ benchRows ()
    distinct holds found cut stays
  exact ⟨distinct, given ▸ held⟩

end Comparison

end ParameterFile

end ToolParams
