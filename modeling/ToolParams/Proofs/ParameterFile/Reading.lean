import ToolParams.ParameterFile.Exchange
import ToolParams.Proofs.Store.Session
import ToolParams.Proofs.Store.Stable

/-!
# Reading a file is a fold of assignments

What a reader makes of a store depends on the files and the store alone: the text of
the file is split into contents, and each declared parameter that the contents name
is assigned in the order of the declarations.  A refusal anywhere leaves the store
as it was.
-/

namespace ToolParams.ParameterFile

open Store

/-- The input that a text stands for, given the files. -/
def inputFrom (files : FileTree) (overflow : Overflow) (declaration : Declaration)
    (text : String) : Except Failure Input :=
  let plain := if declaration.type.isText && text = "" then Input.scalar .null else .ofText text
  match overflow.get? declaration.name with
  | none => .ok plain
  | some stack =>
      if text = stackReference stack then
        ((files.read stack).mapError (.unreadable stack)).map fun content =>
          .ofText (stackText content)
      else .ok plain

/-- The store after assignments of contents to some parameters, if none is refused. -/
def assignFrom (files : FileTree) (overflow : Overflow) (contents : Contents) :
    List Declaration → Store → Except Failure Store
  | [], store => .ok store
  | declaration :: rest, store => do
      match contents.get? declaration.name with
      | none => assignFrom files overflow contents rest store
      | some text =>
          let input ← inputFrom files overflow declaration text
          let (next, _) ← (store.set declaration.name input).mapError .store
          assignFrom files overflow contents rest next

/-- The contents of a file, given the files. -/
def loadFrom (files : FileTree) (path : String) : Except Failure Contents := do
  let text ← (files.read path).mapError (.unreadable path)
  (contents text).mapError (.malformed path)

/-- The store after a file was read into it. -/
def readFrom (files : FileTree) (path : String) (overflow : Overflow) (store : Store) :
    Except Failure Store := do
  let contents ← loadFrom files path
  assignFrom files overflow contents store.declarations store

section Performance

variable {σ : Type} (world : World)

@[simp]
theorem perform_inputOf (declaration : Declaration) (text : String) (overflow : Overflow)
    (state : σ) :
    (inputOf declaration text overflow).perform world state =
      (inputFrom world.files overflow declaration text, world, state) := by
  unfold inputOf inputFrom
  cases overflow.get? declaration.name with
  | none => simp
  | some stack =>
      by_cases refers : text = stackReference stack
      · simp [refers]
      · simp [refers]

@[simp]
theorem perform_load (path : String) (state : σ) :
    (load path).perform world state = (loadFrom world.files path, world, state) := by
  unfold load loadFrom
  cases found : world.files.read path <;> simp [found]

end Performance

/-- Assigning contents to parameters is work on the store, and succeeds as the fold
does. -/
theorem perform_assignAll (path : String) (overflow : Overflow) (contents : Contents)
    (declarations : List Declaration) (world : World) (store : Store) :
    ∃ noted final,
      (assignAll path overflow contents declarations).perform world store =
          ((assignFrom world.files overflow contents declarations store).map fun _ => (),
            noted, final) ∧
        Worked (world, store) (noted, final) ∧
        ∀ reached, assignFrom world.files overflow contents declarations store = .ok reached →
          final = reached := by
  induction declarations generalizing world store with
  | nil =>
      refine ⟨world, store, rfl, .refl _, ?_⟩
      intro reached ended
      cases ended
      rfl
  | cons declaration rest induction =>
      unfold assignAll assignFrom
      cases named : contents.get? declaration.name with
      | none =>
          simp only [Action.perform_bind, Action.perform_state, Action.perform_note]
          have missing := World.Noted.note world ⟨.warn, "parfile.read_missing",
            [("tool", .text store.tool), ("path", .text path), ("name", .text declaration.name)]⟩
          obtain ⟨noted, final, performed, worked, reaches⟩ := induction _ store
          exact ⟨noted, final, performed, ⟨missing.trans worked.1, worked.2⟩, reaches⟩
      | some text =>
          cases taken : inputFrom world.files overflow declaration text with
          | error failure =>
              refine ⟨world, store, by simp [taken]; rfl, .refl _, ?_⟩
              intro reached ended
              simp [taken] at ended
          | ok input =>
              obtain ⟨checked, quiet, assigned⟩ :=
                perform_assign declaration.name input world store
              have step := store.assigned_afterSet declaration.name input
              simp only [Action.perform_bind, perform_inputOf, taken, assigned, Outcome.ok_bind]
              cases outcome : store.set declaration.name input with
              | error fault =>
                  simp only [afterSet_of_error outcome] at step ⊢
                  refine ⟨checked, store, rfl, ⟨quiet, step⟩, ?_⟩
                  intro reached ended
                  cases ended
              | ok result =>
                  obtain ⟨next, raw⟩ := result
                  simp only [afterSet_of_ok outcome] at step ⊢
                  obtain ⟨noted, final, performed, worked, reaches⟩ := induction checked next
                  rw [quiet.files] at performed reaches
                  exact ⟨noted, final, performed, Worked.trans ⟨quiet, step⟩ worked, reaches⟩

theorem worked_assignAll (path : String) (overflow : Overflow) (contents : Contents)
    (declarations : List Declaration) :
    Action.Within Worked (assignAll path overflow contents declarations) := by
  intro world store
  obtain ⟨noted, final, performed, worked, _⟩ :=
    perform_assignAll path overflow contents declarations world store
  rw [performed]
  exact worked

/-- Reading a file gives the store that the fold of assignments ends in, and leaves
the store as it was when anything is refused. -/
theorem perform_read (path : String) (overflow : Overflow) (world : World)
    (store : Store) :
    ∃ noted, world.Noted noted ∧
      (read path overflow).perform world store =
        match readFrom world.files path overflow store with
        | .ok final => (.ok (), noted, final)
        | .error failure => (.error failure, noted, store) := by
  unfold read readFrom
  simp only [Action.perform_bind, perform_load]
  cases loaded : loadFrom world.files path with
  | error failure => exact ⟨world, .refl world, rfl⟩
  | ok contents =>
      obtain ⟨noted, final, performed, worked, reaches⟩ :=
        perform_assignAll path overflow contents store.declarations world store
      simp only [Action.perform_state, perform_orRestore (worked_assignAll _ _ _ _), performed]
      simp only [bind, Except.bind]
      cases ended : assignFrom world.files overflow contents store.declarations store with
      | error failure => exact ⟨noted, worked.1, rfl⟩
      | ok reached =>
          cases reaches reached ended
          exact ⟨_, worked.1.trans (.note ..), rfl⟩

/-- What each assignment of an input from a file keeps is kept by the fold. -/
theorem assignFrom_keeps {files : FileTree} {overflow : Overflow} {contents : Contents}
    {declarations : List Declaration} {store final : Store} {property : Store → Prop}
    (kept : ∀ {before next : Store} {declaration : Declaration} {text : String} {input : Input}
      {raw : Scalar}, property before → inputFrom files overflow declaration text = .ok input →
        before.set declaration.name input = .ok (next, raw) → property next)
    (held : property store)
    (ended : assignFrom files overflow contents declarations store = .ok final) :
    property final := by
  induction declarations generalizing store with
  | nil =>
      cases ended
      exact held
  | cons declaration rest induction =>
      unfold assignFrom at ended
      cases named : contents.get? declaration.name with
      | none =>
          rw [named] at ended
          exact induction held ended
      | some text =>
          rw [named] at ended
          obtain ⟨input, taken, ended⟩ := Outcome.bind_eq_ok_iff.mp ended
          obtain ⟨⟨next, raw⟩, assigned, ended⟩ := Outcome.bind_eq_ok_iff.mp ended
          exact induction (kept held taken (Outcome.mapError_eq_ok_iff.mp assigned)) ended

theorem assigned_assignFrom {files : FileTree} {overflow : Overflow} {contents : Contents}
    {declarations : List Declaration} {store final : Store}
    (ended : assignFrom files overflow contents declarations store = .ok final) :
    store.Assigned final :=
  assignFrom_keeps (fun earlier _ step => .set earlier step) .refl ended

theorem assigned_readFrom {files : FileTree} {path : String} {overflow : Overflow}
    {store final : Store} (ended : readFrom files path overflow store = .ok final) :
    store.Assigned final := by
  obtain ⟨contents, _, folded⟩ := Outcome.bind_eq_ok_iff.mp ended
  exact assigned_assignFrom folded

theorem worked_read (path : String) (overflow : Overflow) :
    Action.Within Worked (read path overflow) := by
  intro world store
  obtain ⟨noted, quiet, performed⟩ := perform_read path overflow world store
  rw [performed]
  cases ended : readFrom world.files path overflow store with
  | error failure => exact ⟨quiet, .refl⟩
  | ok final => exact ⟨quiet, assigned_readFrom ended⟩

section Steps

variable {files : FileTree} {overflow : Overflow} {contents : Contents} {store final : Store}
  {declaration : Declaration} {declarations rest : List Declaration} {text : String}

theorem readFrom_of_read {path : String} {world noted : World}
    (reads : (read path overflow).perform world store = (.ok (), noted, final)) :
    readFrom world.files path overflow store = .ok final := by
  obtain ⟨_, _, performed⟩ := perform_read path overflow world store
  rw [reads] at performed
  cases ended : readFrom world.files path overflow store with
  | ok reached =>
      rw [ended] at performed
      cases performed
      rfl
  | error failure =>
      rw [ended] at performed
      cases performed

/-- What happens to the first parameter when some are assigned from a file. -/
theorem assignFrom_cons_cases (distinct : store.schema.names.Nodup)
    (declared : declaration ∈ store.declarations)
    (ended : assignFrom files overflow contents (declaration :: rest) store = .ok final) :
    (contents.get? declaration.name = none ∧
        assignFrom files overflow contents rest store = .ok final) ∨
      ∃ text input stored, contents.get? declaration.name = some text ∧
        inputFrom files overflow declaration text = .ok input ∧
        store.check declaration input = .ok stored ∧
        assignFrom files overflow contents rest (store.put declaration.name stored) =
          .ok final := by
  unfold assignFrom at ended
  cases named : contents.get? declaration.name with
  | none =>
      rw [named] at ended
      exact .inl ⟨rfl, ended⟩
  | some text =>
      rw [named] at ended
      obtain ⟨input, taken, ended⟩ := Outcome.bind_eq_ok_iff.mp ended
      obtain ⟨⟨next, raw⟩, assigned, ended⟩ := Outcome.bind_eq_ok_iff.mp ended
      rw [Outcome.mapError_eq_ok_iff, Store.set_eq distinct declared] at assigned
      obtain ⟨stored, accepted, same⟩ := Outcome.map_eq_ok_iff.mp assigned
      cases same
      exact .inr ⟨text, input, stored, rfl, taken, Outcome.mapError_eq_ok_iff.mp accepted, ended⟩

theorem entry_assignFrom_of_not_mem (distinct : store.schema.names.Nodup)
    (declared : ∀ declaration ∈ declarations, declaration ∈ store.declarations)
    (ended : assignFrom files overflow contents declarations store = .ok final) {name : String}
    (outside : name ∉ declarations.map Declaration.name) :
    final.entry name = store.entry name := by
  induction declarations generalizing store with
  | nil =>
      cases ended
      rfl
  | cons declaration rest induction =>
      have declaredRest := fun other member => declared other (List.mem_cons_of_mem _ member)
      rw [List.map_cons, List.mem_cons, not_or] at outside
      rcases assignFrom_cons_cases distinct (declared _ List.mem_cons_self) ended with
        ⟨_, later⟩ | ⟨text, input, stored, _, _, _, later⟩
      · exact induction distinct declaredRest later outside.2
      · rw [@induction (store.put declaration.name stored) distinct declaredRest later outside.2,
          Store.entry_put, if_neg (Ne.symm outside.1)]

/-- A parameter that a file names holds what some store on the way accepted for it. -/
theorem exists_check_of_assignFrom (distinct : store.schema.names.Nodup)
    (declared : ∀ declaration ∈ declarations, declaration ∈ store.declarations)
    (apart : (declarations.map Declaration.name).Nodup) (member : declaration ∈ declarations)
    (named : contents.get? declaration.name = some text)
    (ended : assignFrom files overflow contents declarations store = .ok final) :
    ∃ (midway : Store) (input : Input), midway.schema = store.schema ∧
      inputFrom files overflow declaration text = .ok input ∧
      midway.check declaration input = .ok (final.entry declaration.name) := by
  induction declarations generalizing store with
  | nil => cases member
  | cons first rest induction =>
      have isDeclared := declared first List.mem_cons_self
      have declaredRest := fun other member => declared other (List.mem_cons_of_mem _ member)
      obtain ⟨outside, apartRest⟩ := List.nodup_cons.mp apart
      rcases List.mem_cons.mp member with rfl | later
      · rcases assignFrom_cons_cases distinct isDeclared ended with
          ⟨missing, _⟩ | ⟨found, input, stored, isFound, taken, accepted, ending⟩
        · rw [named] at missing
          cases missing
        · cases named.symm.trans isFound
          have kept := @entry_assignFrom_of_not_mem _ _ _ (store.put declaration.name stored) _ _
            distinct declaredRest ending _ outside
          rw [Store.entry_put, if_pos rfl] at kept
          exact ⟨store, input, rfl, taken, kept.symm ▸ accepted⟩
      · rcases assignFrom_cons_cases distinct isDeclared ended with
          ⟨_, ending⟩ | ⟨_, _, stored, _, _, _, ending⟩
        · exact induction distinct declaredRest apartRest later ending
        · exact @induction (store.put first.name stored) distinct declaredRest apartRest later
            ending

end Steps

section Congruence

variable {files other : FileTree} {overflow : Overflow} {contents alike : Contents}
  {declarations : List Declaration}

theorem inputFrom_congr
    (sameStacks : ∀ name stack, overflow.get? name = some stack →
      other.read stack = files.read stack) (declaration : Declaration) (text : String) :
    inputFrom other overflow declaration text = inputFrom files overflow declaration text := by
  unfold inputFrom
  cases known : overflow.get? declaration.name with
  | none => rfl
  | some stack => simp only [sameStacks _ _ known]

/-- Of the contents only the texts of the parameters count, and of the files only those that
the overflow names. -/
theorem assignFrom_congr
    (sameStacks : ∀ name stack, overflow.get? name = some stack →
      other.read stack = files.read stack)
    (same : ∀ declaration ∈ declarations,
      alike.get? declaration.name = contents.get? declaration.name) (store : Store) :
    assignFrom other overflow alike declarations store =
      assignFrom files overflow contents declarations store := by
  induction declarations generalizing store with
  | nil => rfl
  | cons declaration rest induction =>
      have later := induction fun next member => same next (List.mem_cons_of_mem _ member)
      unfold assignFrom
      simp only [same declaration List.mem_cons_self, inputFrom_congr sameStacks, later]

theorem loadFrom_of_contents {path text : String} (found : files.read path = .ok text)
    (isContents : ParameterFile.contents text = .ok contents) :
    loadFrom files path = .ok contents := by
  rw [loadFrom, found]
  exact Outcome.mapError_eq_ok_iff.mpr isContents

theorem readFrom_alike {path second : String} {store : Store}
    (loaded : loadFrom files path = .ok contents) (loadedToo : loadFrom other second = .ok alike)
    (sameStacks : ∀ name stack, overflow.get? name = some stack →
      other.read stack = files.read stack)
    (same : ∀ declaration ∈ store.declarations,
      alike.get? declaration.name = contents.get? declaration.name) :
    readFrom other second overflow store = readFrom files path overflow store := by
  rw [readFrom, readFrom, loaded, loadedToo]
  exact assignFrom_congr sameStacks same store

end Congruence

end ToolParams.ParameterFile
