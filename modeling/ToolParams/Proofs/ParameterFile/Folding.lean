import ToolParams.Proofs.ParameterFile.Values
import ToolParams.Proofs.Store.Ordering

/-!
# Reading a file, row by row

What a file says is told here without the reader: its lines are cut into rows, the last
row of a name counts, and a reference to the stack file of a parameter stands for what is
in that file.  Reading a file assigns these texts to the declared parameters, in the order
of their declarations, or does nothing at all.
-/

namespace ToolParams.ParameterFile

/-- The columns of the lines of a text, if all of them can be split. -/
def rows (text : String) : Except ColumnsFault (List (List String)) :=
  (Schema.contentLines text).mapM Columns.split

def isAbout (name : String) (row : List String) : Bool :=
  row.getD 0 "" = name && name ≠ ""

def lastValue? (listed : List (List String)) (name : String) : Option String :=
  (listed.reverse.find? (isAbout name)).map fun row => row.getD 3 ""

/-- The text that is meant by a text in a file: a reference to the stack file of the
parameter stands for what is in that file. -/
def meant (files : FileTree) (overflow : Overflow) (name text : String) :
    Except Failure String :=
  match overflow.get? name with
  | none => .ok text
  | some stack =>
      if text = stackReference stack then
        ((files.read stack).mapError (.unreadable stack)).map stackText
      else .ok text

/-- The assignments of a file to some parameters, in the order of the parameters. -/
def words (files : FileTree) (overflow : Overflow) (listed : List (List String)) :
    List Declaration → Except Failure (List (String × Input))
  | [] => .ok []
  | declaration :: rest =>
      match lastValue? listed declaration.name with
      | none => words files overflow listed rest
      | some text => do
          let value ← meant files overflow declaration.name text
          let others ← words files overflow listed rest
          return (declaration.name, .ofText value) :: others

variable {files : FileTree} {overflow : Overflow} {contents : Contents} {path : String}
  {listed : List (List String)} {text name : String} {store middle final : Store}
  {declaration : Declaration} {declarations rest : List Declaration} {failure : Failure}

section Rows

theorem get?_addColumns_eq (contents : Contents) (row : List String) (name : String) :
    (addColumns contents row).get? name =
      if isAbout name row then some (row.getD 3 "") else contents.get? name := by
  unfold addColumns isAbout
  generalize row.getD 0 "" = own
  by_cases unnamed : own = ""
  · by_cases same : own = name
    · subst same
      simp [unnamed]
    · simp [unnamed]
  · by_cases same : own = name
    · subst same
      simp [unnamed]
    · simp [unnamed, same]

theorem lastValue?_concat (listed : List (List String)) (row : List String) (name : String) :
    lastValue? (listed ++ [row]) name =
      if isAbout name row then some (row.getD 3 "") else lastValue? listed name := by
  unfold lastValue?
  rw [List.reverse_append, List.reverse_singleton, List.singleton_append, List.find?_cons]
  cases isAbout name row <;> simp

theorem get?_foldl_addColumns (contents : Contents) (listed : List (List String))
    (name : String) :
    (listed.foldl addColumns contents).get? name =
      (lastValue? listed name).or (contents.get? name) := by
  induction listed using List.reverseRecOn with
  | nil => rfl
  | append_singleton listed row induction =>
      rw [List.foldl_append, List.foldl_cons, List.foldl_nil, get?_addColumns_eq,
        lastValue?_concat, induction]
      cases isAbout name row <;> simp

theorem addLines_eq (contents : Contents) (lines : List String) :
    addLines contents lines =
      (lines.mapM Columns.split).map fun listed => listed.foldl addColumns contents := by
  induction lines generalizing contents with
  | nil => rfl
  | cons line rest induction =>
      rw [addLines, List.mapM_cons]
      cases Columns.split line with
      | error fault => rfl
      | ok row =>
          simp only [Outcome.ok_bind, induction]
          cases rest.mapM Columns.split <;> rfl

theorem contents_eq (text : String) :
    ParameterFile.contents text =
      (rows text).map fun listed => listed.foldl addColumns .empty :=
  addLines_eq .empty (Schema.contentLines text)

theorem get?_foldl_empty (listed : List (List String)) (name : String) :
    (listed.foldl addColumns .empty).get? name = lastValue? listed name := by
  rw [get?_foldl_addColumns, OrderedMap.get?_empty, Option.or_none]

theorem lastValue?_eq_none (unnamed : ∀ row ∈ listed, isAbout name row = false) :
    lastValue? listed name = none := by
  unfold lastValue?
  rw [Option.map_eq_none_iff, List.find?_eq_none]
  intro row member
  simp [unnamed row (List.mem_reverse.mp member)]

theorem lastValue?_filter {test : List String → Bool}
    (kept : ∀ row, isAbout name row = true → test row = true) :
    lastValue? (listed.filter test) name = lastValue? listed name := by
  induction listed using List.reverseRecOn with
  | nil => rfl
  | append_singleton listed row induction =>
      rw [List.filter_append, List.filter_singleton, lastValue?_concat]
      cases about : isAbout name row with
      | true =>
          rw [kept row about, cond_true, lastValue?_concat, about, if_pos rfl, if_pos rfl]
      | false =>
          cases test row with
          | true => rw [cond_true, lastValue?_concat, about, induction]
          | false => rw [cond_false, List.append_nil, induction]; rfl

end Rows

section Words

/-- The input that is read for a text is checked like the text that is meant. -/
theorem inputFrom_cases (files : FileTree) (overflow : Overflow) (declaration : Declaration)
    (text : String) :
    (∃ failure, inputFrom files overflow declaration text = .error failure ∧
        meant files overflow declaration.name text = .error failure) ∨
      ∃ input value, inputFrom files overflow declaration text = .ok input ∧
        meant files overflow declaration.name text = .ok value ∧
        ∀ store : Store,
          store.check declaration input = store.check declaration (.ofText value) := by
  unfold inputFrom meant
  cases overflow.get? declaration.name with
  | none =>
      exact .inr ⟨_, _, rfl, rfl, fun store => check_plainInput store declaration text⟩
  | some stack =>
      by_cases refers : text = stackReference stack
      · simp only [if_pos refers]
        cases files.read stack with
        | error fault => exact .inl ⟨_, rfl, rfl⟩
        | ok content => exact .inr ⟨_, _, rfl, rfl, fun _ => rfl⟩
      · simp only [if_neg refers]
        exact .inr ⟨_, _, rfl, rfl, fun store => check_plainInput store declaration text⟩

theorem words_cons_of_none (unnamed : lastValue? listed declaration.name = none) :
    words files overflow listed (declaration :: rest) = words files overflow listed rest := by
  rw [words, unnamed]

theorem words_cons_of_some (named : lastValue? listed declaration.name = some text) {value : String}
    (means : meant files overflow declaration.name text = .ok value) :
    words files overflow listed (declaration :: rest) =
      (words files overflow listed rest).map fun others =>
        (declaration.name, .ofText value) :: others := by
  rw [words, named]
  simp only [means, Outcome.ok_bind]
  cases words files overflow listed rest <;> rfl

/-- Why the assignments of a file to some parameters stop at one of them: its stack file
cannot be read, or its value is refused by the store that those in front of it have led to. -/
inductive Stops (files : FileTree) (overflow : Overflow) (listed : List (List String))
    (declarations : List Declaration) (store : Store) : Failure → Prop where
  | stack {front rest : List Declaration} {declaration : Declaration}
      {earlier : List (String × Input)} {middle : Store} {stack : String} {fault : FileFault} :
      declarations = front ++ declaration :: rest →
      words files overflow listed front = .ok earlier →
      store.setAll earlier = .ok middle →
      overflow.get? declaration.name = some stack →
      lastValue? listed declaration.name = some (stackReference stack) →
      files.read stack = .error fault →
      Stops files overflow listed declarations store (.unreadable stack fault)
  | value {front rest : List Declaration} {declaration : Declaration}
      {earlier : List (String × Input)} {middle : Store} {text value : String}
      {fault : StoreFault} :
      declarations = front ++ declaration :: rest →
      words files overflow listed front = .ok earlier →
      store.setAll earlier = .ok middle →
      lastValue? listed declaration.name = some text →
      meant files overflow declaration.name text = .ok value →
      middle.set declaration.name (.ofText value) = .error fault →
      Stops files overflow listed declarations store (.store fault)

theorem Stops.skip (unnamed : lastValue? listed declaration.name = none)
    (stops : Stops files overflow listed rest store failure) :
    Stops files overflow listed (declaration :: rest) store failure := by
  cases stops with
  | stack split early assigned known named unreadable =>
      exact .stack (congrArg (declaration :: ·) split) (words_cons_of_none unnamed ▸ early)
        assigned known named unreadable
  | value split early assigned named means refused =>
      exact .value (congrArg (declaration :: ·) split) (words_cons_of_none unnamed ▸ early)
        assigned named means refused

/-- What stops behind an assignment stops in the store that the assignment leads to. -/
theorem Stops.later (named : lastValue? listed declaration.name = some text) {value : String}
    (means : meant files overflow declaration.name text = .ok value) {raw : Scalar}
    (assigns : store.set declaration.name (.ofText value) = .ok (middle, raw))
    (stops : Stops files overflow listed rest middle failure) :
    Stops files overflow listed (declaration :: rest) store failure := by
  have onward {front : List Declaration} {earlier : List (String × Input)} {reached : Store}
      (early : words files overflow listed front = .ok earlier)
      (assigned : middle.setAll earlier = .ok reached) :
      words files overflow listed (declaration :: front) =
          .ok ((declaration.name, .ofText value) :: earlier) ∧
        store.setAll ((declaration.name, .ofText value) :: earlier) = .ok reached := by
    constructor
    · rw [words_cons_of_some named means, early]
      rfl
    · exact Store.setAll_cons_eq_ok_iff.mpr ⟨middle, raw, assigns, assigned⟩
  cases stops with
  | stack split early assigned known isNamed unreadable =>
      obtain ⟨early, assigned⟩ := onward early assigned
      exact .stack (congrArg (declaration :: ·) split) early assigned known isNamed unreadable
  | value split early assigned isNamed means refused =>
      obtain ⟨early, assigned⟩ := onward early assigned
      exact .value (congrArg (declaration :: ·) split) early assigned isNamed means refused

/-- What stops at the first parameter because its text means nothing is an unreadable stack. -/
theorem Stops.first (named : lastValue? listed declaration.name = some text)
    (means : meant files overflow declaration.name text = .error failure) :
    Stops files overflow listed (declaration :: rest) store failure := by
  unfold meant at means
  cases known : overflow.get? declaration.name with
  | none =>
      rw [known] at means
      cases means
  | some stack =>
      simp only [known] at means
      split at means
      · rename_i refers
        subst refers
        cases unreadable : files.read stack with
        | ok content =>
            rw [unreadable] at means
            cases means
        | error fault =>
            rw [unreadable] at means
            cases means
            exact .stack (List.nil_append _).symm rfl rfl known named unreadable
      · cases means

variable (files overflow listed) in
/-- Assigning the contents of a file to some parameters makes all of its assignments, or
stops at one of the parameters. -/
theorem assignFrom_cases (distinct : store.schema.names.Nodup)
    (declared : ∀ declaration ∈ declarations, declaration ∈ store.declarations) :
    (∃ assignments final,
        assignFrom files overflow (listed.foldl addColumns .empty) declarations store = .ok final ∧
        words files overflow listed declarations = .ok assignments ∧
        store.setAll assignments = .ok final) ∨
      ∃ failure,
        assignFrom files overflow (listed.foldl addColumns .empty) declarations store =
          .error failure ∧ Stops files overflow listed declarations store failure := by
  induction declarations generalizing store with
  | nil => exact .inl ⟨[], store, rfl, rfl, rfl⟩
  | cons declaration rest induction =>
      have isDeclared := declared declaration List.mem_cons_self
      have declaredRest := fun other member => declared other (List.mem_cons_of_mem _ member)
      unfold assignFrom
      rw [get?_foldl_empty]
      cases named : lastValue? listed declaration.name with
      | none =>
          rcases induction distinct declaredRest with
            ⟨assignments, final, ended, early, assigned⟩ | ⟨failure, ended, stops⟩
          · exact .inl ⟨assignments, final, ended, (words_cons_of_none named).trans early, assigned⟩
          · exact .inr ⟨failure, ended, stops.skip named⟩
      | some text =>
          rcases inputFrom_cases files overflow declaration text with
            ⟨failure, taken, means⟩ | ⟨input, value, taken, means, alike⟩
          · right
            exact ⟨failure, by simp only [taken]; rfl, .first named means⟩
          · have sameSet : store.set declaration.name input =
                store.set declaration.name (.ofText value) := by
              rw [Store.set_eq distinct isDeclared, Store.set_eq distinct isDeclared, alike]
            simp only [taken, Outcome.ok_bind, sameSet]
            cases assigns : store.set declaration.name (.ofText value) with
            | error fault =>
                exact .inr ⟨.store fault, rfl,
                  .value (List.nil_append _).symm rfl rfl named means assigns⟩
            | ok result =>
                obtain ⟨middle, raw⟩ := result
                have sameSchema := Store.schema_of_set assigns
                have declaredLater : ∀ other ∈ rest, other ∈ middle.declarations := by
                  intro other member
                  rw [Store.declarations, sameSchema]
                  exact declaredRest other member
                rcases @induction middle (sameSchema ▸ distinct) declaredLater with
                  ⟨assignments, final, ended, early, assigned⟩ | ⟨failure, ended, stops⟩
                · refine .inl
                    ⟨(declaration.name, .ofText value) :: assignments, final, ended, ?_, ?_⟩
                  · rw [words_cons_of_some named means, early]
                    rfl
                  · exact Store.setAll_cons_eq_ok_iff.mpr ⟨middle, raw, assigns, assigned⟩
                · exact .inr ⟨failure, ended, stops.later named means assigns⟩

/-- A parameter that has no row is assigned nothing. -/
theorem lastValue?_of_mem_words {assignments : List (String × Input)}
    (early : words files overflow listed declarations = .ok assignments)
    {word : String × Input} (member : word ∈ assignments) :
    word.1 ∈ declarations.map Declaration.name ∧ lastValue? listed word.1 ≠ none := by
  induction declarations generalizing assignments with
  | nil =>
      cases early
      cases member
  | cons declaration rest induction =>
      cases named : lastValue? listed declaration.name with
      | none =>
          rw [words_cons_of_none named] at early
          obtain ⟨isName, isNamed⟩ := induction early member
          exact ⟨List.mem_cons_of_mem _ isName, isNamed⟩
      | some text =>
          rw [words, named] at early
          obtain ⟨value, means, early⟩ := Outcome.bind_eq_ok_iff.mp early
          obtain ⟨others, further, same⟩ := Outcome.bind_eq_ok_iff.mp early
          cases same
          rcases List.mem_cons.mp member with rfl | later
          · exact ⟨List.mem_cons_self, by simp [named]⟩
          · obtain ⟨isName, isNamed⟩ := induction further later
            exact ⟨List.mem_cons_of_mem _ isName, isNamed⟩

end Words

/-- How a file is read into a store: all of its assignments are made, or the store stays as
it was. -/
inductive Taken (files : FileTree) (path : String) (overflow : Overflow) (store : Store) :
    Except Failure Unit → Store → Prop where
  | assigned {text : String} {listed : List (List String)}
      {assignments : List (String × Input)} {final : Store} :
      files.read path = .ok text →
      rows text = .ok listed →
      words files overflow listed store.declarations = .ok assignments →
      store.setAll assignments = .ok final →
      Taken files path overflow store (.ok ()) final
  | unreadable {fault : FileFault} :
      files.read path = .error fault →
      Taken files path overflow store (.error (.unreadable path fault)) store
  | malformed {text : String} {fault : ColumnsFault} :
      files.read path = .ok text →
      rows text = .error fault →
      Taken files path overflow store (.error (.malformed path fault)) store
  | stopped {text : String} {listed : List (List String)} {failure : Failure} :
      files.read path = .ok text →
      rows text = .ok listed →
      Stops files overflow listed store.declarations store failure →
      Taken files path overflow store (.error failure) store

section Reading

variable {world : World}

theorem taken_of_perform (distinct : store.schema.names.Nodup) (path : String)
    (overflow : Overflow) (world : World) :
    Taken world.files path overflow store ((read path overflow).perform world store).1
      ((read path overflow).perform world store).2.2 := by
  obtain ⟨noted, _, performed⟩ := perform_read path overflow world store
  rw [performed]
  unfold readFrom loadFrom
  cases found : world.files.read path with
  | error fault => exact .unreadable found
  | ok text =>
      simp only [Outcome.mapError_ok, Outcome.ok_bind, contents_eq]
      cases cut : rows text with
      | error fault => exact .malformed found cut
      | ok listed =>
          rcases assignFrom_cases world.files overflow listed distinct (fun _ member => member) with
            ⟨assignments, final, ended, early, assigned⟩ | ⟨failure, ended, stops⟩
          · simp only [Except.map, Outcome.mapError_ok, Outcome.ok_bind, ended]
            exact .assigned found cut early assigned
          · simp only [Except.map, Outcome.mapError_ok, Outcome.ok_bind, ended]
            exact .stopped found cut stops

theorem loadFrom_of_rows (found : files.read path = .ok text) (cut : rows text = .ok listed) :
    loadFrom files path = .ok (listed.foldl addColumns .empty) := by
  refine loadFrom_of_contents found ?_
  rw [contents_eq, cut]
  rfl

theorem readFrom_congr {files other : FileTree} {text similar : String}
    {alike : List (List String)}
    (found : files.read path = .ok text) (cut : rows text = .ok listed)
    (foundToo : other.read path = .ok similar) (cutToo : rows similar = .ok alike)
    (sameStacks : ∀ name stack, overflow.get? name = some stack →
      other.read stack = files.read stack)
    (same : ∀ declaration ∈ store.declarations,
      lastValue? alike declaration.name = lastValue? listed declaration.name) :
    readFrom other path overflow store = readFrom files path overflow store := by
  refine readFrom_alike (loadFrom_of_rows found cut) (loadFrom_of_rows foundToo cutToo) sameStacks
    fun declaration member => ?_
  rw [get?_foldl_empty, get?_foldl_empty, same declaration member]

def isDeclared (schema : Schema) (row : List String) : Bool :=
  schema.names.any fun name => isAbout name row

/-- A parameter without a row keeps its entry. -/
theorem Taken.entry_of_unnamed {files : FileTree} {outcome : Except Failure Unit}
    {final : Store} {text name : String}
    (taken : Taken files path overflow store outcome final)
    (found : files.read path = .ok text) (cut : rows text = .ok listed)
    (unnamed : ∀ row ∈ listed, isAbout name row = false) :
    final.entry name = store.entry name := by
  cases taken with
  | assigned foundToo cutToo early assigned =>
      cases found.symm.trans foundToo
      cases cut.symm.trans cutToo
      refine Store.entry_setAll_of_untouched assigned ?_
      intro word member resolved
      obtain ⟨isName, isNamed⟩ := lastValue?_of_mem_words early member
      rw [Store.resolveName_of_mem isName] at resolved
      cases resolved
      exact isNamed (lastValue?_eq_none unnamed)
  | unreadable _ => rfl
  | malformed _ _ => rfl
  | stopped _ _ _ => rfl

theorem lastValue?_of_same_declared {alike : List (List String)}
    (sameRows : alike.filter (isDeclared store.schema) =
      listed.filter (isDeclared store.schema)) :
    ∀ declaration ∈ store.declarations,
      lastValue? alike declaration.name = lastValue? listed declaration.name := by
  intro declaration member
  have kept : ∀ row, isAbout declaration.name row = true →
      isDeclared store.schema row = true := by
    intro row about
    exact List.any_eq_true.mpr ⟨declaration.name, List.mem_map_of_mem member, about⟩
  rw [← lastValue?_filter kept, sameRows, lastValue?_filter kept]

/-- A file is read as a whole or not at all: it makes its assignments to the declared
parameters, in the order of their declarations, or leaves the store as it was.  Parameters
without a row keep their entries, and rows about other names do not matter. -/
theorem read_taken (distinct : store.schema.names.Nodup) (path : String) (overflow : Overflow)
    (world : World) :
    ∃ outcome noted final,
      (read path overflow).perform world store = (outcome, noted, final) ∧
      Taken world.files path overflow store outcome final ∧
      (∀ text listed, world.files.read path = .ok text → rows text = .ok listed →
        (∀ name, (∀ row ∈ listed, isAbout name row = false) →
          final.entry name = store.entry name) ∧
        ∀ (other : World) (similar : String) (alike : List (List String)),
          other.files.read path = .ok similar → rows similar = .ok alike →
          alike.filter (isDeclared store.schema) = listed.filter (isDeclared store.schema) →
          (∀ name stack, overflow.get? name = some stack →
            other.files.read stack = world.files.read stack) →
          ∃ otherNoted,
            (read path overflow).perform other store = (outcome, otherNoted, final)) := by
  have taken := taken_of_perform distinct path overflow world
  rcases performed : (read path overflow).perform world store with ⟨outcome, noted, final⟩
  rw [performed] at taken
  refine ⟨outcome, noted, final, rfl, taken, ?_⟩
  intro text listed found cut
  refine ⟨fun _ unnamed => taken.entry_of_unnamed found cut unnamed, ?_⟩
  intro other similar alike foundToo cutToo sameRows sameStacks
  obtain ⟨_, _, reads⟩ := perform_read path overflow world store
  obtain ⟨otherNoted, _, readsToo⟩ := perform_read path overflow other store
  rw [readFrom_congr found cut foundToo cutToo sameStacks
    (lastValue?_of_same_declared sameRows)] at readsToo
  rw [performed] at reads
  cases ended : readFrom world.files path overflow store with
  | ok final =>
      rw [ended] at reads readsToo
      cases reads
      exact ⟨otherNoted, readsToo⟩
  | error failure =>
      rw [ended] at reads readsToo
      cases reads
      exact ⟨otherNoted, readsToo⟩

end Reading

/-- A schema of which a file does not name every parameter. -/
def rack : Schema :=
  { name := "rack", kind := .parameterFile, executable := none, required := []
    optional := [
      { name := "files", type := .string, help := "", default := .null,
        required := false, mode := "h", constraint := none },
      { name := "level", type := .integer, help := "", default := .number (.ofNat 0),
        required := false, mode := "h", constraint := none },
      { name := "size", type := .integer, help := "", default := .number (.ofNat 7),
        required := false, mode := "h", constraint := none }] }

/-- A world with a file that names a parameter twice, and one that is not declared. -/
def rackWorld : World :=
  { World.empty with
    files := (FileTree.empty.place ["rack.par"]
        (.file "level,i,h,3,,,\nother,s,h,x,,,\nlevel,i,h,4,,,\nfiles,s,h,\"@-rack.stk\",,,\n"
          FileTree.fileMode)).place
      ["rack.stk"] (.file "a\nb\n" FileTree.fileMode) }

def rackStacks : Overflow := ⟨[("files", "rack.stk")]⟩

/-- The last row of a parameter counts, a stack file is read, and what is not named stays. -/
theorem read_taken_rack :
    (Store.fresh rack).schema.names.Nodup ∧
      ∃ noted final,
        (read "rack.par" rackStacks).perform rackWorld (Store.fresh rack) =
          (.ok (), noted, final) ∧
        Taken rackWorld.files "rack.par" rackStacks (Store.fresh rack) (.ok ()) final ∧
        final.entry "files" = .literal (.text "a,b") ∧
        final.entry "level" = .literal (.number (.ofNat 4)) ∧
        final.entry "size" = (Store.fresh rack).entry "size" := by
  have distinct : (Store.fresh rack).schema.names.Nodup := by decide +kernel
  have reads : ((read "rack.par" rackStacks).perform rackWorld (Store.fresh rack)).1 = .ok () ∧
      ((read "rack.par" rackStacks).perform rackWorld (Store.fresh rack)).2.2.entry "files" =
        .literal (.text "a,b") ∧
      ((read "rack.par" rackStacks).perform rackWorld (Store.fresh rack)).2.2.entry "level" =
        .literal (.number (.ofNat 4)) := by
    decide +kernel
  have cut : ∃ text listed, rackWorld.files.read "rack.par" = .ok text ∧
      rows text = .ok listed ∧ ∀ row ∈ listed, isAbout "size" row = false :=
    ⟨_, [["level", "i", "h", "3", "", "", ""], ["other", "s", "h", "x", "", "", ""],
      ["level", "i", "h", "4", "", "", ""], ["files", "s", "h", "@-rack.stk", "", "", ""]],
      rfl, by decide +kernel, by decide +kernel⟩
  refine ⟨distinct, ?_⟩
  obtain ⟨outcome, noted, final, performed, taken, spares⟩ :=
    read_taken distinct "rack.par" rackStacks rackWorld
  obtain ⟨text, listed, found, isCut, unnamed⟩ := cut
  rw [performed] at reads
  obtain ⟨rfl, files, level⟩ := reads
  have size := (spares text listed found isCut).1 _ unnamed
  exact ⟨noted, final, performed, taken, files, level, size⟩

end ToolParams.ParameterFile
