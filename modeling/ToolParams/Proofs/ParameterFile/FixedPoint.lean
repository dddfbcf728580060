import ToolParams.Proofs.ParameterFile.RoundTrip
import ToolParams.Proofs.Schema.Rewriting

/-!
# The file of the defaults is a fixed point

A schema that was read from a file can be written as a file again, by saving a store that
holds its defaults.  That file declares the same parameters, and saving their defaults
writes the same file.
-/

namespace ToolParams

namespace Schema

variable {tool text : String} {kind : ToolKind} {schema : Schema}

theorem isLine_limitColumns {type : ParameterType} {low high : String}
    {constraint : Option Constraint} (isConstraint : IsConstraint type low high constraint)
    (lowIsLine : IsLine low) (highIsLine : IsLine high) :
    IsLine (ParameterFile.limitColumns constraint).1 ∧
      IsLine (ParameterFile.limitColumns constraint).2 := by
  cases isConstraint with
  | free => exact ⟨List.not_mem_nil, List.not_mem_nil⟩
  | options =>
      have joined : "|".intercalate (Text.split '|' low) = low := Text.intercalate_split '|' low
      rw [ParameterFile.limitColumns, joined]
      exact ⟨lowIsLine, List.not_mem_nil⟩
  | range _ _ isLow isHigh =>
      exact ⟨fun member => lowIsLine (mem_boundText isLow (by decide) member),
        fun member => highIsLine (mem_boundText isHigh (by decide) member)⟩

/-- Columns come from lines, so a schema that was read is legible unless commas or quotes
stand in its columns. -/
theorem legible_of_read (accepted : read tool text kind = .ok schema)
    (lettered : ∀ declaration ∈ schema.declarations, declaration.type.IsLettered)
    (names : ∀ declaration ∈ schema.declarations, Columns.IsBare declaration.name.toList)
    (modes : ∀ declaration ∈ schema.declarations, Columns.IsBare declaration.mode.toList)
    (limits : ∀ declaration ∈ schema.declarations,
      Columns.IsBare (ParameterFile.limitColumns declaration.constraint).1.toList ∧
        Columns.IsBare (ParameterFile.limitColumns declaration.constraint).2.toList) :
    schema.Legible := by
  refine ⟨lettered, ?_, ?_, ?_⟩
  · intro declaration declared
    obtain ⟨columns, lines, declares⟩ := exists_declares accepted declared
    exact ⟨names _ declared, declares.name ▸ isLine_getD lines 0⟩
  · intro declaration declared
    obtain ⟨columns, lines, declares⟩ := exists_declares accepted declared
    exact ⟨modes _ declared, declares.mode ▸ isLine_getD lines 2⟩
  · intro declaration declared
    obtain ⟨columns, lines, declares⟩ := exists_declares accepted declared
    have isConstraint := isConstraint_of_readConstraint declares.constraint
    obtain ⟨low, high⟩ :=
      isLine_limitColumns isConstraint (isLine_getD lines 4) (isLine_getD lines 5)
    exact ⟨⟨(limits _ declared).1, low⟩, ⟨(limits _ declared).2, high⟩⟩

end Schema

namespace ParameterFile

variable {tool text : String} {kind : ToolKind} {schema : Schema} {store : Store}

/-- Saving the store writes the content and no stack files, wherever it is saved. -/
def SavesAs (store : Store) (content : String) : Prop :=
  ∀ (path : String) (world : World), ∃ entry, (save store path).perform world .empty =
    match world.files.write path content with
    | .ok files =>
        (.ok (), World.withFiles { world with journal := world.journal ++ [entry] } files, .empty)
    | .error fault => (.error (.unwritable path fault), world, .empty)

def defaultText (declaration : Declaration) : String :=
  (valueText? declaration (Stored.ofRaw declaration.default)).getD ""

theorem savesAs_fresh (distinct : schema.names.Nodup)
    (held : ∀ declaration ∈ schema.declarations,
      valueText? declaration (Stored.ofRaw declaration.default) =
        some (defaultText declaration)) :
    SavesAs (Store.fresh schema) (contentOf defaultText schema.declarations) := by
  have isText : ∀ declaration ∈ schema.declarations,
      valueText? declaration ((Store.fresh schema).entry declaration.name) =
          some (defaultText declaration) ∧
        textOf (Store.fresh schema) declaration = defaultText declaration := by
    intro declaration declared
    have isHeld := held declaration declared
    rw [← Store.entry_fresh distinct declared] at isHeld
    exact ⟨isHeld, by rw [textOf, isHeld, Option.getD_some]⟩
  intro path world
  obtain ⟨lines, stackFiles⟩ := @linesOf?_of_held (Store.fresh schema) (.infinity false) path
    schema.declarations
    (fun declaration declared => by rw [(isText _ declared).1, (isText _ declared).2])
    fun _ _ => exceeds_infinity _
  have sameLines : (schema.declarations.map fun declaration =>
        line declaration (textOf (Store.fresh schema) declaration)) =
      schema.declarations.map fun declaration => line declaration (defaultText declaration) :=
    List.map_congr_left fun declaration declared => by rw [(isText _ declared).2]
  rw [sameLines] at lines
  exact perform_write_of_short world lines stackFiles

/-- The lines of parameters are read as the parameters, and the mode line as none. -/
theorem readLines_lines {declarations : List Declaration} {texts : Declaration → String}
    (each : ∀ declaration ∈ declarations,
      Schema.readLine tool (Text.trim (line declaration (texts declaration))) =
        .ok (some declaration.rewritten)) :
    Schema.readLines tool
        ((declarations.map fun declaration => Text.trim (line declaration (texts declaration))) ++
          [modeLine]) =
      .ok (declarations.map Declaration.rewritten) := by
  induction declarations with
  | nil => rfl
  | cons declaration declarations induction =>
      have first := each declaration List.mem_cons_self
      have later := induction fun other member => each other (List.mem_cons_of_mem _ member)
      rw [List.map_cons, List.cons_append, Schema.readLines, first, later]
      rfl

/-- A name that can open a line: it is empty, or begins with a character that is neither
blank nor makes a comment of the line. -/
def Opens (name : String) : Prop :=
  name ≠ "" → isListed name = true

instance (name : String) : Decidable (Opens name) :=
  inferInstanceAs (Decidable (name ≠ "" → isListed name = true))

theorem keyOf_of_opens {name : String} (opens : Opens name) : keyOf name = name := by
  by_cases nameless : name = ""
  · rw [nameless]
    rfl
  · exact keyOf_of_isListed (opens nameless)

theorem counts_line {declaration : Declaration} (opens : Opens declaration.name)
    (text : String) : counts (Text.trim (line declaration text)) = true := by
  obtain ⟨behind, last, _, ending⟩ := exists_ending declaration text
  have characters := ending (keyOf declaration.name)
  rw [← trim_line, keyOf_of_opens opens] at characters
  cases begins : declaration.name.toList with
  | nil =>
      rw [begins] at characters
      exact counts_eq characters
  | cons head rest =>
      have named : declaration.name ≠ "" := by
        intro nameless
        rw [nameless] at begins
        cases begins
      have listed := opens named
      rw [isListed, begins, List.head?_cons, Option.any_some, Bool.and_eq_true] at listed
      rw [begins] at characters
      exact (counts_eq characters).trans listed.1

theorem contentLines_of_opens {declarations : List Declaration} {texts : Declaration → String}
    (writable : ∀ declaration ∈ declarations,
      Writable declaration ∧ WritableText declaration (texts declaration))
    (opens : ∀ declaration ∈ declarations, Opens declaration.name) :
    Schema.contentLines (contentOf texts declarations) =
      (declarations.map fun declaration => Text.trim (line declaration (texts declaration))) ++
        [modeLine] := by
  have last : [modeLine, ""].filter counts = [modeLine] := by decide
  rw [contentLines_contentOf writable, List.filter_append, last, List.filter_eq_self.mpr]
  intro counted member
  obtain ⟨declaration, declared, rfl⟩ := List.mem_map.mp member
  exact counts_line (opens declaration declared) _

theorem readLine_line {declaration : Declaration} {columns : List String}
    (writable : Writable declaration) (opens : Opens declaration.name)
    (lettered : declaration.type.IsLettered)
    (declares : Schema.Declares tool columns declaration)
    (defaults : Schema.Defaults tool declaration.name declaration text) :
    Schema.readLine tool (Text.trim (line declaration text)) =
      .ok (some declaration.rewritten) := by
  rw [Schema.readLine_eq_some_iff]
  refine ⟨_, split_trim_line writable defaults.writable, ?_⟩
  rw [keyOf_of_opens opens]
  exact Schema.declares_columnsBehind lettered declares defaults

/-- A schema whose parameters are read from their lines is read from its file. -/
theorem read_contentOf {texts : Declaration → String}
    (accepted : Schema.read tool text kind = .ok schema)
    (counted : Schema.contentLines (contentOf texts schema.declarations) =
      (schema.declarations.map fun declaration =>
        Text.trim (line declaration (texts declaration))) ++ [modeLine])
    (each : ∀ declaration ∈ schema.declarations,
      Schema.readLine tool (Text.trim (line declaration (texts declaration))) =
        .ok (some declaration.rewritten)) :
    Schema.read tool (contentOf texts schema.declarations) kind = .ok schema.rewritten := by
  obtain ⟨declarations, _, distinct, parts⟩ := Schema.parts_of_read accepted
  have required : ((schema.declarations.map Declaration.rewritten).filter fun declaration =>
      declaration.required) = schema.required.map Declaration.rewritten := by
    have given : schema.declarations.filter (fun declaration => declaration.required) =
        schema.required := by
      rw [parts]
      simp [Schema.declarations, List.filter_filter]
    rw [List.filter_map, ← given]
    rfl
  have optional : ((schema.declarations.map Declaration.rewritten).filter fun declaration =>
      !declaration.required) = schema.optional.map Declaration.rewritten := by
    have given : schema.declarations.filter (fun declaration => !declaration.required) =
        schema.optional := by
      rw [parts]
      simp [Schema.declarations, List.filter_filter]
    rw [List.filter_map, ← given]
    rfl
  have readAll := readLines_lines each
  rw [← counted] at readAll
  have unrepeated : Schema.firstRepeated? [] schema.rewritten.names = none := by
    rw [Schema.names_rewritten]
    exact Schema.firstRepeated?_of_nodup distinct fun _ _ => List.not_mem_nil
  have again : ({ name := tool, kind, executable := none
                  required := schema.required.map Declaration.rewritten
                  optional := schema.optional.map Declaration.rewritten } : Schema) =
      schema.rewritten := by
    rw [parts]
    rfl
  unfold Schema.read
  simp only [readAll, Outcome.ok_bind, required, optional, again, unrepeated]
  rfl

theorem valueText?_eq_of_same {declaration : Declaration} {stored other : Stored}
    (same : stored.Same other) : valueText? declaration stored = valueText? declaration other := by
  cases same with
  | redirect target => rfl
  | literal values =>
      rcases values.cases with rfl | ⟨number, otherNumber, rfl, rfl, settles⟩
      · rfl
      · have text : number.text = otherNumber.text := Number.text_eq_of_settled settles
        cases type : declaration.type <;> simp [valueText?, type, Scalar.shown, text]

theorem modeColumn_rewritten (declaration : Declaration) :
    modeColumn declaration.rewritten = modeColumn declaration := by
  have filled : modeColumn declaration ≠ "" := by
    unfold modeColumn
    split
    · cases declaration.required <;> decide
    · assumption
  exact if_neg filled

theorem line_rewritten (declaration : Declaration) (text : String) :
    line declaration.rewritten text = line declaration text := by
  have limits : limitColumns declaration.rewritten.constraint =
      limitColumns declaration.constraint := limitColumns_rewritten declaration.constraint
  unfold line
  rw [limits, modeColumn_rewritten]
  rfl

theorem contentOf_rewritten (schema : Schema) :
    contentOf defaultText schema.rewritten.declarations =
      contentOf defaultText schema.declarations := by
  have sameLine : ∀ declaration : Declaration,
      line declaration.rewritten (defaultText declaration.rewritten) =
        line declaration (defaultText declaration) := by
    intro declaration
    have sameText : defaultText declaration.rewritten = defaultText declaration :=
      congrArg (Option.getD · "") (valueText?_eq_of_same declaration.same_rewritten).symm
    rw [sameText, line_rewritten]
  rw [contentOf, contentOf, Schema.declarations_rewritten, List.map_map]
  congr 2
  exact List.map_congr_left fun declaration _ => sameLine declaration

/-- The file of the defaults of a schema declares the same schema, and it is the file of
the defaults of that schema. -/
theorem read_of_save_defaults (accepted : Schema.read tool text kind = .ok schema)
    (lettered : ∀ declaration ∈ schema.declarations, declaration.type.IsLettered)
    (opens : ∀ declaration ∈ schema.declarations, Opens declaration.name)
    (names : ∀ declaration ∈ schema.declarations, Columns.IsBare declaration.name.toList)
    (modes : ∀ declaration ∈ schema.declarations, Columns.IsBare declaration.mode.toList)
    (limits : ∀ declaration ∈ schema.declarations,
      Columns.IsBare (limitColumns declaration.constraint).1.toList ∧
        Columns.IsBare (limitColumns declaration.constraint).2.toList)
    (targets : ∀ declaration ∈ schema.declarations, declaration.type.isText = false →
      ∀ target, Stored.ofRaw declaration.default = .redirect target →
        Columns.IsBare target.toList) :
    ∃ content, SavesAs (Store.fresh schema) content ∧
      Schema.read tool content kind = .ok schema.rewritten ∧
      SavesAs (Store.fresh schema.rewritten) content ∧
      ∀ declaration ∈ schema.declarations,
        (Stored.ofRaw declaration.default).Same (Stored.ofRaw declaration.rewritten.default) := by
  have legible := Schema.legible_of_read accepted lettered names modes limits
  have sound := Schema.sound_of_read accepted
  have defaults : ∀ declaration ∈ schema.declarations,
      Schema.Defaults tool declaration.name declaration (defaultText declaration) := by
    intro declaration declared
    obtain ⟨columns, lines, declares⟩ := Schema.exists_declares accepted declared
    obtain ⟨text, defaults⟩ := @Schema.exists_defaults tool declaration.name _ declaration
      (Schema.isDefault_of_readDefault (lettered _ declared) declares.default)
      (Schema.isLine_getD lines 3) (targets _ declared)
    have same : defaultText declaration = text := by
      rw [defaultText, defaults.held, Option.getD_some]
    exact same ▸ defaults
  have writable : ∀ declaration ∈ schema.declarations, Writable declaration ∧
      WritableText declaration (defaultText declaration) :=
    fun declaration declared =>
      ⟨writable_of_legible legible sound declared, (defaults _ declared).writable⟩
  have readsAgain : Schema.read tool (contentOf defaultText schema.declarations) kind =
      .ok schema.rewritten := by
    apply read_contentOf accepted (contentLines_of_opens writable opens)
    intro declaration declared
    obtain ⟨columns, _, declares⟩ := Schema.exists_declares accepted declared
    exact readLine_line (writable _ declared).1 (opens _ declared) (lettered _ declared) declares
      (defaults _ declared)
  refine ⟨_, savesAs_fresh sound.distinct fun _ declared => (defaults _ declared).held,
    readsAgain, ?_, fun declaration _ => declaration.same_rewritten⟩
  rw [← contentOf_rewritten]
  apply savesAs_fresh (Schema.sound_of_read readsAgain).distinct
  intro again declared
  rw [Schema.declarations_rewritten] at declared
  obtain ⟨declaration, isBefore, rfl⟩ := List.mem_map.mp declared
  have isHeld := (defaults _ isBefore).held
  rw [valueText?_eq_of_same declaration.same_rewritten] at isHeld
  exact isHeld.trans (congrArg some (congrArg (Option.getD · "") isHeld).symm)

/-- What a camera file declares: choices among numbers, a limit that another parameter
sets, and a default that is a redirect. -/
def camera : Schema :=
  { name := "camera", kind := .parameterFile, executable := none
    required := [
      { name := "frames", type := .integer, help := "", default := .number (.ofNat 3),
        required := true, mode := "a", constraint := some (.options ["1", "2", "3"]) }]
    optional := [
      { name := "exposure", type := .real, help := "seconds", default := .number (.zero true),
        required := false, mode := "", constraint := some (.range .unbounded (.text ")frames")) },
      { name := "title", type := .string, help := "a, b", default := .text ") exposure",
        required := false, mode := "h", constraint := none }] }

theorem read_of_save_defaults_camera :
    ∃ content, SavesAs (Store.fresh camera) content ∧
      Schema.read "camera" content .parameterFile = .ok camera.rewritten ∧
      SavesAs (Store.fresh camera.rewritten) content ∧
      ∀ declaration ∈ camera.declarations,
        (Stored.ofRaw declaration.default).Same (Stored.ofRaw declaration.rewritten.default) := by
  have accepted : Schema.read "camera"
      ("exposure,r,,-0,INDEF,)frames, seconds\n# choices\nframes,i,a,3,1|2|3\n" ++
        "mode,s,h,ql,,,\ntitle,s,h,\") exposure\",,,\"a, b\"") .parameterFile = .ok camera := by
    decide +kernel
  have noTargets : ∀ declaration ∈ camera.declarations, declaration.type.isText = false →
      ∃ value, declaration.default = .number value := by
    intro declaration declared textless
    simp only [Schema.declarations, camera, List.mem_append, List.mem_cons, List.not_mem_nil,
      or_false] at declared
    rcases declared with rfl | rfl | rfl
    · exact ⟨_, rfl⟩
    · exact ⟨_, rfl⟩
    · cases textless
  refine read_of_save_defaults accepted (by decide +kernel) (by decide +kernel)
    (by decide +kernel) (by decide +kernel) (by decide +kernel) ?_
  intro declaration declared textless target redirect
  obtain ⟨value, isNumber⟩ := noTargets declaration declared textless
  rw [isNumber] at redirect
  cases redirect

end ParameterFile

end ToolParams
