import ToolParams.Proofs.Files.Separate
import ToolParams.Proofs.ParameterFile.RoundTrip
import ToolParams.Proofs.ParameterFile.StackFiles
import ToolParams.Proofs.Store.Lookup

/-!
# Values that go through stack files

A value whose text is over the limit is written to a stack file, and its line refers to
that file.  When the files of a store have places of their own, the reader finds the
reference and the elements of the text, so the parameter gets the value that the elements
stand for.  That is the value itself just if its text is tidy.
-/

namespace ToolParams.ParameterFile

section Writing

variable {limit : Number} {store : Store} {path : String} {declaration : Declaration}
  {declarations : List Declaration} {world after : World} {overflow final : Overflow}
  {text : String} {paths : List String}

theorem toList_stackPath (path name : String) :
    (stackPath path name).toList = path.toList ++ '.' :: name.toList ++ ".stk".toList := by
  simp [stackPath, toString]

theorem stackPath_inj {name other : String} (same : stackPath path name = stackPath path other) :
    name = other := by
  have characters := congrArg String.toList same
  rw [toList_stackPath, toList_stackPath, List.append_left_inj, List.append_right_inj] at characters
  exact String.toList_injective (List.cons.inj characters).2

theorem stackPath_ne (path name : String) : stackPath path name ≠ path := by
  intro same
  have lengths := congrArg (List.length ∘ String.toList) same
  simp only [Function.comp_apply, toList_stackPath, List.length_append, List.length_cons] at lengths
  omega

/-- Placing a value writes its stack file, if the text is over the limit, and nothing
otherwise; the line refers to that file, or has the text. -/
theorem placeValue_cases
    (placed : (placeValue limit store path declaration).perform world overflow =
      (.ok text, after, final)) :
    ∃ held, valueText? declaration (store.entry declaration.name) = some held ∧
      ((exceeds limit held = false ∧ text = held ∧ after = world ∧ final = overflow) ∨
        (exceeds limit held = true ∧ text = stackReference (stackPath path declaration.name) ∧
          final = overflow.insert declaration.name (stackPath path declaration.name) ∧
          world.files.write (stackPath path declaration.name) (stackContent held) =
            .ok after.files)) := by
  unfold placeValue at placed
  cases isHeld : valueText? declaration (store.entry declaration.name) with
  | none =>
      rw [isHeld] at placed
      cases placed
  | some held =>
      refine ⟨held, rfl, ?_⟩
      rw [isHeld] at placed
      cases long : exceeds limit held with
      | false =>
          simp only [long, Bool.false_eq_true, if_false, Action.perform_pure] at placed
          cases placed
          exact .inl ⟨rfl, rfl, rfl, rfl⟩
      | true =>
          simp only [long, if_true, Action.perform_bind, perform_writeFile] at placed
          cases written : world.files.write (stackPath path declaration.name)
              (stackContent held) with
          | error fault =>
              rw [written] at placed
              cases placed
          | ok files =>
              rw [written] at placed
              cases placed
              exact .inr ⟨rfl, rfl, rfl, rfl⟩

theorem placeLines_cons_cases {rest : List Declaration} {lines : List String}
    (placed : (placeLines limit store path (declaration :: rest)).perform world overflow =
      (.ok lines, after, final)) :
    ∃ text others middle grown,
      (placeValue limit store path declaration).perform world overflow =
          (.ok text, middle, grown) ∧
        (placeLines limit store path rest).perform middle grown = (.ok others, after, final) ∧
        lines = line declaration text :: others := by
  unfold placeLines at placed
  rw [Action.perform_bind] at placed
  rcases first : (placeValue limit store path declaration).perform world overflow with
    ⟨failure | text, middle, grown⟩
  · rw [first] at placed
    cases placed
  rw [first] at placed
  simp only [Action.perform_bind] at placed
  rcases later : (placeLines limit store path rest).perform middle grown with
    ⟨failure | others, last, complete⟩
  · rw [later] at placed
    cases placed
  rw [later] at placed
  cases placed
  exact ⟨text, others, middle, grown, rfl, later, rfl⟩

/-- A store is written by placing its lines, and then writing them to its file. -/
theorem write_cases
    (writes : (write limit store path).perform world overflow = (.ok (), after, final)) :
    ∃ lines middle,
      (placeLines limit store path store.declarations).perform world overflow =
          (.ok lines, middle, final) ∧
        middle.files.write path ("\n".intercalate (lines ++ [modeLine, ""])) =
          .ok after.files := by
  unfold write at writes
  rw [Action.perform_bind] at writes
  rcases placed : (placeLines limit store path store.declarations).perform world overflow with
    ⟨failure | lines, middle, grown⟩
  · rw [placed] at writes
    cases writes
  rw [placed] at writes
  simp only [Action.perform_bind, perform_writeFile] at writes
  cases written : middle.files.write path ("\n".intercalate (lines ++ [modeLine, ""])) with
  | error fault =>
      rw [written] at writes
      cases writes
  | ok files =>
      rw [written] at writes
      cases writes
      exact ⟨lines, middle, rfl, written⟩

/-- The overflow holds the stack files of just the parameters whose texts are over the
limit, and each of these files has the elements of its text. -/
structure Stacks (limit : Number) (store : Store) (path : String)
    (declarations : List Declaration) (files : FileTree) (overflow : Overflow) : Prop where
  long : ∀ declaration ∈ declarations, ∀ text,
    valueText? declaration (store.entry declaration.name) = some text →
      exceeds limit text = true →
        overflow.get? declaration.name = some (stackPath path declaration.name) ∧
          files.Holds (stackPath path declaration.name) (stackContent text)
  short : ∀ declaration ∈ declarations, ∀ text,
    valueText? declaration (store.entry declaration.name) = some text →
      exceeds limit text = false → overflow.get? declaration.name = none

/-- Placing some parameters: they get their stack files, and nothing changes for others. -/
structure Placed (limit : Number) (store : Store) (path : String) (paths : List String)
    (declarations : List Declaration) (before after : World × Overflow) : Prop where
  separate : after.1.files.Separate paths
  stackFiles : Stacks limit store path declarations after.1.files after.2
  others : ∀ name ∉ declarations.map Declaration.name, after.2.get? name = before.2.get? name
  kept : ∀ name ∉ declarations.map Declaration.name, stackPath path name ∈ paths →
    ∀ content, before.1.files.Holds (stackPath path name) content →
      after.1.files.Holds (stackPath path name) content

theorem placed_placeValue (separate : world.files.Separate paths)
    (covered : ∀ stack ∈ stacksOf limit store path [declaration], stack ∈ paths)
    (unplaced : overflow.get? declaration.name = none)
    (placed : (placeValue limit store path declaration).perform world overflow =
      (.ok text, after, final)) :
    Placed limit store path paths [declaration] (world, overflow) (after, final) := by
  obtain ⟨held, isHeld, ⟨short, _, rfl, rfl⟩ | ⟨long, _, rfl, written⟩⟩ := placeValue_cases placed
  · refine
      { separate
        stackFiles := ⟨?_, ?_⟩
        others := fun _ _ => rfl
        kept := fun _ _ _ _ holds => holds }
    · intro other member otherText isText long
      cases List.mem_singleton.mp member
      cases isHeld.symm.trans isText
      rw [short] at long
      cases long
    · intro other member _ _ _
      cases List.mem_singleton.mp member
      exact unplaced
  · have isStack : stackPath path declaration.name ∈ paths :=
      covered _ (by simp [stacksOf, isHeld, long])
    refine
      { separate := separate.write written
        stackFiles := ⟨?_, ?_⟩
        others := ?_
        kept := ?_ }
    · intro other member otherText isText _
      cases List.mem_singleton.mp member
      cases isHeld.symm.trans isText
      exact ⟨by rw [OrderedMap.get?_insert, if_pos rfl], FileTree.holds_write written⟩
    · intro other member otherText isText short
      cases List.mem_singleton.mp member
      cases isHeld.symm.trans isText
      rw [long] at short
      cases short
    · intro name outside
      have different : declaration.name ≠ name :=
        fun same => outside (List.mem_singleton.mpr same.symm)
      rw [OrderedMap.get?_insert, if_neg different]
    · intro name outside isPath content holds
      refine separate.holds_write isStack written isPath (fun same => ?_) holds
      exact outside (List.mem_singleton.mpr (stackPath_inj same))

theorem Placed.cons {rest : List Declaration} {before middle after : World × Overflow}
    (here : Placed limit store path paths [declaration] before middle)
    (behind : Placed limit store path paths rest middle after)
    (covered : ∀ stack ∈ stacksOf limit store path [declaration], stack ∈ paths)
    (apart : declaration.name ∉ rest.map Declaration.name) :
    Placed limit store path paths (declaration :: rest) before after := by
  have kept := behind.others declaration.name apart
  refine
    { separate := behind.separate
      stackFiles := ⟨?_, ?_⟩
      others := ?_
      kept := ?_ }
  · intro other member text isText long
    rcases List.mem_cons.mp member with rfl | later
    · obtain ⟨isStack, holds⟩ := here.stackFiles.long other List.mem_cons_self text isText long
      have isPath := covered (stackPath path other.name) (by simp [stacksOf, isText, long])
      -- Later parameters have other names, so none of them writes to this stack file again.
      exact ⟨kept.trans isStack, behind.kept _ apart isPath _ holds⟩
    · exact behind.stackFiles.long other later text isText long
  · intro other member text isText short
    rcases List.mem_cons.mp member with rfl | later
    · exact kept.trans (here.stackFiles.short other List.mem_cons_self text isText short)
    · exact behind.stackFiles.short other later text isText short
  · intro name outside
    rw [List.map_cons, List.mem_cons, not_or] at outside
    rw [behind.others name outside.2, here.others name (by simpa using outside.1)]
  · intro name outside isPath content holds
    rw [List.map_cons, List.mem_cons, not_or] at outside
    exact behind.kept name outside.2 isPath content
      (here.kept name (by simpa using outside.1) isPath content holds)

/-- When the paths are separate, every placed parameter has its stack file at the end. -/
theorem placed_placeLines {lines : List String} (separate : world.files.Separate paths)
    (covered : ∀ stack ∈ stacksOf limit store path declarations, stack ∈ paths)
    (distinct : (declarations.map Declaration.name).Nodup)
    (unplaced : ∀ declaration ∈ declarations, overflow.get? declaration.name = none)
    (placed : (placeLines limit store path declarations).perform world overflow =
      (.ok lines, after, final)) :
    Placed limit store path paths declarations (world, overflow) (after, final) := by
  induction declarations generalizing world overflow lines with
  | nil =>
      cases placed
      exact
        { separate
          stackFiles := ⟨fun _ member => absurd member List.not_mem_nil,
            fun _ member => absurd member List.not_mem_nil⟩
          others := fun _ _ => rfl
          kept := fun _ _ _ _ holds => holds }
  | cons declaration rest induction =>
      rw [stacksOf_cons] at covered
      obtain ⟨apart, distinctRest⟩ := List.nodup_cons.mp distinct
      obtain ⟨_, _, middle, grown, first, later, rfl⟩ := placeLines_cons_cases placed
      have coveredHere := fun stack member => covered stack (List.mem_append_left _ member)
      have coveredRest := fun stack member => covered stack (List.mem_append_right _ member)
      have here := placed_placeValue separate coveredHere (unplaced _ List.mem_cons_self) first
      have unplacedRest : ∀ other ∈ rest, grown.get? other.name = none := by
        intro other member
        have different : other.name ∉ [declaration].map Declaration.name := by
          intro same
          exact apart (List.mem_singleton.mp same ▸ List.mem_map_of_mem member)
        exact (here.others other.name different).trans
          (unplaced other (List.mem_cons_of_mem _ member))
      exact here.cons (induction here.separate coveredRest distinctRest unplacedRest later)
        coveredHere apart

def lineText (limit : Number) (store : Store) (path : String) (declaration : Declaration) :
    String :=
  (lineText? limit store path declaration).getD ""

theorem lines_of_linesOf? {lines : List String}
    (listed : linesOf? limit store path declarations = some lines) :
    lines = declarations.map fun declaration =>
      line declaration (lineText limit store path declaration) := by
  induction declarations generalizing lines with
  | nil =>
      cases listed
      rfl
  | cons declaration rest induction =>
      unfold linesOf? at listed
      obtain ⟨text, here, listed⟩ := Option.bind_eq_some_iff.mp listed
      obtain ⟨others, later, listed⟩ := Option.bind_eq_some_iff.mp listed
      cases listed
      rw [List.map_cons, ← induction later, lineText, here, Option.getD_some]

/-- After a store was written, its file has all lines, and the overflow all stack files. -/
theorem stacks_of_write (separate : world.files.Separate (outputs limit store path))
    (distinct : store.schema.names.Nodup)
    (saves : (write limit store path).perform world .empty = (.ok (), after, overflow)) :
    (∀ declaration ∈ store.declarations, HasText store declaration) ∧
      Stacks limit store path store.declarations after.files overflow ∧
      after.files.Holds path (contentOf (lineText limit store path) store.declarations) := by
  have nothing : ∀ stack : String, stack ∉ (OrderedMap.empty : Overflow).values :=
    fun _ => List.not_mem_nil
  obtain ⟨lines, middle, placed, written⟩ := write_cases saves
  obtain ⟨_, _, _, performed, _, texts⟩ :=
    perform_placeLines limit store store.declarations world
      (show Stacked path .empty by intro entry member; cases member)
      (show Nameable .empty by intro stack member; exact absurd member (nothing stack))
  cases placed.symm.trans performed
  have covered : ∀ stack ∈ stacksOf limit store path store.declarations,
      stack ∈ outputs limit store path := fun _ => List.mem_cons_of_mem _
  obtain ⟨separateThen, stackFiles, _, _⟩ := placed_placeLines separate covered distinct
    (fun _ _ => OrderedMap.get?_empty _) placed
  have listed := (texts lines rfl).1
  refine ⟨hasText_of_linesOf? listed, ⟨?_, stackFiles.short⟩, ?_⟩
  -- The parameter file is written last, at a place that no stack file has.
  · intro declaration declared text isText long
    obtain ⟨isStack, holds⟩ := stackFiles.long declaration declared text isText long
    have isPath : stackPath path declaration.name ∈ outputs limit store path := by
      refine covered _ (List.mem_map_of_mem ?_)
      exact List.mem_filter.mpr ⟨declared, by simp [isText, long]⟩
    exact ⟨isStack, separateThen.holds_write List.mem_cons_self written isPath
      (stackPath_ne path _) holds⟩
  · rw [contentOf, ← lines_of_linesOf? listed]
    exact FileTree.holds_write written

end Writing

section Values

variable {store : Store} {declaration : Declaration} {text : String}

theorem toText_ofText (text : String) :
    Coerce.toText (.ofText text) = if text = "" then .null else .text text := rfl

/-- The input of a text parameter that has no options. -/
theorem check_ofText (isText : declaration.type.isText = true)
    (free : ∀ choices, declaration.constraint ≠ some (.options choices))
    (plain : Redirect.isWritten text = false) :
    store.check declaration (.ofText text) = .ok (.literal (Coerce.toText (.ofText text))) := by
  have unlimited : ∀ resolver, Constraint.check store.tool declaration resolver
      (Coerce.toText (.ofText text)) = .ok (Coerce.toText (.ofText text)) := by
    intro resolver
    rw [toText_ofText]
    cases constrained : declaration.constraint with
    | none => simp [Constraint.check, constrained]
    | some constraint =>
        cases constraint with
        | options choices => exact absurd constrained (free choices)
        | range low high =>
            by_cases empty : text = ""
            · simp [Constraint.check, constrained, empty]
            · simp [Constraint.check, constrained, empty]
  unfold Store.check
  rw [Redirect.ofInput?_ofText plain, coerce_textual isText]
  simp only [Outcome.ok_bind, unlimited]
  rfl

theorem toText_ofText_inj {other : String}
    (same : Coerce.toText (.ofText text) = Coerce.toText (.ofText other)) : text = other := by
  rw [toText_ofText, toText_ofText] at same
  split at same <;> split at same <;> simp_all

theorem eq_redirect_of_check {input : Input} {target : String} {stored : Stored}
    (written : Redirect.ofInput? input = some target)
    (accepted : store.check declaration input = .ok stored) : stored = .redirect target := by
  unfold Store.check at accepted
  rw [written] at accepted
  obtain ⟨_, _, accepted⟩ := Outcome.bind_eq_ok_iff.mp accepted
  obtain ⟨_, _, accepted⟩ := Outcome.bind_eq_ok_iff.mp accepted
  obtain ⟨_, _, stores⟩ := Outcome.bind_eq_ok_iff.mp accepted
  cases stores
  rfl

theorem eq_of_check_ofText {other : String} (isText : declaration.type.isText = true)
    (free : ∀ choices, declaration.constraint ≠ some (.options choices))
    (accepted : store.check declaration (.ofText text) =
      .ok (.literal (Coerce.toText (.ofText other)))) : text = other := by
  cases written : Redirect.isWritten text with
  | true =>
      have isRedirect : Redirect.ofInput? (.ofText text) = some (Redirect.target text) := by
        simp [Redirect.ofInput?, Input.ofText, written]
      cases eq_redirect_of_check isRedirect accepted
  | false =>
      rw [check_ofText isText free written] at accepted
      exact toText_ofText_inj (Stored.literal.inj (Except.ok.inj accepted))

end Values

section RoundTrip

variable {limit : Number} {store : Store} {path : String} {declaration : Declaration}
  {overflow : Overflow} {text : String}

theorem isPlain_stackReference {name : String} (plainPath : IsPlain path)
    (plainName : IsPlain name) : IsPlain (stackReference (stackPath path name)) := by
  have characters : (stackReference (stackPath path name)).toList =
      stackMark.toList ++ (path.toList ++ '.' :: name.toList ++ ".stk".toList) := by
    rw [stackReference, String.toList_append, toList_stackPath]
  have mark : IsPlain stackMark := by decide
  have ending : IsPlain ".stk" := by decide
  unfold IsPlain Columns.IsBare IsLine at *
  simp only [characters, List.mem_append, List.mem_cons, not_or]
  refine ⟨⟨?_, ?_⟩, ?_⟩
  · exact ⟨mark.1.1, ⟨plainPath.1.1, by decide, plainName.1.1⟩, ending.1.1⟩
  · exact ⟨mark.1.2, ⟨plainPath.1.2, by decide, plainName.1.2⟩, ending.1.2⟩
  · exact ⟨mark.2, ⟨plainPath.2, by decide, plainName.2⟩, ending.2⟩

theorem lineText_eq
    (held : valueText? declaration (store.entry declaration.name) = some text) :
    lineText limit store path declaration =
      if exceeds limit text then stackReference (stackPath path declaration.name) else text := by
  rw [lineText, lineText?, held]
  rfl

theorem writableText_lineText (plainName : IsPlain declaration.name)
    (held : valueText? declaration (store.entry declaration.name) = some text)
    (writable : WritableText declaration text)
    (plainPath : exceeds limit text = true → IsPlain path) :
    WritableText declaration (lineText limit store path declaration) := by
  rw [lineText_eq held]
  split
  · rename_i long
    have isPlain := isPlain_stackReference (plainPath long) plainName
    exact ⟨isPlain.2, fun _ => isPlain.1⟩
  · exact writable

/-- The text that comes back when a text was written with a limit. -/
def returned (limit : Number) (text : String) : String :=
  if exceeds limit text then stackText (stackContent text) else text

theorem returned_eq_iff (isLine : IsLine text) :
    returned limit text = text ↔ exceeds limit text = false ∨ IsTidy text := by
  unfold returned
  by_cases long : exceeds limit text = true
  · rw [if_pos long, stackText_stackContent_eq_iff isLine, long]
    simp
  · simp [long]

/-- What a reader makes of the line of a text parameter is what it makes of the text that
comes back. -/
theorem check_inputFrom {files : FileTree} {declarations : List Declaration} {midway : Store}
    {input : Input} {stored : Stored}
    (stackFiles : Stacks limit store path declarations files overflow)
    (declared : declaration ∈ declarations)
    (held : valueText? declaration (store.entry declaration.name) = some text)
    (taken : inputFrom files overflow declaration (lineText limit store path declaration) =
      .ok input)
    (accepted : midway.check declaration input = .ok stored) :
    midway.check declaration (.ofText (returned limit text)) = .ok stored := by
  rw [lineText_eq held] at taken
  unfold inputFrom at taken
  unfold returned
  by_cases long : exceeds limit text = true
  · obtain ⟨isStack, holds⟩ := stackFiles.long declaration declared text held long
    simp only [isStack, long, if_true] at taken
    obtain ⟨content, reads, rfl⟩ := Outcome.map_eq_ok_iff.mp taken
    rw [holds.eq_of_read (Outcome.mapError_eq_ok_iff.mp reads)] at accepted
    rw [if_pos long]
    exact accepted
  · have isFree := stackFiles.short declaration declared text held (Bool.not_eq_true _ ▸ long)
    simp only [isFree, if_neg long] at taken
    cases taken
    rw [if_neg long, ← check_plainInput]
    exact accepted

/-- A text parameter that was written and read back holds what was accepted for the text
that comes back. -/
theorem exists_check_of_read {world after noted : World} {target final : Store}
    (legible : store.schema.Legible) (sound : store.schema.Sound)
    (texts : ∀ declaration ∈ store.declarations, ∀ text,
      valueText? declaration (store.entry declaration.name) = some text →
        WritableText declaration text ∧ (exceeds limit text = true → IsPlain path))
    (declared : declaration ∈ store.declarations)
    (listed : isListed declaration.name = true)
    (apart : ∀ other ∈ store.declarations, keyOf other.name = declaration.name →
      other.name = declaration.name)
    (held : valueText? declaration (store.entry declaration.name) = some text)
    (separate : world.files.Separate (outputs limit store path))
    (saves : (write limit store path).perform world .empty = (.ok (), after, overflow))
    (sameSchema : target.schema = store.schema)
    (reads : (read path overflow).perform after target = (.ok (), noted, final)) :
    ∃ midway : Store, midway.schema = store.schema ∧
      midway.check declaration (.ofText (returned limit text)) =
        .ok (final.entry declaration.name) := by
  obtain ⟨hasTexts, stackFiles, holds⟩ := stacks_of_write separate sound.distinct saves
  have writable : ∀ other ∈ store.declarations,
      WritableText other (lineText limit store path other) := by
    intro other isOther
    obtain ⟨otherText, isHeld⟩ := hasTexts other isOther
    obtain ⟨writableText, plainPath⟩ := texts other isOther otherText isHeld
    exact writableText_lineText (legible.name other isOther) isHeld writableText plainPath
  obtain ⟨found, isContent, _, finds⟩ := contents_of_writable legible sound writable
  have ended := readFrom_of_read reads
  obtain ⟨contents, loaded, ended⟩ := Outcome.bind_eq_ok_iff.mp ended
  obtain ⟨content, isRead, loaded⟩ := Outcome.bind_eq_ok_iff.mp loaded
  cases holds.eq_of_read (Outcome.mapError_eq_ok_iff.mp isRead)
  cases isContent.symm.trans (Outcome.mapError_eq_ok_iff.mp loaded)
  have isDeclared : declaration ∈ target.declarations := by
    rw [Store.declarations, sameSchema]
    exact declared
  have distinct : target.schema.names.Nodup := sameSchema ▸ sound.distinct
  obtain ⟨midway, input, midwaySchema, taken, accepted⟩ :=
    exists_check_of_assignFrom distinct (fun _ member => member) distinct isDeclared
      (finds declaration declared listed apart) ended
  exact ⟨midway, midwaySchema.trans sameSchema,
    check_inputFrom stackFiles declared held taken accepted⟩

theorem stacksOf_infinity (store : Store) (path : String) (declarations : List Declaration) :
    stacksOf (.infinity false) store path declarations = [] := by
  rw [stacksOf, List.filter_eq_nil_iff.mpr, List.map_nil]
  intro declaration _
  cases valueText? declaration (store.entry declaration.name) with
  | none => exact Bool.false_ne_true
  | some text =>
      rw [Option.any_some, exceeds_infinity]
      exact Bool.false_ne_true

theorem returned_infinity (text : String) : returned (.infinity false) text = text := by
  rw [returned, exceeds_infinity, if_neg Bool.false_ne_true]

/-- A text value that is over the limit comes back from its stack file as it comes back from
its line, if its elements are tidy; otherwise it comes back as another value, unless options
complete it. -/
theorem entry_eq_iff_tidy {world worldToo after afterToo noted notedToo : World}
    {overflowToo : Overflow} {pathToo value : String} {target targetToo fromStack fromLine : Store}
    (legible : store.schema.Legible) (sound : store.schema.Sound)
    (texts : ∀ declaration ∈ store.declarations, ∀ text,
      valueText? declaration (store.entry declaration.name) = some text →
        WritableText declaration text)
    (plainPath : IsPlain path)
    (declared : declaration ∈ store.declarations) (isText : declaration.type.isText = true)
    (listed : isListed declaration.name = true)
    (apart : ∀ other ∈ store.declarations, keyOf other.name = declaration.name →
      other.name = declaration.name)
    (holds : store.entry declaration.name = .literal (.text value))
    (plain : Redirect.isWritten value = false)
    (separate : world.files.Separate (outputs limit store path))
    (writes : (write limit store path).perform world .empty = (.ok (), after, overflow))
    (sameSchema : target.schema = store.schema)
    (reads : (read path overflow).perform after target = (.ok (), noted, fromStack))
    (saves : (save store pathToo).perform worldToo .empty = (.ok (), afterToo, overflowToo))
    (sameSchemaToo : targetToo.schema = store.schema)
    (readsToo : (read pathToo overflowToo).perform afterToo targetToo =
      (.ok (), notedToo, fromLine)) :
    (exceeds limit value = false ∨ IsTidy value →
        fromStack.entry declaration.name = fromLine.entry declaration.name) ∧
      ((∀ choices, declaration.constraint ≠ some (.options choices)) →
        fromStack.entry declaration.name = fromLine.entry declaration.name →
          exceeds limit value = false ∨ IsTidy value) := by
  have held : valueText? declaration (store.entry declaration.name) = some value := by
    rw [holds, valueText?_textual isText]
    rfl
  have isLine := (texts declaration declared value held).1
  unfold save at saves
  have separateToo : worldToo.files.Separate (outputs (.infinity false) store pathToo) := by
    rw [outputs, stacksOf_infinity]
    exact FileTree.separate_singleton _ _
  obtain ⟨midway, midwaySchema, accepted⟩ := exists_check_of_read legible sound
    (fun other isOther text isHeld => ⟨texts other isOther text isHeld, fun _ => plainPath⟩)
    declared listed apart held separate writes sameSchema reads
  obtain ⟨midwayToo, midwaySchemaToo, acceptedToo⟩ := exists_check_of_read legible sound
    (fun other isOther text isHeld => ⟨texts other isOther text isHeld, fun long =>
      absurd long (by rw [exceeds_infinity]; exact Bool.false_ne_true)⟩)
    declared listed apart held separateToo saves sameSchemaToo readsToo
  rw [returned_infinity] at acceptedToo
  constructor
  · intro tidy
    rw [(returned_eq_iff isLine).mpr tidy] at accepted
    exact Store.check_unique (midwaySchemaToo.trans midwaySchema.symm) accepted acceptedToo
  · intro free same
    apply (returned_eq_iff isLine).mp
    rw [check_ofText isText free plain] at acceptedToo
    rw [same, ← Except.ok.inj acceptedToo] at accepted
    exact eq_of_check_ofText isText free accepted

/-- A schema with one text. -/
def listing : Schema :=
  { name := "list", kind := .parameterFile, executable := none, required := []
    optional := [
      { name := "files", type := .string, help := "", default := .null,
        required := false, mode := "h", constraint := none }] }

def listOf (text : String) : Store :=
  (Store.fresh listing).put "files" (.literal (.text text))

/-- What is there after a list was written to a file. -/
def writtenList (limit : Number) (text : String) : Except Failure Unit × World × Overflow :=
  (write limit (listOf text) "list.par").perform .empty .empty

/-- What is there after a list was written to a file and read back. -/
def rereadList (limit : Number) (text : String) : Except Failure Unit × World × Store :=
  (read "list.par" (writtenList limit text).2.2).perform (writtenList limit text).2.1
    (Store.fresh listing)

theorem writtenList_eq (succeeds : (writtenList limit text).1 = .ok ()) :
    (write limit (listOf text) "list.par").perform .empty .empty =
      (.ok (), (writtenList limit text).2.1, (writtenList limit text).2.2) :=
  Action.perform_eq succeeds

theorem rereadList_eq (succeeds : (rereadList limit text).1 = .ok ()) :
    (read "list.par" (writtenList limit text).2.2).perform (writtenList limit text).2.1
        (Store.fresh listing) =
      (.ok (), (rereadList limit text).2.1, (rereadList limit text).2.2) :=
  Action.perform_eq succeeds

/-- Two elements without blanks come back from a stack file as from their line. -/
theorem entry_eq_iff_tidy_listing :
    exceeds (.ofNat 3) "ab,cd" = true ∧ (rereadList (.ofNat 3) "ab,cd").1 = .ok () ∧
      (rereadList (.infinity false) "ab,cd").1 = .ok () ∧
      (rereadList (.ofNat 3) "ab,cd").2.2.entry "files" =
        (rereadList (.infinity false) "ab,cd").2.2.entry "files" := by
  have accepted : Schema.read "list" "files,s,h,,,," .parameterFile = .ok listing := by
    decide +kernel
  have legible : listing.Legible :=
    ⟨by decide +kernel, by decide +kernel, by decide +kernel, by decide +kernel⟩
  have texts : ∀ declaration ∈ (listOf "ab,cd").declarations, ∀ text,
      valueText? declaration ((listOf "ab,cd").entry declaration.name) = some text →
        WritableText declaration text := by
    intro declaration declared text isHeld
    cases List.mem_singleton.mp declared
    cases isHeld
    exact ⟨by decide, fun other => by cases other⟩
  have separate : World.empty.files.Separate
      (outputs (.ofNat 3) (listOf "ab,cd") "list.par") := by
    have both : outputs (.ofNat 3) (listOf "ab,cd") "list.par" =
        ["list.par", "list.par.files.stk"] := by
      decide +kernel
    have first : World.empty.files.locate "list.par" .writable = .ok ["list.par"] := by
      decide +kernel
    have second : World.empty.files.locate "list.par.files.stk" .writable =
        .ok ["list.par.files.stk"] := by
      decide +kernel
    rw [both]
    exact FileTree.separate_pair (by rw [first, second]; decide)
  have writes := writtenList_eq (show (writtenList (.ofNat 3) "ab,cd").1 = .ok () by
    decide +kernel)
  have saves := writtenList_eq (show (writtenList (.infinity false) "ab,cd").1 = .ok () by
    decide +kernel)
  have isRead : (rereadList (.ofNat 3) "ab,cd").1 = .ok () := by decide +kernel
  have isReadToo : (rereadList (.infinity false) "ab,cd").1 = .ok () := by decide +kernel
  have sameSchema : (Store.fresh listing).schema = (listOf "ab,cd").schema := rfl
  have holds : (listOf "ab,cd").entry "files" = .literal (.text "ab,cd") := by decide +kernel
  have agree := entry_eq_iff_tidy legible (Schema.sound_of_read accepted) texts
    (show IsPlain "list.par" by decide) List.mem_cons_self rfl (by decide +kernel)
    (by decide +kernel) holds (by decide +kernel) separate writes sameSchema
    (rereadList_eq isRead) saves sameSchema (rereadList_eq isReadToo)
  exact ⟨by decide +kernel, isRead, isReadToo, agree.1 (.inr (by decide +kernel))⟩

/-- A blank behind a comma comes back from a line, but not from a stack file. -/
theorem entry_ne_listing :
    (writtenList (.ofNat 3) "a, b").1 = .ok () ∧ (rereadList (.ofNat 3) "a, b").1 = .ok () ∧
      (writtenList (.infinity false) "a, b").1 = .ok () ∧
      (rereadList (.infinity false) "a, b").1 = .ok () ∧
      (rereadList (.infinity false) "a, b").2.2.entry "files" = .literal (.text "a, b") ∧
      (rereadList (.ofNat 3) "a, b").2.2.entry "files" = .literal (.text "a,b") := by
  decide +kernel

end RoundTrip

end ToolParams.ParameterFile
