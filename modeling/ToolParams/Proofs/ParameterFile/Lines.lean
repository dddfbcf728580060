import ToolParams.ParameterFile.Contents
import ToolParams.ParameterFile.Line
import ToolParams.Proofs.ParameterFile.Columns
import ToolParams.Proofs.Text.Trimming

/-!
# Lines are read as they were written

A parameter is written as one line, and blanks in front of a line are lost.  So a line is
read under its name without the blanks in front, unless nothing is left of the name, or
what is left makes the line a comment.
-/

namespace ToolParams

def IsLine (text : String) : Prop :=
  '\n' ∉ text.toList

instance (text : String) : Decidable (IsLine text) :=
  inferInstanceAs (Decidable ('\n' ∉ text.toList))

def IsPlain (text : String) : Prop :=
  Columns.IsBare text.toList ∧ IsLine text

instance (text : String) : Decidable (IsPlain text) :=
  inferInstanceAs (Decidable (Columns.IsBare text.toList ∧ IsLine text))

/-- Whether a line that begins with a name stands for a parameter: the name begins with
a character that is neither blank nor makes a comment of the line. -/
def isListed (name : String) : Bool :=
  name.toList.head?.any fun head => head != '#' && !Text.isBlank head

namespace Columns

variable {written text : String}

theorem mem_of_mem_escape {character : Char} {characters : List Char}
    (member : character ∈ escape characters) :
    character = '\\' ∨ character ∈ characters := by
  induction characters with
  | nil => cases member
  | cons head characters induction =>
      unfold escape at member
      split at member
      · rcases List.mem_cons.mp member with isBackslash | behind
        · exact .inl isBackslash
        · rcases List.mem_cons.mp behind with isHead | later
          · exact .inr (isHead ▸ List.mem_cons_self)
          · exact (induction later).imp_right (List.mem_cons_of_mem _)
      · rcases List.mem_cons.mp member with isHead | later
        · exact .inr (isHead ▸ List.mem_cons_self)
        · exact (induction later).imp_right (List.mem_cons_of_mem _)

theorem isLine_quote (isLine : IsLine text) : IsLine (quote text) := by
  intro member
  rw [toList_quote, List.mem_cons, List.mem_append, List.mem_singleton] at member
  rcases member with isQuote | escaped | isQuote
  · exact absurd isQuote (by decide)
  · rcases mem_of_mem_escape escaped with isBackslash | inText
    · exact absurd isBackslash (by decide)
    · exact isLine inText
  · exact absurd isQuote (by decide)

theorem Written.isLine (isWritten : Written written text) (isLine : IsLine text) :
    IsLine written := by
  cases isWritten with
  | bare => exact isLine
  | quoted => exact isLine_quote isLine

theorem isLine_join {columns : List String} (lines : ∀ column ∈ columns, IsLine column) :
    IsLine (join columns) := by
  unfold IsLine join
  rw [String.toList_intercalate]
  induction columns with
  | nil => exact List.not_mem_nil
  | cons first columns induction =>
      have early := lines first List.mem_cons_self
      have later := induction fun column member => lines column (List.mem_cons_of_mem _ member)
      cases columns with
      | nil =>
          unfold IsLine at early
          simpa [List.intercalate] using early
      | cons second columns =>
          rw [List.map_cons, List.map_cons, List.intercalate_cons_cons]
          rw [List.map_cons] at later
          simp only [List.mem_append, not_or]
          exact ⟨⟨early, by decide⟩, later⟩

end Columns

namespace ParameterFile

open Columns (Written)

/-- The name that a line has without the blanks in front. -/
def keyOf (name : String) : String :=
  String.ofList (name.toList.dropWhile Text.isBlank)

theorem keyOf_of_isListed {name : String} (listed : isListed name = true) :
    keyOf name = name := by
  unfold isListed at listed
  cases begins : name.toList with
  | nil =>
      rw [begins] at listed
      cases listed
  | cons head rest =>
      rw [begins, List.head?_cons, Option.any_some, Bool.and_eq_true, Bool.not_eq_true'] at listed
      rw [keyOf, begins, List.dropWhile_cons, listed.2, if_neg Bool.false_ne_true, ← begins,
        String.ofList_toList]

/-- The columns of a line behind the name, with the texts that they are read as. -/
def columnsBehind (declaration : Declaration) (text : String) : Columns.Line :=
  let limits := limitColumns declaration.constraint
  [(declaration.type.letter, declaration.type.letter),
    (modeColumn declaration, modeColumn declaration),
    (if declaration.type.isText then Columns.quote text else text, text),
    (limits.1, limits.1), (limits.2, limits.2),
    (if declaration.help = "" then "" else Columns.quote declaration.help, declaration.help)]

/-- A declaration that can be written into a line. -/
structure Writable (declaration : Declaration) : Prop where
  name : IsPlain declaration.name
  mode : IsPlain (modeColumn declaration)
  low : IsPlain (limitColumns declaration.constraint).1
  high : IsPlain (limitColumns declaration.constraint).2
  help : IsLine declaration.help

/-- A text that can be written as the value of a parameter. -/
def WritableText (declaration : Declaration) (text : String) : Prop :=
  IsLine text ∧ (declaration.type.isText = false → Columns.IsBare text.toList)

instance (declaration : Declaration) (text : String) :
    Decidable (WritableText declaration text) :=
  inferInstanceAs (Decidable (IsLine text ∧
    (declaration.type.isText = false → Columns.IsBare text.toList)))

section Line

variable {declaration : Declaration} {text : String}

theorem line_eq (declaration : Declaration) (text : String) :
    line declaration text =
      Columns.join (declaration.name :: (columnsBehind declaration text).map Prod.fst) := rfl

theorem isPlain_empty : IsPlain "" := by
  decide

theorem isPlain_letter (type : ParameterType) : IsPlain type.letter := by
  cases type with
  | untyped word => exact isPlain_empty
  | _ => decide

/-- The columns behind the name are written so that they are read as their texts. -/
theorem written_columnsBehind (mode : Columns.IsBare (modeColumn declaration).toList)
    (low : Columns.IsBare (limitColumns declaration.constraint).1.toList)
    (high : Columns.IsBare (limitColumns declaration.constraint).2.toList)
    (bare : declaration.type.isText = false → Columns.IsBare text.toList) :
    ∀ column ∈ columnsBehind declaration text, Written column.1 column.2 := by
  intro column member
  simp only [columnsBehind, List.mem_cons, List.not_mem_nil, or_false] at member
  rcases member with rfl | rfl | rfl | rfl | rfl | rfl
  · exact .bare (isPlain_letter _).1
  · exact .bare mode
  · by_cases isText : declaration.type.isText = true
    · simp only [isText, if_true]
      exact .quoted text
    · rw [Bool.not_eq_true] at isText
      simp only [isText]
      exact .bare (bare isText)
  · exact .bare low
  · exact .bare high
  · by_cases helpless : declaration.help = ""
    · simp only [helpless, if_true]
      exact .bare isPlain_empty.1
    · simp only [helpless, if_false]
      exact .quoted _

theorem Writable.columns (writable : Writable declaration)
    (writableText : WritableText declaration text) :
    ∀ column ∈ columnsBehind declaration text, Written column.1 column.2 :=
  written_columnsBehind writable.mode.1 writable.low.1 writable.high.1 writableText.2

theorem isLine_columnsBehind (writable : Writable declaration)
    (writableText : WritableText declaration text) :
    ∀ column ∈ columnsBehind declaration text, IsLine column.2 := by
  intro column member
  simp only [columnsBehind, List.mem_cons, List.not_mem_nil, or_false] at member
  rcases member with rfl | rfl | rfl | rfl | rfl | rfl
  · exact (isPlain_letter _).2
  · exact writable.mode.2
  · exact writableText.1
  · exact writable.low.2
  · exact writable.high.2
  · exact writable.help

theorem split_named {name : String} (bare : Columns.IsBare name.toList)
    (written : ∀ column ∈ columnsBehind declaration text, Written column.1 column.2) :
    Columns.split (Columns.join (name :: (columnsBehind declaration text).map Prod.fst)) =
      .ok (name :: (columnsBehind declaration text).map Prod.snd) := by
  have allWritten : ∀ column ∈ (name, name) :: columnsBehind declaration text,
      Written column.1 column.2 := by
    intro column member
    rcases List.mem_cons.mp member with rfl | behind
    · exact .bare bare
    · exact written column behind
  have cut := Columns.split_join (List.cons_ne_nil _ _) allWritten
  rwa [List.map_cons, List.map_cons] at cut

/-- Reading undoes writing on a whole line: columns that are written bare or in quotes, with
commas between them, are cut into their texts, and so is the line of a parameter. -/
theorem split_line_of_bare :
    (∀ columns : Columns.Line, columns ≠ [] →
      (∀ column ∈ columns, Written column.1 column.2) →
      Columns.split (Columns.join (columns.map Prod.fst)) = .ok (columns.map Prod.snd)) ∧
    ∀ (declaration : Declaration) (text : String),
      Columns.IsBare declaration.name.toList → Columns.IsBare declaration.mode.toList →
      Columns.IsBare (limitColumns declaration.constraint).1.toList →
      Columns.IsBare (limitColumns declaration.constraint).2.toList →
      (declaration.type.isText = false → Columns.IsBare text.toList) →
      Columns.split (line declaration text) =
        .ok [declaration.name, declaration.type.letter, modeColumn declaration, text,
          (limitColumns declaration.constraint).1, (limitColumns declaration.constraint).2,
          declaration.help] := by
  refine ⟨fun columns => Columns.split_join, ?_⟩
  intro declaration text name mode low high bare
  have modeBare : Columns.IsBare (modeColumn declaration).toList := by
    unfold modeColumn
    split
    · split <;> decide
    · exact mode
  rw [line_eq]
  exact split_named name (written_columnsBehind modeBare low high bare)

/-- A text parameter with a help text. -/
def memo : Declaration :=
  { name := "memo", type := .string, help := "say \"when\"", default := .null, required := true,
    mode := "", constraint := some (.options ["now", "later"]) }

/-- Backslashes and quotes at the end of a quoted column do not reach into the next one. -/
theorem split_line_memo :
    Columns.split "x,\"a\\\\\",\"\\\",\"" = .ok ["x", "a\\", "\","] ∧
      Columns.split (line memo "a,\"b\\") =
        .ok ["memo", "s", "a", "a,\"b\\", "now|later", "", "say \"when\""] := by
  have written : ∀ column ∈ [("x", "x"), (Columns.quote "a\\", "a\\"),
      (Columns.quote "\",", "\",")], Written column.1 column.2 := by
    intro column member
    simp only [List.mem_cons, List.not_mem_nil, or_false] at member
    rcases member with rfl | rfl | rfl
    · exact .bare (by decide)
    · exact .quoted _
    · exact .quoted _
  exact ⟨split_line_of_bare.1 _ (List.cons_ne_nil _ _) written,
    split_line_of_bare.2 memo _ (by decide) (by decide) (by decide) (by decide) (by decide)⟩

theorem isLine_line (writable : Writable declaration)
    (writableText : WritableText declaration text) : IsLine (line declaration text) := by
  rw [line_eq]
  apply Columns.isLine_join
  intro column member
  rcases List.mem_cons.mp member with rfl | behind
  · exact writable.name.2
  · obtain ⟨_, isColumn, rfl⟩ := List.mem_map.mp behind
    exact (writable.columns writableText _ isColumn).isLine
      (isLine_columnsBehind writable writableText _ isColumn)

theorem toList_join_append (first : String) (columns : List String) (last : String) :
    (Columns.join (first :: columns ++ [last])).toList =
      (Columns.join (first :: columns)).toList ++ ',' :: last.toList := by
  induction columns generalizing first with
  | nil => simp [Columns.join]
  | cons second columns induction =>
      rw [List.cons_append, List.cons_append, Columns.toList_join_cons, Columns.toList_join_cons,
        ← List.cons_append, induction, List.append_assoc, List.cons_append]

/-- A line ends with a comma or a quote, so no blanks are lost at its end. -/
theorem exists_ending (declaration : Declaration) (text : String) :
    ∃ behind last, Text.isBlank last = false ∧
      ∀ name : String,
        (Columns.join (name :: (columnsBehind declaration text).map Prod.fst)).toList =
          name.toList ++ ',' :: (behind ++ [last]) := by
  let help := if declaration.help = "" then "" else Columns.quote declaration.help
  obtain ⟨first, columns, behindName⟩ : ∃ first columns,
      (columnsBehind declaration text).map Prod.fst = first :: columns ++ [help] :=
    ⟨_, [_, _, _, _], rfl⟩
  let front := (Columns.join (first :: columns)).toList
  have parts (name : String) :
      (Columns.join (name :: (columnsBehind declaration text).map Prod.fst)).toList =
        name.toList ++ ',' :: (front ++ ',' :: help.toList) := by
    rw [behindName, List.cons_append, Columns.toList_join_cons, ← List.cons_append,
      toList_join_append]
  by_cases helpless : declaration.help = ""
  · refine ⟨front, ',', by decide, ?_⟩
    intro name
    rw [parts, show help = "" from if_pos helpless, String.toList_empty]
  · refine ⟨front ++ ',' :: '"' :: Columns.escape declaration.help.toList, '"',
      by decide, ?_⟩
    intro name
    rw [parts, show help = Columns.quote declaration.help from if_neg helpless,
      Columns.toList_quote, List.append_assoc]
    rfl

theorem trim_line (declaration : Declaration) (text : String) :
    Text.trim (line declaration text) =
      Columns.join (keyOf declaration.name :: (columnsBehind declaration text).map Prod.fst) := by
  obtain ⟨behind, last, visible, ending⟩ := exists_ending declaration text
  apply String.toList_injective
  rw [Text.toList_trim, line_eq, ending, ending, ← List.cons_append, ← List.append_assoc,
    Text.trimChars_append_last visible, Text.dropWhile_append_cons (by decide), keyOf,
    String.toList_ofList, List.append_assoc, List.cons_append]

theorem isBare_keyOf {name : String} (plain : IsPlain name) :
    Columns.IsBare (keyOf name).toList := by
  have part : ∀ character ∈ (keyOf name).toList, character ∈ name.toList := by
    intro character member
    rw [keyOf, String.toList_ofList] at member
    exact (List.dropWhile_sublist _).subset member
  exact ⟨fun member => plain.1.1 (part _ member), fun member => plain.1.2 (part _ member)⟩

theorem split_trim_line (writable : Writable declaration)
    (writableText : WritableText declaration text) :
    Columns.split (Text.trim (line declaration text)) =
      .ok (keyOf declaration.name :: (columnsBehind declaration text).map Prod.snd) := by
  rw [trim_line]
  exact split_named (isBare_keyOf writable.name) (writable.columns writableText)

/-- Whether a line without blanks around it counts. -/
def counts (line : String) : Bool :=
  line ≠ "" && !Text.startsWith line "#"

theorem counts_eq {line : String} {head : Char} {rest : List Char}
    (begins : line.toList = head :: rest) : counts line = (head != '#') := by
  have filled : line ≠ "" := by
    rintro rfl
    cases begins
  have starts : Text.startsWith line "#" = ('#' == head) := by
    rw [Text.startsWith, begins]
    exact Bool.and_true _
  rw [counts, decide_eq_true filled, starts, Bool.true_and]
  by_cases comment : head = '#'
  · rw [comment]
    rfl
  · rw [beq_false_of_ne (Ne.symm comment), bne_iff_ne.mpr comment]
    rfl

/-- The contents after the line of a parameter. -/
def addLine (text : Declaration → String) (contents : Contents) (declaration : Declaration) :
    Contents :=
  if isListed (keyOf declaration.name) then
    contents.insert (keyOf declaration.name) (text declaration)
  else contents

theorem addLines_line (writable : Writable declaration)
    (text : Declaration → String) (writableText : WritableText declaration (text declaration))
    (contents : Contents) (rest : List String) :
    addLines contents
        ((Text.trim (line declaration (text declaration)) :: rest).filter counts) =
      addLines (addLine text contents declaration) (rest.filter counts) := by
  have columns := split_trim_line writable writableText
  obtain ⟨behind, last, _, ending⟩ := exists_ending declaration (text declaration)
  have characters := ending (keyOf declaration.name)
  rw [← trim_line] at characters
  unfold addLine isListed
  cases begins : (keyOf declaration.name).toList with
  | nil =>
      have nameless : keyOf declaration.name = "" := String.toList_eq_nil_iff.mp begins
      rw [begins, List.nil_append] at characters
      rw [List.filter_cons_of_pos (counts_eq characters), addLines, columns]
      simp [addColumns, nameless]
  | cons head rest =>
      have named : keyOf declaration.name ≠ "" := by
        intro nameless
        rw [nameless] at begins
        cases begins
      have visible : Text.isBlank head = false := by
        rw [keyOf, String.toList_ofList] at begins
        exact Text.head_dropWhile (by rw [begins, List.head?_cons])
      rw [begins, List.cons_append] at characters
      have counted := counts_eq characters
      by_cases comment : head = '#'
      · subst comment
        rw [List.filter_cons_of_neg (by rw [counted]; decide)]
        rfl
      · rw [List.filter_cons_of_pos (counted.trans (bne_iff_ne.mpr comment)), addLines, columns]
        simp [addColumns, named, visible, comment, columnsBehind]

end Line

section File

variable {declarations : List Declaration} {text : Declaration → String}

/-- The content of a file with the lines of some parameters. -/
def contentOf (text : Declaration → String) (declarations : List Declaration) : String :=
  "\n".intercalate
    ((declarations.map fun declaration => line declaration (text declaration)) ++ [modeLine, ""])

theorem isLine_modeLine : IsLine modeLine := by
  decide

theorem trim_modeLine : Text.trim modeLine = modeLine := by
  decide

theorem addLines_modeLine (contents : Contents) :
    addLines contents ([modeLine, ""].filter counts) =
      .ok (contents.insert "mode" silentMode) := by
  rfl

theorem addLines_lines
    (writable : ∀ declaration ∈ declarations,
      Writable declaration ∧ WritableText declaration (text declaration))
    (contents : Contents) (rest : List String) :
    addLines contents (((declarations.map fun declaration =>
        Text.trim (line declaration (text declaration))) ++ rest).filter counts) =
      addLines (declarations.foldl (addLine text) contents) (rest.filter counts) := by
  induction declarations generalizing contents with
  | nil => rfl
  | cons declaration declarations induction =>
      obtain ⟨first, firstText⟩ := writable declaration List.mem_cons_self
      rw [List.map_cons, List.cons_append, addLines_line first text firstText]
      exact induction (fun other member => writable other (List.mem_cons_of_mem _ member)) _

/-- The lines of a file of some parameters. -/
theorem contentLines_contentOf
    (writable : ∀ declaration ∈ declarations,
      Writable declaration ∧ WritableText declaration (text declaration)) :
    Schema.contentLines (contentOf text declarations) =
      ((declarations.map fun declaration => Text.trim (line declaration (text declaration))) ++
        [modeLine, ""]).filter counts := by
  have lines : ∀ piece ∈
      (declarations.map fun declaration => line declaration (text declaration)) ++
        [modeLine, ""], '\n' ∉ piece.toList := by
    intro piece member
    rcases List.mem_append.mp member with ofParameter | last
    · obtain ⟨declaration, declared, rfl⟩ := List.mem_map.mp ofParameter
      exact isLine_line (writable declaration declared).1 (writable declaration declared).2
    · rcases List.mem_cons.mp last with rfl | ending
      · exact isLine_modeLine
      · rcases List.mem_singleton.mp ending with rfl
        exact List.not_mem_nil
  have pieces : Text.split '\n' (contentOf text declarations) =
      (declarations.map fun declaration => line declaration (text declaration)) ++
        [modeLine, ""] :=
    Text.split_intercalate (by simp) lines
  rw [Schema.contentLines, pieces, List.map_append, List.map_map, List.map_cons, trim_modeLine]
  rfl

theorem contents_contentOf
    (writable : ∀ declaration ∈ declarations,
      Writable declaration ∧ WritableText declaration (text declaration)) :
    contents (contentOf text declarations) =
      .ok ((declarations.foldl (addLine text) .empty).insert "mode" silentMode) := by
  rw [contents, contentLines_contentOf writable, addLines_lines writable, addLines_modeLine]

theorem get?_addLine (contents : Contents) (declaration : Declaration) (name : String) :
    (addLine text contents declaration).get? name =
      if isListed (keyOf declaration.name) = true ∧ keyOf declaration.name = name then
        some (text declaration)
      else contents.get? name := by
  unfold addLine
  by_cases listed : isListed (keyOf declaration.name) = true
  · simp [listed]
  · simp [listed]

theorem get?_foldl_of_not_listed {name : String} (unlisted : isListed name = false)
    (contents : Contents) :
    (declarations.foldl (addLine text) contents).get? name = contents.get? name := by
  induction declarations generalizing contents with
  | nil => rfl
  | cons declaration declarations induction =>
      rw [List.foldl_cons, induction, get?_addLine, if_neg]
      rintro ⟨listed, rfl⟩
      rw [unlisted] at listed
      cases listed

theorem get?_foldl_of_apart {name : String}
    (apart : ∀ other ∈ declarations, keyOf other.name ≠ name) (contents : Contents) :
    (declarations.foldl (addLine text) contents).get? name = contents.get? name := by
  induction declarations generalizing contents with
  | nil => rfl
  | cons declaration declarations induction =>
      have later := induction fun other member => apart other (List.mem_cons_of_mem _ member)
      rw [List.foldl_cons, later, get?_addLine, if_neg]
      exact fun same => apart declaration List.mem_cons_self same.2

theorem get?_foldl_of_mem {declaration : Declaration} (declared : declaration ∈ declarations)
    (listed : isListed declaration.name = true)
    (apart : ∀ other ∈ declarations, keyOf other.name = declaration.name → other = declaration)
    (contents : Contents) :
    (declarations.foldl (addLine text) contents).get? declaration.name =
      some (text declaration) := by
  induction declarations generalizing contents with
  | nil => cases declared
  | cons first declarations induction =>
      rw [List.foldl_cons]
      by_cases again : declaration ∈ declarations
      · exact induction again
          (fun other member => apart other (List.mem_cons_of_mem _ member)) _
      · have isFirst : first = declaration :=
          ((List.mem_cons.mp declared).resolve_right again).symm
        subst isFirst
        rw [get?_foldl_of_apart, get?_addLine, keyOf_of_isListed listed, if_pos ⟨listed, rfl⟩]
        intro other member same
        exact again (apart other (List.mem_cons_of_mem _ member) same ▸ member)

end File

end ParameterFile

end ToolParams
