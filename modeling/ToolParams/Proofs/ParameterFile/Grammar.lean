import ToolParams.ParameterFile.Columns
import ToolParams.Proofs.Outcome

/-!
# The grammar of a line

A line is a list of columns with commas between them, and a column is a run of bare characters
with perhaps one quoted part behind it.  The reader takes exactly the lines of this grammar, and
gives the texts that the grammar gives.  In every other line some character other than a comma
stands directly behind a closing quote, or else a quoted part is not closed.
-/

namespace ToolParams.Columns

/-- A text that can stand bare in a line. -/
def IsBare (text : List Char) : Prop :=
  ',' ∉ text ∧ '"' ∉ text

instance (text : List Char) : Decidable (IsBare text) :=
  inferInstanceAs (Decidable (',' ∉ text ∧ '"' ∉ text))

/-- What stands behind an opening quote up to the closing one, which is included, and the text
of it.  A backslash in front of a quote or a backslash always makes a pair with it. -/
inductive Quoted : List Char → List Char → Prop where
  | close : Quoted ['"'] []
  | pair {character : Char} {written text : List Char} :
      character = '"' ∨ character = '\\' →
      Quoted written text →
      Quoted ('\\' :: character :: written) (character :: text)
  | single {character : Char} {written text : List Char} :
      character ≠ '"' →
      ¬(character = '\\' ∧ (written.head? = some '"' ∨ written.head? = some '\\')) →
      Quoted written text →
      Quoted (character :: written) (character :: text)

/-- What is written for a column, and its text. -/
inductive Field : List Char → List Char → Prop where
  | bare {run : List Char} : IsBare run → Field run run
  | quoted {run written text : List Char} :
      IsBare run → Quoted written text → Field (run ++ '"' :: written) (run ++ text)

/-- One column or more with commas between them, and their texts. -/
inductive Fields : List Char → List (List Char) → Prop where
  | last {written text : List Char} : Field written text → Fields written [text]
  | more {written text rest : List Char} {texts : List (List Char)} :
      Field written text → Fields rest texts → Fields (written ++ ',' :: rest) (text :: texts)

/-- Columns of which the last one ends with a closing quote. -/
inductive Closing : List Char → Prop where
  | here {run written text : List Char} :
      IsBare run → Quoted written text → Closing (run ++ '"' :: written)
  | later {written text rest : List Char} :
      Field written text → Closing rest → Closing (written ++ ',' :: rest)

/-- The first character directly behind a closing quote that is not a comma: up to that quote
the line is a list of columns. -/
def Stray (line : List Char) (character : Char) : Prop :=
  ∃ front back, line = front ++ character :: back ∧ Closing front ∧ character ≠ ','

section Reading

variable {run written text rest front : List Char}

/-- Adds characters to the front of the present column. -/
def prepend (characters : List Char) (rest : Rest) : Rest :=
  (characters ++ rest.1, rest.2)

theorem map_add_prepend (character : Char) (characters : List Char)
    (outcome : Except Stop Rest) :
    (outcome.map (prepend characters)).map (add character) =
      outcome.map (prepend (character :: characters)) := by
  cases outcome <;> rfl

theorem map_prepend_nil (outcome : Except Stop Rest) :
    outcome.map (prepend []) = outcome := by
  cases outcome <;> rfl

@[simp]
theorem scan_nil : scan .bare [] = .ok ([], []) := rfl

@[simp]
theorem scan_closed_nil : scan .closed [] = .ok ([], []) := rfl

@[simp]
theorem scan_comma : scan .bare (',' :: rest) = (scan .bare rest).map next := rfl

@[simp]
theorem scan_closed_comma : scan .closed (',' :: rest) = (scan .bare rest).map next := rfl

@[simp]
theorem scan_quote : scan .bare ('"' :: rest) = scan .quoted rest := rfl

theorem scan_bare_cons {character : Char} (noComma : character ≠ ',') (noQuote : character ≠ '"') :
    scan .bare (character :: rest) = (scan .bare rest).map (add character) := by
  rw [scan]
  · exact noQuote
  · exact noComma

theorem scan_closed_cons {character : Char} (noComma : character ≠ ',') :
    scan .closed (character :: rest) = .error (.found character) := by
  rw [scan]
  exact noComma

theorem scan_bare_append (bare : IsBare run) (rest : List Char) :
    scan .bare (run ++ rest) = (scan .bare rest).map (prepend run) := by
  induction run with
  | nil => exact (map_prepend_nil _).symm
  | cons character run induction =>
      obtain ⟨noComma, noQuote⟩ := bare
      rw [List.mem_cons, not_or] at noComma noQuote
      rw [List.cons_append, scan_bare_cons (Ne.symm noComma.1) (Ne.symm noQuote.1),
        induction ⟨noComma.2, noQuote.2⟩, map_add_prepend]

theorem Quoted.head?_append (quoted : Quoted written text) (rest : List Char) :
    (written ++ rest).head? = written.head? := by
  cases quoted <;> rfl

theorem scan_quoted_single {character : Char} (noQuote : character ≠ '"')
    (noPair : ¬(character = '\\' ∧ (rest.head? = some '"' ∨ rest.head? = some '\\'))) :
    scan .quoted (character :: rest) = (scan .quoted rest).map (add character) := by
  rw [scan]
  · rintro line rfl rfl
    exact noPair ⟨rfl, .inl rfl⟩
  · rintro line rfl rfl
    exact noPair ⟨rfl, .inr rfl⟩
  · exact noQuote

theorem scan_quoted_pair {character : Char} (special : character = '"' ∨ character = '\\')
    (rest : List Char) :
    scan .quoted ('\\' :: character :: rest) = (scan .quoted rest).map (add character) := by
  rcases special with rfl | rfl
  · rfl
  · rfl

theorem scan_quoted_append (quoted : Quoted written text) (rest : List Char) :
    scan .quoted (written ++ rest) = (scan .closed rest).map (prepend text) := by
  induction quoted with
  | close => exact (map_prepend_nil _).symm
  | pair special _ induction =>
      rw [List.cons_append, List.cons_append, scan_quoted_pair special, induction,
        map_add_prepend]
  | single noQuote noPair quoted induction =>
      rw [← quoted.head?_append rest] at noPair
      rw [List.cons_append, scan_quoted_single noQuote noPair, induction, map_add_prepend]

theorem scan_opening (bare : IsBare run) (rest : List Char) :
    scan .bare (run ++ '"' :: rest) = (scan .quoted rest).map (prepend run) := by
  rw [scan_bare_append bare, scan_quote]

theorem scan_closing (bare : IsBare run) (quoted : Quoted written text) (rest : List Char) :
    scan .bare (run ++ '"' :: written ++ rest) =
      (scan .closed rest).map (prepend (run ++ text)) := by
  rw [List.append_assoc, List.cons_append, scan_opening bare, scan_quoted_append quoted]
  cases scan .closed rest <;> simp [Except.map, prepend]

theorem ofChars_field_comma (field : Field written text) (rest : List Char) :
    ofChars (written ++ ',' :: rest) = (ofChars rest).map (text :: ·) := by
  unfold ofChars
  cases field with
  | bare bare =>
      rw [scan_bare_append bare, scan_comma]
      cases scan .bare rest <;> simp [Except.map, next, prepend]
  | quoted bare quoted =>
      rw [scan_closing bare quoted, scan_closed_comma]
      cases scan .bare rest <;> simp [Except.map, next, prepend]

theorem ofChars_field_end (field : Field written text) : ofChars written = .ok [text] := by
  unfold ofChars
  cases field with
  | bare bare =>
      have bareEnd := scan_bare_append bare []
      rw [List.append_nil, scan_nil] at bareEnd
      rw [bareEnd]
      simp [Except.map, prepend]
  | quoted bare quoted =>
      have quotedEnd := scan_closing bare quoted []
      rw [List.append_nil, scan_closed_nil] at quotedEnd
      rw [quotedEnd]
      simp [Except.map, prepend]

theorem ofChars_of_fields {line : List Char} {texts : List (List Char)}
    (fields : Fields line texts) : ofChars line = .ok texts := by
  induction fields with
  | last field => exact ofChars_field_end field
  | more field _ induction =>
      rw [ofChars_field_comma field, induction]
      rfl

theorem ofChars_of_stray {line : List Char} {character : Char} (stray : Stray line character) :
    ofChars line = .error (.found character) := by
  obtain ⟨front, back, rfl, closing, noComma⟩ := stray
  induction closing with
  | here bare quoted =>
      unfold ofChars
      rw [scan_closing bare quoted, scan_closed_cons noComma]
      rfl
  | later field _ induction =>
      rw [List.append_assoc, List.cons_append, ofChars_field_comma field, induction]
      rfl

end Reading

section Cases

variable {rest line : List Char}

/-- A quoted part is closed, or the reader comes to the end of the line within it. -/
theorem quoted_or_atEnd (rest : List Char) :
    (∃ written text behind, Quoted written text ∧ rest = written ++ behind) ∨
      scan .quoted rest = .error .atEnd := by
  cases rest with
  | nil => exact .inr rfl
  | cons character rest =>
      by_cases isQuote : character = '"'
      · subst isQuote
        exact .inl ⟨['"'], [], rest, .close, rfl⟩
      · by_cases isPair : character = '\\' ∧ (rest.head? = some '"' ∨ rest.head? = some '\\')
        · obtain ⟨rfl, begins⟩ := isPair
          cases rest with
          | nil => simp at begins
          | cons second later =>
              have special : second = '"' ∨ second = '\\' := by simpa using begins
              rcases quoted_or_atEnd later with ⟨written, text, behind, quoted, rfl⟩ | ends
              · exact .inl ⟨_, _, behind, .pair special quoted, rfl⟩
              · rw [scan_quoted_pair special, ends]
                exact .inr rfl
        · rcases quoted_or_atEnd rest with ⟨written, text, behind, quoted, rfl⟩ | ends
          · rw [quoted.head?_append] at isPair
            exact .inl ⟨_, _, behind, .single isQuote isPair quoted, rfl⟩
          · rw [scan_quoted_single isQuote isPair, ends]
            exact .inr rfl
termination_by rest.length

/-- A line begins with a bare run that goes on to the end, to a comma or to a quote. -/
theorem exists_run (line : List Char) :
    ∃ run, IsBare run ∧
      (line = run ∨ ∃ rest, line = run ++ ',' :: rest ∨ line = run ++ '"' :: rest) := by
  induction line with
  | nil => exact ⟨[], by decide, .inl rfl⟩
  | cons character line induction =>
      by_cases isComma : character = ','
      · exact ⟨[], by decide, .inr ⟨line, .inl (by rw [isComma]; rfl)⟩⟩
      · by_cases isQuote : character = '"'
        · exact ⟨[], by decide, .inr ⟨line, .inr (by rw [isQuote]; rfl)⟩⟩
        · obtain ⟨run, ⟨noComma, noQuote⟩, parts⟩ := induction
          refine ⟨character :: run, ⟨?_, ?_⟩, ?_⟩
          · exact List.not_mem_cons_of_ne_of_not_mem (Ne.symm isComma) noComma
          · exact List.not_mem_cons_of_ne_of_not_mem (Ne.symm isQuote) noQuote
          · rcases parts with rfl | ⟨rest, rfl | rfl⟩
            · exact .inl rfl
            · exact .inr ⟨rest, .inl rfl⟩
            · exact .inr ⟨rest, .inr rfl⟩

/-- What a line can be: a list of columns, one with a stray character, or one that ends within a
quoted part. -/
inductive Kind (line : List Char) : Prop where
  | columns {texts : List (List Char)} : Fields line texts → Kind line
  | stray {character : Char} : Stray line character → Kind line
  | unclosed : ofChars line = .error .atEnd → Kind line

theorem Kind.more {written text : List Char} (field : Field written text) (kind : Kind rest) :
    Kind (written ++ ',' :: rest) := by
  cases kind with
  | columns fields => exact .columns (.more field fields)
  | stray stray =>
      obtain ⟨front, back, rfl, closing, noComma⟩ := stray
      exact .stray ⟨_, back, by simp, .later field closing, noComma⟩
  | unclosed ends =>
      refine .unclosed ?_
      rw [ofChars_field_comma field, ends]
      rfl

theorem kind_of_line (line : List Char) : Kind line := by
  obtain ⟨run, bare, whole | ⟨rest, comma | quote⟩⟩ := exists_run line
  · exact .columns (.last (.bare (whole ▸ bare)))
  · have shorter : rest.length < line.length := by
      simp only [comma, List.length_append, List.length_cons]
      omega
    rw [comma]
    exact (kind_of_line rest).more (.bare bare)
  · rcases quoted_or_atEnd rest with ⟨written, text, behind, quoted, closed⟩ | ends
    · have field := Field.quoted bare quoted
      rw [closed, ← List.cons_append, ← List.append_assoc] at quote
      cases behind with
      | nil =>
          rw [quote, List.append_nil]
          exact .columns (.last field)
      | cons character behind =>
          have shorter : behind.length < line.length := by
            simp only [quote, List.length_append, List.length_cons]
            omega
          by_cases isComma : character = ','
          · rw [quote, isComma]
            exact (kind_of_line behind).more field
          · exact .stray ⟨_, behind, quote, .here bare quoted, isComma⟩
    · refine .unclosed ?_
      unfold ofChars
      rw [quote, scan_opening bare, ends]
      rfl
termination_by line.length

end Cases

section Exactly

variable {line : List Char}

theorem ofChars_eq_ok_iff {texts : List (List Char)} :
    ofChars line = .ok texts ↔ Fields line texts := by
  refine ⟨fun reads => ?_, ofChars_of_fields⟩
  cases kind_of_line line with
  | columns fields =>
      cases reads.symm.trans (ofChars_of_fields fields)
      exact fields
  | stray stray => cases reads.symm.trans (ofChars_of_stray stray)
  | unclosed ends => cases reads.symm.trans ends

theorem ofChars_eq_found_iff {character : Char} :
    ofChars line = .error (.found character) ↔ Stray line character := by
  refine ⟨fun reads => ?_, ofChars_of_stray⟩
  cases kind_of_line line with
  | columns fields => cases reads.symm.trans (ofChars_of_fields fields)
  | stray stray =>
      cases reads.symm.trans (ofChars_of_stray stray)
      exact stray
  | unclosed ends => cases reads.symm.trans ends

theorem ofChars_eq_atEnd_iff :
    ofChars line = .error .atEnd ↔
      (¬∃ texts, Fields line texts) ∧ ¬∃ character, Stray line character := by
  constructor
  · intro ends
    constructor
    · rintro ⟨texts, fields⟩
      cases ends.symm.trans (ofChars_of_fields fields)
    · rintro ⟨character, stray⟩
      cases ends.symm.trans (ofChars_of_stray stray)
  · rintro ⟨noFields, noStray⟩
    cases kind_of_line line with
    | columns fields => exact absurd ⟨_, fields⟩ noFields
    | stray stray => exact absurd ⟨_, stray⟩ noStray
    | unclosed ends => exact ends

end Exactly

/-- A line is cut exactly if it is a list of columns with commas between them, and then into the
texts of these columns.  Otherwise it is refused for the first character directly behind a closing
quote that is not a comma, if there is one, and else for a quote that is not closed. -/
theorem split_eq_iff (line : String) :
    (∀ columns, split line = .ok columns ↔ Fields line.toList (columns.map String.toList)) ∧
    (∀ character, split line = .error (.missingComma character line) ↔
      Stray line.toList character) ∧
    (split line = .error (.unterminatedQuote line) ↔
      (¬∃ texts, Fields line.toList texts) ∧ ¬∃ character, Stray line.toList character) := by
  rw [← ofChars_eq_atEnd_iff]
  simp only [← ofChars_eq_ok_iff, ← ofChars_eq_found_iff]
  unfold split
  cases ofChars line.toList with
  | ok texts =>
      refine ⟨fun columns => ?_, by simp, by simp⟩
      simp only [Except.ok.injEq]
      constructor
      · rintro rfl
        simp
      · rintro rfl
        simp
  | error stop => cases stop <;> simp

end ToolParams.Columns
