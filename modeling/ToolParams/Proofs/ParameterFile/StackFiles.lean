import ToolParams.ParameterFile.Exchange
import ToolParams.Proofs.ParameterFile.Lines
import ToolParams.Proofs.Text.Trimming

/-!
# What stack files keep of a text

A stack file has the elements of a text, one a line.  Read back, the elements lose the
blanks around them and empty ones disappear, so just the tidy texts come back as they were.
An element with line ends falls apart into more lines, so these separate elements as well.
-/

namespace ToolParams.ParameterFile

variable {text : String}

/-- The elements of the text are not empty and have no blanks around them, unless the text
is empty as a whole. -/
def IsTidy (text : String) : Prop :=
  text = "" ∨ ∀ element ∈ Text.split ',' text, element ≠ "" ∧ Text.trim element = element

instance (text : String) : Decidable (IsTidy text) :=
  inferInstanceAs (Decidable (_ ∨ _))

theorem intercalate_append_eq_join (gap first : String) (others : List String) :
    gap.intercalate (first :: others) ++ gap = String.join ((first :: others).map (· ++ gap)) := by
  induction others generalizing first with
  | nil => simp
  | cons second others induction =>
      rw [List.map_cons, String.join_cons, ← induction second,
        String.intercalate_cons_of_ne_nil (List.cons_ne_nil _ _)]
      simp [String.append_assoc]

theorem stackContent_eq_join (text : String) :
    stackContent text = String.join ((Text.split ',' text).map (· ++ "\n")) := by
  obtain ⟨first, others, isSplit⟩ := List.exists_cons_of_ne_nil (Text.split_ne_nil ',' text)
  rw [stackContent, isSplit, intercalate_append_eq_join]

/-- The pieces of a text between commas and line ends, without the blanks around them and
without empty ones. -/
def pieces (text : String) : List String :=
  (((text.toList.splitOnP fun character => character = ',' || character = '\n').map
    String.ofList).map Text.trim).filter (· ≠ "")

/-- A text as its pieces, with commas between them. -/
def normalized (text : String) : String :=
  ",".intercalate (pieces text)

/-- A line end for a comma, and every other character as it is. -/
def lineEnd (character : Char) : Char :=
  if character = ',' then '\n' else character

theorem splitOn_map_lineEnd (characters : List Char) :
    (characters.map lineEnd).splitOn '\n' =
      characters.splitOnP fun character => character = ',' || character = '\n' := by
  induction characters with
  | nil => rfl
  | cons head characters induction =>
      rw [List.map_cons, List.splitOn_cons_eq_if_modifyHead,
        List.splitOnP_cons_eq_if_modifyHead, induction]
      by_cases comma : head = ','
      · simp [comma, lineEnd]
      · simp [comma, lineEnd]

theorem intercalate_lines (characters : List Char) :
    ['\n'].intercalate (characters.splitOn ',') = characters.map lineEnd := by
  induction characters with
  | nil => rfl
  | cons head characters induction =>
      have some := List.splitOn_ne_nil ',' characters
      rw [List.splitOn_cons_eq_if_modifyHead, List.map_cons, ← induction]
      by_cases comma : head = ','
      · simp [comma, lineEnd, List.intercalate_cons_of_ne_nil some]
      · generalize characters.splitOn ',' = elements at some ⊢
        cases elements with
        | nil => exact absurd rfl some
        | cons first others => cases others <;> simp [comma, lineEnd]

theorem toList_stackContent (text : String) :
    (stackContent text).toList = text.toList.map lineEnd ++ ['\n'] := by
  rw [stackContent, String.toList_append, String.toList_intercalate, Text.split, List.map_map]
  simp only [Function.comp_def, String.toList_ofList, List.map_id']
  exact congrArg (· ++ ['\n']) (intercalate_lines text.toList)

theorem stackText_eq_normalized (text : String) :
    stackText (stackContent text) = normalized text := by
  have lines : Text.split '\n' (stackContent text) =
      (text.toList.splitOnP fun character => character = ',' || character = '\n').map
        String.ofList ++ [""] := by
    rw [Text.split, toList_stackContent, List.splitOn_append_cons_self, splitOn_map_lineEnd]
    simp
  have last : ([""].map Text.trim).filter (· ≠ "") = [] := by decide
  rw [stackText, lines, List.map_append, List.filter_append, last, List.append_nil, normalized,
    pieces]

theorem isPart_of_mem_pieces {piece : String} (member : piece ∈ pieces text) :
    Text.IsPart ',' piece ∧ IsLine piece := by
  obtain ⟨trimmed, kept⟩ := List.mem_filter.mp member
  obtain ⟨whole, isWhole, rfl⟩ := List.mem_map.mp trimmed
  obtain ⟨characters, isPiece, rfl⟩ := List.mem_map.mp isWhole
  have apart : ∀ character ∈ (Text.trim (String.ofList characters)).toList,
      ¬(character = ',' ∨ character = '\n') := by
    intro character inside
    have within := Text.mem_of_mem_trim inside
    rw [String.toList_ofList] at within
    simpa using Text.not_of_mem_splitOnP isPiece character within
  refine ⟨⟨of_decide_eq_true kept, Text.trim_trim _, ?_⟩, ?_⟩
  · exact fun inside => apart ',' inside (.inl rfl)
  · exact fun inside => apart '\n' inside (.inr rfl)

theorem isLine_normalized (text : String) : IsLine (normalized text) :=
  Text.not_mem_intercalate (by decide) fun _ member => (isPart_of_mem_pieces member).2

theorem tidy_normalized (text : String) : IsTidy (normalized text) := by
  by_cases none : pieces text = []
  · left
    rw [normalized, none]
    rfl
  · right
    have cut : Text.split ',' (normalized text) = pieces text :=
      Text.split_intercalate none fun _ member => (isPart_of_mem_pieces member).1.apart
    intro element member
    rw [cut] at member
    have isPart := (isPart_of_mem_pieces member).1
    exact ⟨isPart.filled, isPart.trimmed⟩

theorem splitOnP_of_isLine {characters : List Char} (isLine : '\n' ∉ characters) :
    (characters.splitOnP fun character => character = ',' || character = '\n') =
      characters.splitOn ',' := by
  induction characters with
  | nil => rfl
  | cons head characters induction =>
      rw [List.mem_cons, not_or] at isLine
      rw [List.splitOnP_cons_eq_if_modifyHead, List.splitOn_cons_eq_if_modifyHead,
        induction isLine.2]
      simp [Ne.symm isLine.1]

theorem pieces_of_isLine (isLine : IsLine text) : pieces text = Text.parts ',' text := by
  rw [pieces, splitOnP_of_isLine isLine]
  rfl

theorem intercalate_parts_of_tidy (tidy : IsTidy text) :
    ",".intercalate (Text.parts ',' text) = text := by
  rcases tidy with rfl | tidy
  · decide
  · have trimmed : (Text.split ',' text).map Text.trim = Text.split ',' text :=
      (List.map_congr_left fun element member => (tidy element member).2).trans (List.map_id _)
    rw [Text.parts, trimmed, List.filter_eq_self.mpr]
    · exact Text.intercalate_split ',' text
    · exact fun element member => decide_eq_true (tidy element member).1

theorem normalized_eq_iff : normalized text = text ↔ IsLine text ∧ IsTidy text := by
  constructor
  · intro same
    exact ⟨same ▸ isLine_normalized text, same ▸ tidy_normalized text⟩
  · rintro ⟨isLine, tidy⟩
    rw [normalized, pieces_of_isLine isLine, intercalate_parts_of_tidy tidy]

theorem normalized_normalized (text : String) : normalized (normalized text) = normalized text :=
  normalized_eq_iff.mpr ⟨isLine_normalized text, tidy_normalized text⟩

theorem stackText_stackContent_eq_iff (isLine : IsLine text) :
    stackText (stackContent text) = text ↔ IsTidy text := by
  rw [stackText_eq_normalized, normalized_eq_iff]
  exact and_iff_right isLine

end ToolParams.ParameterFile
