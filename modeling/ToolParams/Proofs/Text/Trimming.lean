import ToolParams.Text.Blank
import ToolParams.Text.Pieces

/-!
# Trimming and splitting

Trimming stops at a character that is not blank, so it leaves alone what stands between
two of them.  Splitting a text at a character undoes joining pieces that do not hold it.
-/

namespace ToolParams.Text

theorem isBlank_of_visible {character : Char}
    (visible : 0x21 ≤ character.toNat ∧ character.toNat ≤ 0x7E) :
    isBlank character = false := by
  simp only [isBlank, Bool.or_eq_false_iff, Bool.and_eq_false_iff, decide_eq_false_iff_not,
    beq_eq_false_iff_ne]
  omega

theorem dropWhile_append_cons {test : Char → Bool} {item : Char} (kept : test item = false)
    (front rest : List Char) :
    (front ++ item :: rest).dropWhile test = front.dropWhile test ++ item :: rest := by
  induction front with
  | nil => simp [kept]
  | cons head front induction =>
      by_cases passes : test head = true
      · simpa [passes] using induction
      · simp [passes]

theorem trimChars_append_last {last : Char} (kept : isBlank last = false)
    (front : List Char) :
    trimChars (front ++ [last]) = front.dropWhile isBlank ++ [last] := by
  unfold trimChars trimEndChars
  rw [dropWhile_append_cons kept, List.reverse_append, List.reverse_singleton,
    List.singleton_append, List.dropWhile_cons, kept, if_neg Bool.false_ne_true,
    List.reverse_cons, List.reverse_reverse]

theorem trimChars_eq_self {characters : List Char}
    (first : ∀ head, characters.head? = some head → isBlank head = false)
    (final : ∀ last, characters.getLast? = some last → isBlank last = false) :
    trimChars characters = characters := by
  rcases List.eq_nil_or_concat characters with rfl | ⟨front, last, rfl⟩
  · rfl
  · rw [List.concat_eq_append] at first final ⊢
    rw [trimChars_append_last (final last (by simp))]
    cases front with
    | nil => rfl
    | cons head front =>
        have kept := first head (by simp)
        rw [List.dropWhile_cons, kept, if_neg Bool.false_ne_true]

theorem trimChars_of_nonblank {characters : List Char}
    (nonblank : ∀ character ∈ characters, isBlank character = false) :
    trimChars characters = characters := by
  apply trimChars_eq_self
  · intro head first
    exact nonblank head (List.mem_of_head? first)
  · intro last final
    exact nonblank last (List.mem_of_getLast? final)

theorem head_dropWhile {test : Char → Bool} {characters : List Char} {head : Char}
    (first : (characters.dropWhile test).head? = some head) : test head = false := by
  have stops := List.head?_dropWhile_not test characters
  rw [first] at stops
  simpa using stops

theorem head_trimChars {characters : List Char} {head : Char}
    (first : (trimChars characters).head? = some head) : isBlank head = false := by
  unfold trimChars trimEndChars at first
  generalize isDropped : characters.dropWhile isBlank = dropped at first
  have kept : ∀ first, dropped.head? = some first → isBlank first = false := by
    intro character begins
    exact head_dropWhile (isDropped ▸ begins)
  cases dropped with
  | nil => cases first
  | cons character rest =>
      have begins := kept character rfl
      rw [List.reverse_cons, dropWhile_append_cons begins, List.reverse_append] at first
      simp only [List.reverse_cons, List.reverse_nil, List.nil_append, List.singleton_append,
        List.head?_cons, Option.some.injEq] at first
      exact first ▸ begins

theorem last_trimChars {characters : List Char} {last : Char}
    (final : (trimChars characters).getLast? = some last) : isBlank last = false := by
  unfold trimChars trimEndChars at final
  rw [List.getLast?_reverse] at final
  exact head_dropWhile final

/-- Trimming twice is trimming once. -/
theorem trim_trim (text : String) : trim (trim text) = trim text := by
  have same : trimChars (trimChars text.toList) = trimChars text.toList :=
    trimChars_eq_self (fun _ => head_trimChars) fun _ => last_trimChars
  rw [trim, toList_trim, same, trim]

theorem mem_of_mem_trim {text : String} {character : Char}
    (member : character ∈ (trim text).toList) : character ∈ text.toList := by
  rw [toList_trim, trimChars, trimEndChars, List.mem_reverse] at member
  have unreversed := List.mem_reverse.mp ((List.dropWhile_sublist _).subset member)
  exact (List.dropWhile_sublist _).subset unreversed

theorem not_of_mem_splitOnP {test : Char → Bool} {characters piece : List Char}
    (member : piece ∈ characters.splitOnP test) : ∀ character ∈ piece, test character = false := by
  induction characters generalizing piece with
  | nil =>
      rw [List.splitOnP_nil, List.mem_singleton] at member
      simp [member]
  | cons head characters induction =>
      rw [List.splitOnP_cons_eq_if_modifyHead] at member
      split at member
      · rcases List.mem_cons.mp member with rfl | later
        · simp
        · exact induction later
      · rename_i different
        cases pieces : characters.splitOnP test with
        | nil => exact absurd pieces (List.splitOnP_ne_nil _ _)
        | cons first others =>
            rw [pieces, List.modifyHead_cons] at member
            rw [pieces] at induction
            rcases List.mem_cons.mp member with rfl | later
            · intro character inside
              rcases List.mem_cons.mp inside with rfl | behind
              · simpa using different
              · exact induction List.mem_cons_self character behind
            · exact induction (List.mem_cons_of_mem _ later)

theorem not_mem_of_mem_splitOn {separator : Char} {characters piece : List Char}
    (member : piece ∈ characters.splitOn separator) : separator ∉ piece := by
  intro inside
  rw [List.splitOn_eq_splitOnP] at member
  exact absurd (not_of_mem_splitOnP member separator inside) (by simp)

theorem not_mem_of_mem_split {separator : Char} {text piece : String}
    (member : piece ∈ split separator text) : separator ∉ piece.toList := by
  obtain ⟨characters, isPiece, rfl⟩ := List.mem_map.mp member
  rw [String.toList_ofList]
  exact not_mem_of_mem_splitOn isPiece

theorem split_ne_nil (separator : Char) (text : String) : split separator text ≠ [] := by
  simp [split, List.splitOn_ne_nil]

/-- Splitting undoes joining. -/
theorem split_intercalate {separator : Char} {pieces : List String} (some : pieces ≠ [])
    (apart : ∀ piece ∈ pieces, separator ∉ piece.toList) :
    split separator ((String.singleton separator).intercalate pieces) = pieces := by
  unfold split
  rw [String.toList_intercalate, String.toList_singleton, List.splitOn_intercalate,
    List.map_map]
  · simp
  · intro characters member
    obtain ⟨piece, isPiece, rfl⟩ := List.mem_map.mp member
    exact apart piece isPiece
  · simpa using some

/-- Joining undoes splitting. -/
theorem intercalate_split (separator : Char) (text : String) :
    (String.singleton separator).intercalate (split separator text) = text := by
  apply String.toList_injective
  rw [String.toList_intercalate, String.toList_singleton, split, List.map_map]
  simp only [Function.comp_def, String.toList_ofList, List.map_id']
  exact List.intercalate_splitOn separator

theorem not_mem_intercalate {separator : Char} {between : String} {pieces : List String}
    (outside : separator ∉ between.toList)
    (apart : ∀ piece ∈ pieces, separator ∉ piece.toList) :
    separator ∉ (between.intercalate pieces).toList := by
  induction pieces with
  | nil => simp
  | cons piece pieces induction =>
      have later := induction fun other member => apart other (List.mem_cons_of_mem _ member)
      cases pieces with
      | nil => simpa using apart piece List.mem_cons_self
      | cons next others =>
          rw [String.intercalate_cons_of_ne_nil (List.cons_ne_nil _ _), String.toList_append,
            String.toList_append, List.mem_append, List.mem_append]
          rintro ((inPiece | inBetween) | inLater)
          · exact apart piece List.mem_cons_self inPiece
          · exact outside inBetween
          · exact later inLater

theorem mem_intercalate {between piece : String} {pieces : List String}
    (isPiece : piece ∈ pieces) {character : Char} (member : character ∈ piece.toList) :
    character ∈ (between.intercalate pieces).toList := by
  induction pieces with
  | nil => cases isPiece
  | cons first pieces induction =>
      cases pieces with
      | nil =>
          rw [List.mem_singleton.mp isPiece] at member
          simpa using member
      | cons next others =>
          rw [String.intercalate_cons_of_ne_nil (List.cons_ne_nil _ _), String.toList_append,
            String.toList_append, List.mem_append, List.mem_append]
          rcases List.mem_cons.mp isPiece with rfl | later
          · exact .inl (.inl member)
          · exact .inr (induction later)

theorem mem_of_mem_split {separator : Char} {text piece : String}
    (isPiece : piece ∈ split separator text) {character : Char}
    (member : character ∈ piece.toList) : character ∈ text.toList := by
  rw [← intercalate_split separator text]
  exact mem_intercalate isPiece member

/-- The pieces of a text without the blanks around them and without empty ones. -/
def parts (separator : Char) (text : String) : List String :=
  ((split separator text).map trim).filter (· ≠ "")

/-- A piece that stays as it is: not empty, without blanks around it, and without the
separator. -/
structure IsPart (separator : Char) (piece : String) : Prop where
  filled : piece ≠ ""
  trimmed : trim piece = piece
  apart : separator ∉ piece.toList

theorem isPart_of_mem {separator : Char} {text piece : String}
    (member : piece ∈ parts separator text) : IsPart separator piece := by
  obtain ⟨trimmed, kept⟩ := List.mem_filter.mp member
  obtain ⟨whole, isPiece, rfl⟩ := List.mem_map.mp trimmed
  refine ⟨of_decide_eq_true kept, trim_trim whole, ?_⟩
  exact fun inside => not_mem_of_mem_split isPiece (mem_of_mem_trim inside)

theorem mem_of_mem_parts {separator : Char} {text piece : String}
    (isPart : piece ∈ parts separator text) {character : Char}
    (member : character ∈ piece.toList) : character ∈ text.toList := by
  obtain ⟨whole, isPiece, rfl⟩ := List.mem_map.mp (List.mem_filter.mp isPart).1
  exact mem_of_mem_split isPiece (mem_of_mem_trim member)

/-- Pieces that stay as they are are found again when they are joined. -/
theorem parts_intercalate {separator : Char} {pieces : List String}
    (stay : ∀ piece ∈ pieces, IsPart separator piece) :
    parts separator ((String.singleton separator).intercalate pieces) = pieces := by
  cases pieces with
  | nil =>
      have empty : (String.singleton separator).intercalate [] = "" := rfl
      have alone : split separator "" = [""] := rfl
      rw [parts, empty, alone]
      decide
  | cons first others =>
      have cut : split separator ((String.singleton separator).intercalate (first :: others)) =
          first :: others :=
        split_intercalate (List.cons_ne_nil _ _) fun piece member => (stay piece member).apart
      have trimmed : (first :: others).map trim = first :: others :=
        (List.map_congr_left fun piece member => (stay piece member).trimmed).trans
          (List.map_id _)
      rw [parts, cut, trimmed, List.filter_eq_self]
      exact fun piece member => decide_eq_true (stay piece member).filled

end ToolParams.Text
