import ToolParams.Proofs.ParameterFile.Grammar

/-!
# Columns are read as they were written

A column is written bare, if it has neither commas nor quotes, or it is quoted.  Either way it
is a column of the grammar with its own text, so a line of written columns is cut into their
texts.
-/

namespace ToolParams.Columns

/-- How a text is written as a column. -/
inductive Written : String → String → Prop where
  | bare {text : String} : IsBare text.toList → Written text text
  | quoted (text : String) : Written (quote text) text

theorem toList_quote (text : String) :
    (quote text).toList = '"' :: (escape text.toList ++ ['"']) := by
  rw [quote, String.toList_ofList]

theorem quoted_escape (text : List Char) : Quoted (escape text ++ ['"']) text := by
  induction text with
  | nil => exact .close
  | cons character text induction =>
      rw [escape]
      split
      · rename_i special
        exact .pair special induction
      · rename_i plain
        rw [not_or] at plain
        exact .single plain.1 (fun pair => plain.2 pair.1) induction

theorem Written.field {written text : String} (isWritten : Written written text) :
    Field written.toList text.toList := by
  cases isWritten with
  | bare bare => exact .bare bare
  | quoted =>
      rw [toList_quote]
      have field := Field.quoted (show IsBare [] by decide) (quoted_escape text.toList)
      rwa [List.nil_append, List.nil_append] at field

theorem toList_join_cons (first second : String) (columns : List String) :
    (join (first :: second :: columns)).toList =
      first.toList ++ ',' :: (join (second :: columns)).toList := by
  simp [join]

/-- Columns with their texts. -/
abbrev Line := List (String × String)

theorem fields_join {line : Line} (filled : line ≠ [])
    (allWritten : ∀ column ∈ line, Written column.1 column.2) :
    Fields (join (line.map Prod.fst)).toList (line.map fun column => column.2.toList) := by
  induction line with
  | nil => exact absurd rfl filled
  | cons column line induction =>
      have field := (allWritten column List.mem_cons_self).field
      cases line with
      | nil => simpa [join] using Fields.last field
      | cons second line =>
          have later := induction (List.cons_ne_nil _ _) fun other member =>
            allWritten other (List.mem_cons_of_mem _ member)
          rw [List.map_cons, List.map_cons, toList_join_cons]
          exact .more field later

theorem split_join {line : Line} (filled : line ≠ [])
    (allWritten : ∀ column ∈ line, Written column.1 column.2) :
    split (join (line.map Prod.fst)) = .ok (line.map Prod.snd) := by
  rw [split, ofChars_of_fields (fields_join filled allWritten)]
  simp

end ToolParams.Columns
