import ToolParams.Proofs.Schema.Rewriting

/-!
# What a schema that was read looks like

Each line that is neither blank nor a comment declares a parameter or is passed over, in the
order of the lines, and what it declares is in the form that its type asks for.  The lines in
between do not count, and neither do carriage returns in front of line ends.
-/

namespace ToolParams

namespace Text

variable {separator : Char} {text : String}

theorem length_split_eq_one_iff : (split separator text).length = 1 ↔ separator ∉ text.toList := by
  constructor
  · intro single
    obtain ⟨piece, isPiece⟩ := List.length_eq_one_iff.mp single
    have whole := intercalate_split separator text
    rw [isPiece, String.intercalate_singleton] at whole
    exact whole ▸ not_mem_of_mem_split (isPiece ▸ List.mem_singleton_self piece)
  · intro apart
    have whole := @split_intercalate separator [text] (List.cons_ne_nil _ _) (by simpa using apart)
    rw [String.intercalate_singleton] at whole
    rw [whole]
    rfl

/-- The text with a carriage return in front of each line end. -/
def crlf (text : String) : String :=
  "\r\n".intercalate (split '\n' text)

/-- The lines with a carriage return behind each but the last. -/
def returned : List String → List String
  | [] => []
  | [line] => [line]
  | line :: next :: lines => (line ++ "\r") :: returned (next :: lines)

theorem returned_ne_nil {lines : List String} (some : lines ≠ []) : returned lines ≠ [] := by
  match lines with
  | [] => exact absurd rfl some
  | [_] => exact List.cons_ne_nil _ _
  | _ :: _ :: _ => exact List.cons_ne_nil _ _

theorem intercalate_returned (lines : List String) :
    (String.singleton '\n').intercalate (returned lines) = "\r\n".intercalate lines := by
  match lines with
  | [] => rfl
  | [line] => rfl
  | line :: next :: lines =>
      have induction := intercalate_returned (next :: lines)
      rw [returned, String.intercalate_cons_of_ne_nil (returned_ne_nil (List.cons_ne_nil _ _)),
        String.intercalate_cons_of_ne_nil (List.cons_ne_nil _ _), induction]
      simp only [String.append_assoc]
      rfl

theorem trimChars_append_blank {blank : Char} (isBlank : isBlank blank = true)
    (characters : List Char) : trimChars (characters ++ [blank]) = trimChars characters := by
  unfold trimChars trimEndChars
  rw [List.dropWhile_append]
  split
  · rename_i allBlank
    rw [List.isEmpty_iff.mp allBlank, List.dropWhile_cons, if_pos isBlank]
    rfl
  · rw [List.reverse_append, List.reverse_singleton, List.singleton_append, List.dropWhile_cons,
      if_pos isBlank]

theorem map_trim_returned (lines : List String) : (returned lines).map trim = lines.map trim := by
  match lines with
  | [] => rfl
  | [line] => rfl
  | line :: next :: lines =>
      have induction := map_trim_returned (next :: lines)
      have same : trim (line ++ "\r") = trim line := by
        apply String.toList_injective
        rw [toList_trim, toList_trim, String.toList_append]
        exact trimChars_append_blank (by decide) line.toList
      rw [returned, List.map_cons, List.map_cons, induction, same]

theorem not_mem_returned {lines : List String} (apart : ∀ line ∈ lines, '\n' ∉ line.toList) :
    ∀ line ∈ returned lines, '\n' ∉ line.toList := by
  match lines with
  | [] => exact apart
  | [line] => exact apart
  | line :: next :: lines =>
      intro other member
      rcases List.mem_cons.mp member with rfl | later
      · have apartFirst := apart line List.mem_cons_self
        rw [String.toList_append, List.mem_append]
        rintro (inLine | isReturn)
        · exact apartFirst inLine
        · exact absurd isReturn (by decide)
      · exact not_mem_returned (fun line behind => apart line (List.mem_cons_of_mem _ behind))
          other later

theorem map_trim_split_crlf (text : String) :
    (split '\n' (crlf text)).map trim = (split '\n' text).map trim := by
  have lines := split_intercalate (returned_ne_nil (split_ne_nil '\n' text))
    (not_mem_returned fun _ => not_mem_of_mem_split)
  rw [intercalate_returned] at lines
  rw [crlf, lines, map_trim_returned]

end Text

namespace Schema

/-- A line that does not count: it is blank or a comment. -/
def IsIdle (line : String) : Prop :=
  Text.trim line = "" ∨ Text.startsWith (Text.trim line) "#" = true

/-- Lines with lines that do not count among them. -/
inductive Padded : List String → List String → Prop where
  | none : Padded [] []
  | keep {lines padded : List String} (line : String) :
      Padded lines padded → Padded (line :: lines) (line :: padded)
  | insert {lines padded : List String} {line : String} :
      IsIdle line → Padded lines padded → Padded lines (line :: padded)

theorem contentLines_padded {text padded : String}
    (among : Padded (Text.split '\n' text) (Text.split '\n' padded)) :
    contentLines padded = contentLines text := by
  unfold contentLines
  generalize Text.split '\n' text = lines at among
  generalize Text.split '\n' padded = paddedLines at among
  induction among with
  | none => rfl
  | keep line _ induction =>
      rw [List.map_cons, List.map_cons, List.filter_cons, List.filter_cons, induction]
  | insert idle _ induction =>
      rw [List.map_cons, List.filter_cons_of_neg, induction]
      rcases idle with blank | comment
      · simp [blank]
      · simp [comment]

theorem contentLines_crlf (text : String) : contentLines (Text.crlf text) = contentLines text := by
  rw [contentLines, Text.map_trim_split_crlf, contentLines]

theorem read_congr {text other : String} (same : contentLines other = contentLines text)
    (tool : String) (kind : ToolKind) : read tool other kind = read tool text kind := by
  rw [read, same, read]

section Lines

variable {tool name low high : String} {type : ParameterType} {constraint : Option Constraint}
  {columns : List String}

/-- The columns concern how values are asked for: those of the mode entry, or of a choice with
a single option. -/
def Hides (columns : List String) : Prop :=
  columns.getD 0 "" = "mode" ∨
    ∃ type, ParameterType.ofColumn? (columns.getD 1 "") = some type ∧ type.isText = true ∧
      columns.getD 4 "" ≠ "" ∧ '|' ∉ (columns.getD 4 "").toList

theorem isHidden_iff (isConstraint : IsConstraint type low high constraint) :
    isHidden name constraint = true ↔
      name = "mode" ∨ type.isText = true ∧ low ≠ "" ∧ '|' ∉ low.toList := by
  cases isConstraint with
  | free unlimited =>
      have unlisted : ¬(type.isText = true ∧ low ≠ "" ∧ '|' ∉ low.toList) := by
        rintro ⟨isText, filled, _⟩
        rcases unlimited with rfl | ⟨rfl, _⟩
        · cases isText
        · exact filled rfl
      simp [isHidden, unlisted]
  | options _ filled listed =>
      have single := @Text.length_split_eq_one_iff '|' low
      have isText : '|' ∉ low.toList → type.isText = true := by
        intro noBar
        refine listed.resolve_left fun bar => noBar ?_
        rwa [Text.has, List.contains_iff_mem] at bar
      simp only [isHidden, Bool.or_eq_true, decide_eq_true_eq, single]
      exact or_congr_right ⟨fun noBar => ⟨isText noBar, filled, noBar⟩, fun choice => choice.2.2⟩
  | range _ unlisted =>
      have unlisted : ¬(type.isText = true ∧ low ≠ "" ∧ '|' ∉ low.toList) := by
        rintro ⟨isText, filled, _⟩
        rcases unlisted with rfl | ⟨_, textless⟩
        · exact filled rfl
        · rw [textless] at isText
          cases isText
      simp [isHidden, unlisted]

/-- The columns are passed over. -/
structure Skips (tool : String) (columns : List String) : Prop where
  enough : 4 ≤ columns.length
  readable : ∃ type constraint, ParameterType.ofColumn? (columns.getD 1 "") = some type ∧
    readConstraint tool (columns.getD 0 "") type (columns.getD 4 "") (columns.getD 5 "") =
      .ok constraint
  hides : Hides columns
  optional : columns.getD 2 "" ≠ "a"

theorem hides_iff (typed : ParameterType.ofColumn? (columns.getD 1 "") = some type)
    (constrained : readConstraint tool name type (columns.getD 4 "") (columns.getD 5 "") =
      .ok constraint) :
    isHidden (columns.getD 0 "") constraint = true ↔ Hides columns := by
  rw [isHidden_iff (isConstraint_of_readConstraint constrained), Hides, typed]
  simp

end Lines

section Lists

variable {tool line text : String} {lines : List String} {columns : List String}
  {declaration : Declaration} {declarations : List Declaration}

theorem readLine_eq_none_iff :
    readLine tool line = .ok none ↔
      ∃ columns, Columns.split line = .ok columns ∧ Skips tool columns := by
  constructor
  · intro accepted
    obtain ⟨columns, type, constraint, cut, enough, typed, isConstraint,
      ⟨hidden, optional, _⟩ | ⟨_, _, shown⟩⟩ := readLine_cases accepted
    · exact ⟨columns, cut, enough, ⟨type, constraint, typed, isConstraint⟩,
        (hides_iff typed isConstraint).mp hidden, optional⟩
    · cases shown
  · rintro ⟨columns, cut, enough, ⟨type, constraint, typed, isConstraint⟩, hides, optional⟩
    have hidden := (hides_iff typed isConstraint).mpr hides
    unfold readLine
    simp only [cut, Outcome.mapError_ok, Outcome.ok_bind, Nat.not_lt.mpr enough, if_false, typed,
      isConstraint, hidden, if_true, optional]
    rfl

theorem Declares.not_hides (declares : Declares tool columns declaration) : ¬Hides columns := by
  rw [← hides_iff declares.type declares.constraint, ← declares.name, declares.shown]
  exact Bool.false_ne_true

/-- Each line declares a parameter or is passed over, in the order of the lines. -/
inductive Accounts (tool : String) : List String → List Declaration → Prop where
  | none : Accounts tool [] []
  | declared {line : String} {lines columns : List String} {declaration : Declaration}
      {declarations : List Declaration} :
      Columns.split line = .ok columns → Declares tool columns declaration → ¬Hides columns →
      Accounts tool lines declarations → Accounts tool (line :: lines) (declaration :: declarations)
  | skipped {line : String} {lines columns : List String} {declarations : List Declaration} :
      Columns.split line = .ok columns → Skips tool columns →
      Accounts tool lines declarations → Accounts tool (line :: lines) declarations

theorem readLines_eq_ok_iff :
    readLines tool lines = .ok declarations ↔ Accounts tool lines declarations := by
  constructor
  · intro accepted
    induction lines generalizing declarations with
    | nil =>
        cases accepted
        exact .none
    | cons line lines induction =>
        obtain ⟨first, readFirst, accepted⟩ := Outcome.bind_eq_ok_iff.mp accepted
        obtain ⟨others, readOthers, joined⟩ := Outcome.bind_eq_ok_iff.mp accepted
        cases joined
        cases first with
        | none =>
            obtain ⟨columns, cut, skips⟩ := readLine_eq_none_iff.mp readFirst
            exact .skipped cut skips (induction readOthers)
        | some declaration =>
            obtain ⟨columns, cut, declares⟩ := readLine_eq_some_iff.mp readFirst
            exact .declared cut declares declares.not_hides (induction readOthers)
  · intro accounts
    induction accounts with
    | none => rfl
    | declared cut declares _ _ induction =>
        rw [readLines, readLine_eq_some_iff.mpr ⟨_, cut, declares⟩, Outcome.ok_bind, induction]
        rfl
    | skipped cut skips _ induction =>
        rw [readLines, readLine_eq_none_iff.mpr ⟨_, cut, skips⟩, Outcome.ok_bind, induction]
        rfl

theorem required_of_accounts (accounts : Accounts tool lines declarations)
    (declared : declaration ∈ declarations) :
    declaration.required = decide (declaration.mode = "a") := by
  induction accounts with
  | none => cases declared
  | declared _ declares _ _ induction =>
      rcases List.mem_cons.mp declared with rfl | later
      · exact declares.required
      · exact induction later
  | skipped _ _ _ induction => exact induction declared

end Lists

end Schema

/-- The constraint and the default of a parameter are of the form that its type asks for. -/
structure Declaration.IsProper (declaration : Declaration) : Prop where
  free : declaration.type = .boolean → declaration.constraint = none
  options : ∀ choices, declaration.constraint = some (.options choices) →
    2 ≤ choices.length ∧ ∀ option ∈ choices, '|' ∉ option.toList
  range : ∀ low high, declaration.constraint = some (.range low high) →
    (∃ column, Schema.IsBound column low) ∧ (∃ column, Schema.IsBound column high) ∧
      (declaration.type.isText = true → low = .unbounded)
  default : declaration.type.IsLettered →
    ∃ column, Schema.IsDefault column declaration.type declaration.default

namespace Schema

variable {tool text : String} {columns : List String} {declaration : Declaration}

theorem isProper_of_declares (declares : Declares tool columns declaration) :
    declaration.IsProper := by
  have isConstraint := isConstraint_of_readConstraint declares.constraint
  refine ⟨?_, ?_, ?_, fun lettered => ⟨_, isDefault_of_readDefault lettered declares.default⟩⟩
  · intro isBoolean
    generalize declaration.constraint = constraint at isConstraint
    cases isConstraint with
    | free => rfl
    | options other => exact absurd isBoolean other
    | range other => exact absurd isBoolean other
  · intro choices listed
    have shown := declares.shown
    rw [listed] at isConstraint shown
    cases isConstraint with
    | options =>
        have several : (Text.split '|' (columns.getD 4 "")).length ≠ 1 := by
          rw [isHidden, Bool.or_eq_false_iff, decide_eq_false_iff_not] at shown
          exact of_decide_eq_false shown.2
        have some := List.length_pos_iff.mpr (Text.split_ne_nil '|' (columns.getD 4 ""))
        exact ⟨by omega, fun option => Text.not_mem_of_mem_split⟩
  · intro low high ranged
    rw [ranged] at isConstraint
    cases isConstraint with
    | range _ unlisted isLow isHigh unbounded =>
        refine ⟨⟨_, isLow⟩, ⟨_, isHigh⟩, fun isText => ?_⟩
        rcases unlisted with empty | ⟨_, textless⟩
        · exact unbounded empty
        · rw [textless] at isText
          cases isText

/-- What holds of a schema that was read from the lines of a text. -/
structure WellFormed (tool text : String) (kind : ToolKind) (schema : Schema) : Prop where
  distinct : schema.names.Nodup
  unreserved : "mode" ∉ schema.names
  proper : ∀ declaration ∈ schema.declarations, declaration.IsProper
  /-- its parameters are those of the lines, and the required ones stand first -/
  accounts : ∃ declarations, Accounts tool (contentLines text) declarations ∧ schema =
    { name := tool, kind, executable := none
      required := declarations.filter fun declaration => declaration.mode = "a"
      optional := declarations.filter fun declaration => declaration.mode ≠ "a" }

theorem parted_of_accounts {lines : List String} {declarations : List Declaration}
    (accounts : Accounts tool lines declarations) :
    (declarations.filter fun declaration => declaration.required) =
        (declarations.filter fun declaration => declaration.mode = "a") ∧
      (declarations.filter fun declaration => !declaration.required) =
        declarations.filter fun declaration => declaration.mode ≠ "a" := by
  constructor
  · exact List.filter_congr fun declaration declared => required_of_accounts accounts declared
  · apply List.filter_congr
    intro declaration declared
    rw [required_of_accounts accounts declared, decide_not]

theorem read_eq_ok_iff {kind : ToolKind} {schema : Schema} :
    read tool text kind = .ok schema ↔ schema.names.Nodup ∧
      ∃ declarations, Accounts tool (contentLines text) declarations ∧ schema =
        { name := tool, kind, executable := none
          required := declarations.filter fun declaration => declaration.mode = "a"
          optional := declarations.filter fun declaration => declaration.mode ≠ "a" } := by
  constructor
  · intro accepted
    obtain ⟨declarations, readAll, distinct, isSchema⟩ := parts_of_read accepted
    have accounts := readLines_eq_ok_iff.mp readAll
    obtain ⟨required, optional⟩ := parted_of_accounts accounts
    rw [required, optional] at isSchema
    exact ⟨distinct, declarations, accounts, isSchema⟩
  · rintro ⟨distinct, declarations, accounts, rfl⟩
    obtain ⟨required, optional⟩ := parted_of_accounts accounts
    have unrepeated := firstRepeated?_of_nodup distinct fun _ _ => List.not_mem_nil
    rw [← required, ← optional] at unrepeated ⊢
    simp only [read, readLines_eq_ok_iff.mpr accounts, Outcome.ok_bind, unrepeated]
    rfl

/-- Reading accepts a text exactly where its lines account for a schema in which each name is
declared once.  The parameters then have the order of their lines, and constraints and defaults
are as their types ask for.  Blank lines, comments and carriage returns do not change what is
read, or why it is not. -/
theorem read_eq_ok_iff_wellFormed (tool text : String) (kind : ToolKind) :
    (∀ schema, read tool text kind = .ok schema ↔ schema.WellFormed tool text kind) ∧
    (∀ padded, Padded (Text.split '\n' text) (Text.split '\n' padded) →
      read tool padded kind = read tool text kind) ∧
    read tool (Text.crlf text) kind = read tool text kind := by
  refine ⟨?_, ?_, ?_⟩
  · intro schema
    constructor
    · intro accepted
      obtain ⟨distinct, accounts⟩ := read_eq_ok_iff.mp accepted
      refine ⟨distinct, (sound_of_read accepted).unreserved, ?_, accounts⟩
      intro declaration declared
      obtain ⟨_, _, declares⟩ := exists_declares accepted declared
      exact isProper_of_declares declares
    · intro wellFormed
      exact read_eq_ok_iff.mpr ⟨wellFormed.distinct, wellFormed.accounts⟩
  · intro padded among
    exact read_congr (contentLines_padded among) tool kind
  · exact read_congr (contentLines_crlf text) tool kind

/-- The lines of an oven: four parameters, the mode entry and a choice without a choice. -/
def ovenLines : List String :=
  ["# oven", "door,b,a,yes,,,", "heat,i,h,5,1|5|9,,", "mode,s,h,\"h\",,,", "fuel,s,h,gas,gas,,", "",
    "most,r,h,)heat,,10,", "dish,s,a,,cake|pie,,"]

/-- The lines of the oven with a blank line and a comment among them. -/
def paddedOvenLines : List String :=
  "  " :: ovenLines.take 3 ++ "# how to ask" :: ovenLines.drop 3

/-- The required parameters of the oven stand first, and the lines in between do not count. -/
theorem wellFormed_oven :
    ∃ schema, read "oven" ("\n".intercalate ovenLines) .direct = .ok schema ∧
      schema.WellFormed "oven" ("\n".intercalate ovenLines) .direct ∧
      schema.names = ["door", "dish", "heat", "most"] ∧
      read "oven" ("\n".intercalate paddedOvenLines) .direct = .ok schema ∧
      read "oven" (Text.crlf ("\n".intercalate ovenLines)) .direct = .ok schema := by
  obtain ⟨reads, pads, returns⟩ := read_eq_ok_iff_wellFormed "oven" ("\n".intercalate ovenLines) .direct
  have lines : Text.split '\n' ("\n".intercalate ovenLines) = ovenLines := by
    decide +kernel
  have paddedLines : Text.split '\n' ("\n".intercalate paddedOvenLines) = paddedOvenLines := by
    decide +kernel
  have among : Padded ovenLines paddedOvenLines := by
    refine .insert (.inl (by decide)) (.keep _ (.keep _ (.keep _ (.insert (.inr (by decide)) ?_))))
    exact .keep _ (.keep _ (.keep _ (.keep _ (.keep _ .none))))
  have padded := pads ("\n".intercalate paddedOvenLines) (by rw [lines, paddedLines]; exact among)
  have named : (read "oven" ("\n".intercalate ovenLines) .direct).map names =
      .ok ["door", "dish", "heat", "most"] := by decide +kernel
  obtain ⟨schema, accepted, isNamed⟩ := Outcome.map_eq_ok_iff.mp named
  exact ⟨schema, accepted, (reads schema).mp accepted, isNamed, padded.trans accepted,
    returns.trans accepted⟩

end Schema

end ToolParams
