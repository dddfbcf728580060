import ToolParams.Proofs.Outcome
import ToolParams.Proofs.ParameterFile.Lines
import ToolParams.Schema.Reader

/-!
# What the reader of schemas accepts

A schema that was read declares each name once and never the name of the mode entry, and
its help texts have no line ends, as each comes from one line of the file.
-/

namespace ToolParams

namespace Columns

def Drawn (rest : Rest) (line : List Char) : Prop :=
  ∀ column ∈ rest.1 :: rest.2, ∀ character ∈ column, character ∈ line

namespace Drawn

variable {rest : Rest} {line longer : List Char} {character : Char}

theorem mono (drawn : Drawn rest line) (covered : ∀ other ∈ line, other ∈ longer) :
    Drawn rest longer :=
  fun column isColumn other member => covered other (drawn column isColumn other member)

theorem next (drawn : Drawn rest line) (character : Char) :
    Drawn (Columns.next rest) (character :: line) := by
  intro column isColumn other member
  rcases List.mem_cons.mp isColumn with rfl | behind
  · cases member
  · exact List.mem_cons_of_mem _ (drawn column behind other member)

theorem add (drawn : Drawn rest line) (character : Char) :
    Drawn (Columns.add character rest) (character :: line) := by
  intro column isColumn other member
  rcases List.mem_cons.mp isColumn with rfl | behind
  · rcases List.mem_cons.mp member with rfl | inColumn
    · exact List.mem_cons_self
    · exact List.mem_cons_of_mem _ (drawn rest.1 List.mem_cons_self other inColumn)
  · exact List.mem_cons_of_mem _
      (drawn column (List.mem_cons_of_mem _ behind) other member)

end Drawn

theorem drawn_of_scan {place : Place} {line : List Char} {rest : Rest}
    (scanned : scan place line = .ok rest) : Drawn rest line := by
  have behind (character : Char) (line : List Char) :
      ∀ other ∈ line, other ∈ character :: line := fun _ => List.mem_cons_of_mem _
  have none : Drawn ([], []) [] := by
    intro column isColumn other member
    rw [List.mem_singleton.mp isColumn] at member
    cases member
  fun_induction scan place line generalizing rest with
  | case1 => exact Except.ok.inj scanned ▸ none
  | case2 => exact Except.ok.inj scanned ▸ none
  | case3 => cases scanned
  | case4 line induction => exact (induction scanned).mono (behind _ _)
  | case5 line induction =>
      obtain ⟨later, scannedLater, rfl⟩ := Outcome.map_eq_ok_iff.mp scanned
      exact (induction scannedLater).next _
  | case6 character line _ _ induction =>
      obtain ⟨later, scannedLater, rfl⟩ := Outcome.map_eq_ok_iff.mp scanned
      exact (induction scannedLater).add _
  | case7 line induction =>
      obtain ⟨later, scannedLater, rfl⟩ := Outcome.map_eq_ok_iff.mp scanned
      exact ((induction scannedLater).add _).mono (behind _ _)
  | case8 line induction =>
      obtain ⟨later, scannedLater, rfl⟩ := Outcome.map_eq_ok_iff.mp scanned
      exact ((induction scannedLater).add _).mono (behind _ _)
  | case9 line induction => exact (induction scanned).mono (behind _ _)
  | case10 character line _ _ _ induction =>
      obtain ⟨later, scannedLater, rfl⟩ := Outcome.map_eq_ok_iff.mp scanned
      exact (induction scannedLater).add _
  | case11 line induction =>
      obtain ⟨later, scannedLater, rfl⟩ := Outcome.map_eq_ok_iff.mp scanned
      exact (induction scannedLater).next _
  | case12 => cases scanned

theorem mem_of_split {line column : String} {columns : List String}
    (cut : split line = .ok columns) (isColumn : column ∈ columns) {character : Char}
    (member : character ∈ column.toList) : character ∈ line.toList := by
  unfold split ofChars at cut
  cases scanned : scan .bare line.toList with
  | error stop => cases stop <;> simp [scanned, Except.map] at cut
  | ok rest =>
      rw [scanned] at cut
      cases cut
      obtain ⟨characters, isCharacters, rfl⟩ := List.mem_map.mp isColumn
      rw [String.toList_ofList] at member
      exact drawn_of_scan scanned characters isCharacters character member

end Columns

namespace Schema

theorem firstRepeated?_eq_none {seen names : List String}
    (unrepeated : firstRepeated? seen names = none) :
    names.Nodup ∧ ∀ name ∈ names, name ∉ seen := by
  induction names generalizing seen with
  | nil => exact ⟨.nil, by simp⟩
  | cons name names induction =>
      unfold firstRepeated? at unrepeated
      split at unrepeated
      · cases unrepeated
      · rename_i unseen
        obtain ⟨distinct, later⟩ := induction unrepeated
        refine ⟨List.nodup_cons.mpr ⟨?_, distinct⟩, ?_⟩
        · intro again
          exact later name again List.mem_cons_self
        · intro other member
          rcases List.mem_cons.mp member with rfl | behind
          · exact unseen
          · exact fun seenBefore => later other behind (List.mem_cons_of_mem _ seenBefore)

theorem firstRepeated?_of_nodup {seen names : List String} (distinct : names.Nodup)
    (unseen : ∀ name ∈ names, name ∉ seen) : firstRepeated? seen names = none := by
  induction names generalizing seen with
  | nil => rfl
  | cons name names induction =>
      obtain ⟨isNew, distinct⟩ := List.nodup_cons.mp distinct
      rw [firstRepeated?, if_neg (unseen name List.mem_cons_self)]
      apply induction distinct
      intro other member seenBefore
      rcases List.mem_cons.mp seenBefore with rfl | before
      · exact isNew member
      · exact unseen other (List.mem_cons_of_mem _ member) before

theorem exists_line {tool : String} {lines : List String} {declarations : List Declaration}
    (accepted : readLines tool lines = .ok declarations) {declaration : Declaration}
    (declared : declaration ∈ declarations) :
    ∃ line ∈ lines, readLine tool line = .ok (some declaration) := by
  induction lines generalizing declarations with
  | nil =>
      cases accepted
      cases declared
  | cons line lines induction =>
      obtain ⟨first, readFirst, accepted⟩ := Outcome.bind_eq_ok_iff.mp accepted
      obtain ⟨others, readOthers, joined⟩ := Outcome.bind_eq_ok_iff.mp accepted
      cases joined
      rcases List.mem_append.mp declared with isFirst | later
      · rw [Option.mem_toList] at isFirst
        exact ⟨line, List.mem_cons_self, isFirst ▸ readFirst⟩
      · obtain ⟨other, member, readOther⟩ := induction readOthers later
        exact ⟨other, List.mem_cons_of_mem _ member, readOther⟩

theorem isHidden_mode (constraint : Option Constraint) : isHidden "mode" constraint = true := by
  unfold isHidden
  split <;> simp

/-- The columns declare a parameter that users see. -/
structure Declares (tool : String) (columns : List String) (declaration : Declaration) :
    Prop where
  enough : 4 ≤ columns.length
  name : declaration.name = columns.getD 0 ""
  type : ParameterType.ofColumn? (columns.getD 1 "") = some declaration.type
  mode : declaration.mode = columns.getD 2 ""
  required : declaration.required = decide (declaration.mode = "a")
  default : readDefault tool declaration.name declaration.type (columns.getD 3 "") =
    .ok declaration.default
  constraint : readConstraint tool declaration.name declaration.type (columns.getD 4 "")
    (columns.getD 5 "") = .ok declaration.constraint
  help : declaration.help = Text.trim (columns.getD 6 "")
  shown : isHidden declaration.name declaration.constraint = false

/-- A line that is accepted either is passed over or declares a parameter. -/
theorem readLine_cases {tool line : String} {found : Option Declaration}
    (accepted : readLine tool line = .ok found) :
    ∃ columns type constraint, Columns.split line = .ok columns ∧ 4 ≤ columns.length ∧
      ParameterType.ofColumn? (columns.getD 1 "") = some type ∧
      readConstraint tool (columns.getD 0 "") type (columns.getD 4 "") (columns.getD 5 "") =
        .ok constraint ∧
      ((isHidden (columns.getD 0 "") constraint = true ∧ columns.getD 2 "" ≠ "a" ∧ found = none) ∨
        ∃ declaration, Declares tool columns declaration ∧ found = some declaration) := by
  unfold readLine at accepted
  obtain ⟨columns, cut, accepted⟩ := Outcome.bind_eq_ok_iff.mp accepted
  simp only at accepted
  split at accepted
  · cases accepted
  · rename_i enough
    cases typed : ParameterType.ofColumn? (columns.getD 1 "") with
    | none =>
        rw [typed] at accepted
        cases accepted
    | some type =>
        rw [typed] at accepted
        obtain ⟨constraint, isConstraint, accepted⟩ := Outcome.bind_eq_ok_iff.mp accepted
        refine ⟨columns, type, constraint, Outcome.mapError_eq_ok_iff.mp cut, Nat.not_lt.mp enough,
          typed, isConstraint, ?_⟩
        split at accepted
        · rename_i hidden
          split at accepted
          · cases accepted
          · rename_i optional
            cases accepted
            exact .inl ⟨hidden, optional, rfl⟩
        · rename_i shown
          obtain ⟨default, isDefault, accepted⟩ := Outcome.bind_eq_ok_iff.mp accepted
          cases accepted
          exact .inr ⟨_, ⟨Nat.not_lt.mp enough, rfl, typed, rfl, rfl, isDefault, isConstraint, rfl,
            Bool.eq_false_iff.mpr shown⟩, rfl⟩

theorem readLine_eq_some_iff {tool line : String} {declaration : Declaration} :
    readLine tool line = .ok (some declaration) ↔
      ∃ columns, Columns.split line = .ok columns ∧ Declares tool columns declaration := by
  constructor
  · intro accepted
    obtain ⟨columns, _, _, cut, _, _, _, ⟨_, _, skipped⟩ | ⟨_, declares, same⟩⟩ :=
      readLine_cases accepted
    · cases skipped
    · cases same
      exact ⟨columns, cut, declares⟩
  · rintro ⟨columns, cut, declares⟩
    obtain ⟨name, type, help, default, required, mode, constraint⟩ := declaration
    obtain ⟨enough, isName, typed, isMode, isRequired, isDefault, isConstraint, isHelp, shown⟩ :=
      declares
    dsimp only at isName typed isMode isDefault isConstraint isHelp shown
    subst isName isMode isHelp
    change required = decide (columns.getD 2 "" = "a") at isRequired
    subst isRequired
    unfold readLine
    simp only [cut, Outcome.mapError_ok, Outcome.ok_bind, Nat.not_lt.mpr enough, if_false,
      typed, isConstraint, shown, isDefault]
    rfl

theorem isLine_of_mem_contentLines {text line : String} (member : line ∈ contentLines text) :
    IsLine line := by
  obtain ⟨piece, isPiece, rfl⟩ := List.mem_map.mp (List.mem_filter.mp member).1
  exact fun inLine => Text.not_mem_of_mem_split isPiece (Text.mem_of_mem_trim inLine)

theorem isLine_getD {columns : List String} (lines : ∀ column ∈ columns, IsLine column)
    (position : Nat) : IsLine (columns.getD position "") := by
  rw [List.getD_eq_getElem?_getD]
  cases found : columns[position]? with
  | none => exact List.not_mem_nil
  | some column => exact lines column (List.mem_of_getElem? found)

/-- A schema that was read consists of the parameters that its lines declare. -/
theorem parts_of_read {tool text : String} {kind : ToolKind} {schema : Schema}
    (accepted : read tool text kind = .ok schema) :
    ∃ declarations, readLines tool (contentLines text) = .ok declarations ∧
      schema.names.Nodup ∧ schema =
        { name := tool, kind, executable := none
          required := declarations.filter fun declaration => declaration.required
          optional := declarations.filter fun declaration => !declaration.required } := by
  obtain ⟨declarations, readAll, accepted⟩ := Outcome.bind_eq_ok_iff.mp accepted
  refine ⟨declarations, readAll, ?_⟩
  simp only at accepted
  split at accepted
  · cases accepted
  · rename_i unrepeated
    cases accepted
    exact ⟨(firstRepeated?_eq_none unrepeated).1, rfl⟩

theorem exists_declaring_line {tool text : String} {kind : ToolKind} {schema : Schema}
    (accepted : read tool text kind = .ok schema) {declaration : Declaration}
    (declared : declaration ∈ schema.declarations) :
    ∃ line ∈ contentLines text, ∃ columns, Columns.split line = .ok columns ∧
      Declares tool columns declaration := by
  obtain ⟨declarations, readAll, _, rfl⟩ := parts_of_read accepted
  have isDeclared : declaration ∈ declarations := by
    rcases List.mem_append.mp declared with isRequired | isOptional
    · exact (List.mem_filter.mp isRequired).1
    · exact (List.mem_filter.mp isOptional).1
  obtain ⟨line, counted, ofLine⟩ := exists_line readAll isDeclared
  exact ⟨line, counted, readLine_eq_some_iff.mp ofLine⟩

theorem exists_declares {tool text : String} {kind : ToolKind} {schema : Schema}
    (accepted : read tool text kind = .ok schema) {declaration : Declaration}
    (declared : declaration ∈ schema.declarations) :
    ∃ columns, (∀ column ∈ columns, IsLine column) ∧ Declares tool columns declaration := by
  obtain ⟨line, counted, columns, cut, declares⟩ := exists_declaring_line accepted declared
  refine ⟨columns, ?_, declares⟩
  intro column isColumn inColumn
  exact isLine_of_mem_contentLines counted (Columns.mem_of_split cut isColumn inColumn)

/-- What holds of the parameters of a schema that was read. -/
structure Sound (schema : Schema) : Prop where
  distinct : schema.names.Nodup
  unreserved : "mode" ∉ schema.names
  help : ∀ declaration ∈ schema.declarations, IsLine declaration.help

theorem sound_of_read {tool text : String} {kind : ToolKind} {schema : Schema}
    (accepted : read tool text kind = .ok schema) : schema.Sound := by
  obtain ⟨_, _, distinct, _⟩ := parts_of_read accepted
  refine ⟨distinct, ?_, ?_⟩
  · intro reserved
    obtain ⟨declaration, declared, isMode⟩ := List.mem_map.mp reserved
    obtain ⟨_, _, declares⟩ := exists_declares accepted declared
    have hidden := isHidden_mode declaration.constraint
    rw [← isMode, declares.shown] at hidden
    cases hidden
  · intro declaration declared inHelp
    obtain ⟨columns, lines, declares⟩ := exists_declares accepted declared
    rw [declares.help] at inHelp
    exact isLine_getD lines 6 (Text.mem_of_mem_trim inHelp)

end Schema

end ToolParams
