import ToolParams.Proofs.ParameterFile.Declared
import ToolParams.Proofs.ParameterFile.Folding
import ToolParams.Proofs.ParameterFile.Redirects

/-!
# The order of the lines of a file

When no name has two lines, a file says the same whatever the order of its lines: the contents
give every name the same text.  A store is read from the contents, and held against them,
parameter by parameter in the order of the declarations, so neither depends on the order in
which the contents list their names.
-/

namespace ToolParams.ParameterFile

open ToolParams.Action (Concur)

/-- A file of which every line can be split into columns and is about a name of its own. -/
structure IsTable (text : String) : Prop where
  columned : ∀ line ∈ Schema.contentLines text, (Columns.split line).isOk = true
  named : "" ∉ (Schema.contentLines text).map lineName
  apart : ((Schema.contentLines text).map lineName).Nodup

variable {σ : Type} {contents alike : Contents} {text rearranged path second : String}
  {store : Store} {overflow : Overflow} {declaration : Declaration}
  {declarations : List Declaration} {world next : World}

section Lines

theorem exists_split {line : String} (isOk : (Columns.split line).isOk = true) :
    ∃ columns, Columns.split line = .ok columns := by
  cases cut : Columns.split line with
  | ok columns => exact ⟨columns, rfl⟩
  | error fault =>
      rw [cut] at isOk
      cases isOk

theorem exists_addLines {lines : List String}
    (columned : ∀ line ∈ lines, (Columns.split line).isOk = true) (contents : Contents) :
    ∃ final, addLines contents lines = .ok final := by
  induction lines generalizing contents with
  | nil => exact ⟨contents, rfl⟩
  | cons line rest induction =>
      obtain ⟨columns, cut⟩ := exists_split (columned line List.mem_cons_self)
      obtain ⟨final, added⟩ := induction (fun other member =>
        columned other (List.mem_cons_of_mem _ member)) (addColumns contents columns)
      refine ⟨final, ?_⟩
      rw [addLines, cut]
      exact added

theorem IsTable.of_perm (table : IsTable text)
    (permuted : (Schema.contentLines text).Perm (Schema.contentLines rearranged)) :
    IsTable rearranged where
  columned := fun line member => table.columned line (permuted.mem_iff.mpr member)
  named := fun member => table.named ((permuted.map lineName).mem_iff.mpr member)
  apart := (permuted.map lineName).nodup_iff.mp table.apart

/-- The contents of a table give a name the value column of its line. -/
theorem IsTable.get?_eq_some_iff (table : IsTable text)
    (isContents : ParameterFile.contents text = .ok contents) {name value : String} :
    contents.get? name = some value ↔ IsValueColumn text name value ∧ name ≠ "" := by
  constructor
  · intro found
    by_cases listed : name ∈ (Schema.contentLines text).map lineName
    · obtain ⟨line, member, rfl⟩ := List.mem_map.mp listed
      obtain ⟨columns, cut⟩ := exists_split (table.columned line member)
      have filled : lineName line ≠ "" := fun unnamed => table.named (unnamed ▸ listed)
      rw [lineName_of_split cut] at found filled ⊢
      rw [get?_addLines_of_mem isContents table.apart member cut filled] at found
      exact ⟨⟨line, member, columns, cut, rfl, Option.some.inj found⟩, filled⟩
    · rw [get?_addLines_of_not_mem isContents listed] at found
      cases found
  · rintro ⟨⟨line, member, columns, cut, rfl, rfl⟩, filled⟩
    exact get?_addLines_of_mem isContents table.apart member cut filled

theorem IsTable.contents_of_perm (table : IsTable text)
    (permuted : (Schema.contentLines text).Perm (Schema.contentLines rearranged)) :
    ∃ contents alike, ParameterFile.contents text = .ok contents ∧
      ParameterFile.contents rearranged = .ok alike ∧
      ∀ name, alike.get? name = contents.get? name := by
  have other := table.of_perm permuted
  obtain ⟨contents, isContents⟩ := exists_addLines table.columned .empty
  obtain ⟨alike, isAlike⟩ := exists_addLines other.columned .empty
  refine ⟨contents, alike, isContents, isAlike, fun name => Option.ext fun value => ?_⟩
  rw [other.get?_eq_some_iff isAlike, table.get?_eq_some_iff isContents]
  simp only [IsValueColumn, permuted.mem_iff]

end Lines

section Comparison

theorem departure?_congr (same : ∀ name, alike.get? name = contents.get? name) (store : Store)
    (overflow : Overflow) (declaration : Declaration) :
    (departure? store overflow alike declaration : Action σ (Option Mismatch)) =
      departure? store overflow contents declaration := by
  have sameText : concreteText alike = concreteText contents := by
    funext environment text
    rw [concreteText, concreteText, follow_congr same]
  simp only [departure?, agrees, same, sameText]

theorem concur_resolvedText? (store : Store) (declaration : Declaration) (fallback : String) :
    Concur (resolvedText? store declaration fallback : Action σ (Option String))
      (resolvedText? store declaration fallback) := by
  unfold resolvedText?
  cases store.resolve declaration.name with
  | ok value => exact .pure _
  | error fault => exact .bind (.note _ _ _ _) fun _ => .pure _

theorem concur_agrees (store : Store) (declaration : Declaration) (contents : Contents)
    (held actual : String) :
    Concur (agrees store declaration contents held actual : Action σ Bool)
      (agrees store declaration contents held actual) := by
  unfold agrees
  refine .bind_world fun world other sameVariables => ?_
  simp only [sameVariables]
  exact .bind (concur_resolvedText? _ _ _) fun _ => .pure _

theorem concur_departure? (store : Store) (overflow : Overflow) (contents : Contents)
    (declaration : Declaration) :
    Concur (departure? store overflow contents declaration : Action σ (Option Mismatch))
      (departure? store overflow contents declaration) := by
  unfold departure?
  dsimp only
  split
  · exact .pure _
  · exact .pure _
  · split
    · exact .pure _
    · split
      · refine .bind (concur_agrees _ _ _ _ _) fun same => ?_
        cases same <;> exact .pure _
      · exact .throw _

theorem concur_compare (same : ∀ name, alike.get? name = contents.get? name) (store : Store)
    (path second : String) (overflow : Overflow) (declarations : List Declaration) :
    Concur (compare store path overflow contents declarations : Action σ (List Mismatch))
      (compare store second overflow alike declarations) := by
  induction declarations with
  | nil => exact .pure _
  | cons declaration rest induction =>
      unfold compare
      rw [departure?_congr same]
      refine .bind (concur_departure? store overflow contents declaration) fun departed => ?_
      cases departed with
      | none => exact induction
      | some mismatch =>
          refine .bind (.note _ _ _ _) fun _ => ?_
          exact .bind induction fun _ => .pure _

end Comparison

section Files

/-- Whether it succeeds, and what it makes of the store, does not change for reading a file
when the lines are put in another order. -/
theorem read_of_perm (table : IsTable text)
    (permuted : (Schema.contentLines text).Perm (Schema.contentLines rearranged))
    (found : world.files.read path = .ok text) (foundToo : next.files.read second = .ok rearranged)
    (sameStacks : ∀ name stack, overflow.get? name = some stack →
      next.files.read stack = world.files.read stack) (store : Store) :
    readFrom next.files second overflow store = readFrom world.files path overflow store := by
  obtain ⟨contents, alike, isContents, isAlike, same⟩ := table.contents_of_perm permuted
  exact readFrom_alike (loadFrom_of_contents found isContents)
    (loadFrom_of_contents foundToo isAlike) sameStacks fun declaration _ => same declaration.name

theorem concur_verify (table : IsTable text)
    (permuted : (Schema.contentLines text).Perm (Schema.contentLines rearranged))
    (found : world.files.read path = .ok text) (foundToo : next.files.read second = .ok rearranged)
    (sameVariables : next.environment = world.environment) (store : Store)
    (overflow : Overflow) (state : σ) :
    ∃ answer noted nextNoted, world.Noted noted ∧ next.Noted nextNoted ∧
      (verify store path overflow).perform world state = (answer, noted, state) ∧
      (verify store second overflow).perform next state = (answer, nextNoted, state) := by
  obtain ⟨contents, alike, isContents, isAlike, same⟩ := table.contents_of_perm permuted
  simp only [verify, Action.perform_bind, Action.perform_outcome, perform_load,
    loadFrom_of_contents found isContents, loadFrom_of_contents foundToo isAlike]
  exact concur_compare same store path second overflow store.declarations world next state
    sameVariables

/-- Files that hold the same lines in different orders, none of them about a name that
another one is about, do the same to a store and are held against it with the same result: the
values are read into it, or the same failure leaves it as it was, and the same mismatches are
given in the same order.  The files may stand side by side or one in the place of the other, as
long as the stack files are the same. -/
theorem read_of_rearranged {σ : Type} (store : Store) (overflow : Overflow)
    (path second : String) (world next : World) (text rearranged : String) (state : σ)
    (table : IsTable text)
    (permuted : (Schema.contentLines text).Perm (Schema.contentLines rearranged))
    (found : world.files.read path = .ok text)
    (foundToo : next.files.read second = .ok rearranged)
    (sameVariables : next.environment = world.environment)
    (sameStacks : ∀ name stack, overflow.get? name = some stack →
      next.files.read stack = world.files.read stack) :
    ((∃ noted nextNoted final,
        (read path overflow).perform world store = (.ok (), noted, final) ∧
        (read second overflow).perform next store = (.ok (), nextNoted, final)) ∨
      ∃ noted nextNoted failure,
        (read path overflow).perform world store = (.error failure, noted, store) ∧
        (read second overflow).perform next store = (.error failure, nextNoted, store)) ∧
    ∃ noted nextNoted answer,
      (verify store path overflow).perform world state = (answer, noted, state) ∧
      (verify store second overflow).perform next state = (answer, nextNoted, state) ∧
      ((∀ declaration ∈ store.declarations, declaration.type.IsLettered) →
        ∃ mismatches, answer = .ok mismatches) := by
  constructor
  · obtain ⟨noted, _, reads⟩ := perform_read path overflow world store
    obtain ⟨nextNoted, _, readsToo⟩ := perform_read second overflow next store
    rw [read_of_perm table permuted found foundToo sameStacks] at readsToo
    cases ended : readFrom world.files path overflow store with
    | ok final =>
        rw [ended] at reads readsToo
        exact .inl ⟨noted, nextNoted, final, reads, readsToo⟩
    | error failure =>
        rw [ended] at reads readsToo
        exact .inr ⟨noted, nextNoted, failure, reads, readsToo⟩
  · obtain ⟨answer, noted, nextNoted, _, _, verifies, verifiesToo⟩ :=
      concur_verify table permuted found foundToo sameVariables store overflow state
    refine ⟨noted, nextNoted, answer, verifies, verifiesToo, fun lettered => ?_⟩
    obtain ⟨mismatches, _, _, performed⟩ := watches_verify path overflow
      (fun declaration declared => hasText_of_lettered (lettered declaration declared)) world state
    rw [verifies] at performed
    cases performed
    exact ⟨mismatches, rfl⟩

/-- A schema with a list, and two numbers of which one limits the other. -/
def gate : Schema :=
  { name := "gate", kind := .parameterFile, executable := none, required := []
    optional := [
      { name := "files", type := .string, help := "", default := .null, required := false,
        mode := "h", constraint := none },
      { name := "low", type := .integer, help := "", default := .number (.ofNat 0),
        required := false, mode := "h", constraint := some (.range .unbounded (.text ")high")) },
      { name := "high", type := .integer, help := "", default := .number (.ofNat 10),
        required := false, mode := "h", constraint := none }] }

/-- A file in which the limited number comes first. -/
def gateText : String := "low,i,h,12,,)high,\nfiles,s,h,\"@-gate.stk\",,,\nhigh,i,h,20,,,\n"

/-- The same lines in another order, with other line ends. -/
def turnedGateText : String :=
  "# turned\r\nhigh,i,h,20,,,\r\n\r\n  low,i,h,12,,)high,\r\nfiles,s,h,\"@-gate.stk\",,,"

/-- A world with these files, and with the stack file that they refer to. -/
def gateWorld : World :=
  { World.empty with
    files := ((FileTree.empty.place ["gate.par"] (.file gateText FileTree.fileMode)).place
      ["turned.par"] (.file turnedGateText FileTree.fileMode)).place
      ["gate.stk"] (.file "a\nb\n" FileTree.fileMode) }

def gateStacks : Overflow := ⟨[("files", "gate.stk")]⟩

def openGate : Store := (Store.fresh gate).put "high" (.literal (.number (.ofNat 30)))

theorem isTable_gate : IsTable gateText :=
  ⟨by decide +kernel, by decide +kernel, by decide +kernel⟩

/-- The lower number is taken before the upper one in either file: where the upper one is still
small it is refused. -/
theorem read_of_rearranged_gate :
    IsTable gateText ∧
      (Schema.contentLines gateText).Perm (Schema.contentLines turnedGateText) ∧
      (∃ noted nextNoted final,
        (read "gate.par" gateStacks).perform gateWorld openGate = (.ok (), noted, final) ∧
          (read "turned.par" gateStacks).perform gateWorld openGate = (.ok (), nextNoted, final) ∧
          final.entries =
            [("files", .text "a,b"), ("low", .number (.ofNat 12)), ("high", .number (.ofNat 20))]) ∧
      (∃ noted nextNoted,
        (read "gate.par" gateStacks).perform gateWorld (Store.fresh gate) =
            (.error (.store (.value (.above "gate" "low" (.ofNat 10) (.ofNat 12)))), noted,
              Store.fresh gate) ∧
          (read "turned.par" gateStacks).perform gateWorld (Store.fresh gate) =
            (.error (.store (.value (.above "gate" "low" (.ofNat 10) (.ofNat 12)))), nextNoted,
              Store.fresh gate)) ∧
      ∃ noted nextNoted,
        (verify (Store.fresh gate) "gate.par" gateStacks).perform gateWorld () =
            (.ok [⟨"low", "0", some "12"⟩, ⟨"high", "10", some "20"⟩], noted, ()) ∧
          (verify (Store.fresh gate) "turned.par" gateStacks).perform gateWorld () =
            (.ok [⟨"low", "0", some "12"⟩, ⟨"high", "10", some "20"⟩], nextNoted, ()) := by
  have permuted : (Schema.contentLines gateText).Perm (Schema.contentLines turnedGateText) := by
    decide +kernel
  have found : gateWorld.files.read "gate.par" = .ok gateText := by decide +kernel
  have foundToo : gateWorld.files.read "turned.par" = .ok turnedGateText := by decide +kernel
  have alike (store : Store) := read_of_rearranged store gateStacks "gate.par" "turned.par"
    gateWorld gateWorld gateText turnedGateText () isTable_gate permuted found foundToo rfl
    fun _ _ _ => rfl
  refine ⟨isTable_gate, permuted, ?_, ?_, ?_⟩
  · have succeeds : ((read "gate.par" gateStacks).perform gateWorld openGate).1 = .ok () ∧
        ((read "gate.par" gateStacks).perform gateWorld openGate).2.2.entries =
          [("files", .text "a,b"), ("low", .number (.ofNat 12)),
            ("high", .number (.ofNat 20))] := by
      decide +kernel
    rcases (alike openGate).1 with
      ⟨noted, nextNoted, final, reads, readsToo⟩ | ⟨_, _, failure, reads, _⟩
    · rw [reads] at succeeds
      exact ⟨noted, nextNoted, final, reads, readsToo, succeeds.2⟩
    · rw [reads] at succeeds
      cases succeeds.1
  · have fails : ((read "gate.par" gateStacks).perform gateWorld (Store.fresh gate)).1 =
        .error (.store (.value (.above "gate" "low" (.ofNat 10) (.ofNat 12)))) := by
      decide +kernel
    rcases (alike (Store.fresh gate)).1 with
      ⟨_, _, final, reads, _⟩ | ⟨noted, nextNoted, failure, reads, readsToo⟩
    · rw [reads] at fails
      cases fails
    · rw [reads] at fails
      cases fails
      exact ⟨noted, nextNoted, reads, readsToo⟩
  · have differ : ((verify (Store.fresh gate) "gate.par" gateStacks).perform gateWorld ()).1 =
        .ok [⟨"low", "0", some "12"⟩, ⟨"high", "10", some "20"⟩] := by
      decide +kernel
    obtain ⟨noted, nextNoted, answer, verifies, verifiesToo, _⟩ := (alike (Store.fresh gate)).2
    rw [verifies] at differ
    cases differ
    exact ⟨noted, nextNoted, verifies, verifiesToo⟩

end Files

end ToolParams.ParameterFile
