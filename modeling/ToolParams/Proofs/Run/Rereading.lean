import ToolParams.Proofs.ParameterFile.RoundTrip
import ToolParams.Proofs.Run.Stages

/-!
# Runs that leave the parameter file alone

When a tool does not touch its parameter file, the run reads back what it wrote.  Each
parameter that is found in the file again is checked against the present values, though
it was first checked against those of its own time.  So the run succeeds exactly when
the present values accept one another, and the store keeps its values in any case.
-/

namespace ToolParams

open Outcome (Alike)

/-- Every parameter that is found in a file again is accepted with the value that it has. -/
def Store.AcceptsListed (store : Store) : Prop :=
  ∀ declaration ∈ store.declarations, isListed declaration.name = true →
    ∃ stored, store.validate declaration.name
      (.scalar (store.entry declaration.name).raw) = .ok stored

theorem Store.acceptsListed_iff {store : Store} (distinct : store.schema.names.Nodup) :
    store.AcceptsListed ↔
      ∀ declaration ∈ store.declarations, isListed declaration.name = true →
        ∃ stored, store.check declaration
          (.scalar (store.entry declaration.name).raw) = .ok stored := by
  constructor
  · intro accepts declaration declared listed
    obtain ⟨stored, validated⟩ := accepts declaration declared listed
    rw [validate_eq distinct declared] at validated
    exact ⟨stored, Outcome.mapError_eq_ok_iff.mp validated⟩
  · intro accepts declaration declared listed
    obtain ⟨stored, checked⟩ := accepts declaration declared listed
    rw [validate_eq distinct declared]
    exact ⟨stored, Outcome.mapError_eq_ok_iff.mpr checked⟩

namespace ParameterFile

section Rereading

variable {store now : Store} {declaration : Declaration} {stored other : Stored} {text : String}

theorem check_reads_alike (reads : Reads declaration stored text) (same : store.Same now) :
    Alike Stored.Same (store.check declaration (.scalar stored.raw))
      (now.check declaration (plainInput declaration text)) := by
  cases reads with
  | literal plain plainText kept taken values =>
      refine Store.check_literal_alike plain plainText ?_ same.schema ?_
      · rw [Stored.raw, kept, taken]
        exact .ok values
      · exact fun target _ => Store.followTarget_alike same _ target _
  | redirect written isInput =>
      rw [isInput] at written ⊢
      exact Store.check_redirect_alike same written

/-- A stable entry that is accepted stays as it is. -/
theorem check_stays (reads : Reads declaration stored text) (stable : stored.Stable declaration)
    (accepted : store.check declaration (.scalar stored.raw) = .ok other) : other = stored := by
  cases reads with
  | @literal value _ _ plain _ kept _ _ =>
      unfold Store.check at accepted
      simp only [Stored.raw, plain] at accepted
      obtain ⟨concrete, coerced, accepted⟩ := Outcome.bind_eq_ok_iff.mp accepted
      obtain ⟨final, constrained, stores⟩ := Outcome.bind_eq_ok_iff.mp accepted
      rw [kept] at coerced
      cases coerced
      cases stores
      rw [(stable_of_constraint stable.admits constrained).2 stable]
  | @redirect target _ written isInput =>
      rw [isInput] at written
      unfold Store.check at accepted
      simp only [written] at accepted
      obtain ⟨_, _, accepted⟩ := Outcome.bind_eq_ok_iff.mp accepted
      obtain ⟨_, _, accepted⟩ := Outcome.bind_eq_ok_iff.mp accepted
      obtain ⟨_, _, stores⟩ := Outcome.bind_eq_ok_iff.mp accepted
      cases stores
      rfl

theorem check_of_unlinked {value : Scalar} (reads : Reads declaration (.literal value) text)
    (stable : value.Stable declaration) (unlinked : declaration.limitTargets = []) :
    store.check declaration (.scalar value) = .ok (.literal value) := by
  cases reads with
  | literal plain _ kept _ _ =>
      unfold Store.check
      simp only [plain, kept, Outcome.ok_bind, stable.meets unlinked]
      rfl

/-- Assigning what was written from a store succeeds exactly when the store accepts its
own entries, and changes none of them. -/
theorem assignFrom_rereads {files : FileTree} {found : Contents}
    (distinct : store.schema.names.Nodup) (stable : store.Stable) (shown : Shown store)
    {declarations : List Declaration}
    (declared : ∀ declaration ∈ declarations, declaration ∈ store.declarations)
    (misses : ∀ declaration ∈ declarations, isListed declaration.name = false →
      found.get? declaration.name = none)
    (finds : ∀ declaration ∈ declarations, isListed declaration.name = true →
      found.get? declaration.name = some (textOf store declaration))
    (same : store.Same now) :
    ((∃ final, assignFrom files .empty found declarations now = .ok final) ↔
        ∀ declaration ∈ declarations, isListed declaration.name = true →
          ∃ stored, store.check declaration
            (.scalar (store.entry declaration.name).raw) = .ok stored) ∧
      ∀ final, assignFrom files .empty found declarations now = .ok final →
        store.Same final := by
  induction declarations generalizing now with
  | nil =>
      refine ⟨⟨fun _ => by simp, fun _ => ⟨now, rfl⟩⟩, ?_⟩
      rintro final ⟨⟩
      exact same
  | cons declaration declarations induction =>
      have isDeclared := declared declaration List.mem_cons_self
      have later (now : Store) (same : store.Same now) :=
        @induction now (fun other member => declared other (List.mem_cons_of_mem _ member))
          (fun other member => misses other (List.mem_cons_of_mem _ member))
          (fun other member => finds other (List.mem_cons_of_mem _ member)) same
      unfold assignFrom
      by_cases listed : isListed declaration.name = true
      · have reads := (shown declaration isDeclared).reads
        have alike := check_reads_alike reads same
        have isDeclaredNow : declaration ∈ now.declarations := by
          rw [Store.declarations, same.schema]
          exact isDeclared
        have assigns := Store.set_eq (same.schema ▸ distinct) isDeclaredNow
          (plainInput declaration (textOf store declaration))
        simp only [finds declaration List.mem_cons_self listed, inputFrom_empty,
          Outcome.ok_bind, assigns, List.forall_mem_cons]
        cases checked : store.check declaration
            (.scalar (store.entry declaration.name).raw) with
        | error fault =>
            obtain ⟨other, refused⟩ := alike.error_of_error checked
            simp [refused, listed, Except.map]
        | ok kept =>
            obtain ⟨taken, ofNow, sameEntry⟩ := alike.ok_of_ok checked
            rw [check_stays reads (stable declaration isDeclared) checked] at sameEntry
            have rest := later (now.put declaration.name taken) (same.put sameEntry)
            simpa [ofNow, listed, Except.map] using rest
      · rw [Bool.not_eq_true] at listed
        simpa [misses declaration List.mem_cons_self listed, listed] using later now same

end Rereading

end ParameterFile

namespace Runner

/-- The file can be written, and a tool that is started then ends with code 0 and leaves
the file readable as it was written. -/
def Uneventful (launcher : Launcher) (files : FileTree) (file : String) : Prop :=
  ∀ content, ∃ written, files.write file content = .ok written ∧
    ∀ request, ∃ completion left, launcher request written = (.ok completion, left) ∧
      isSuccess completion.code = true ∧ left.read file = .ok content

/-- What comes of a run that reads back what it wrote. -/
structure Rereads (store : Store) (result : Except Failure RunResult) (final : Store) :
    Prop where
  /-- the run succeeds exactly when the store accepts its own entries -/
  succeeds_iff : (∃ value, result = .ok value) ↔ store.AcceptsListed
  /-- the entries stay as they are up to the signs of zeros -/
  unchanged : final.settledEntries = store.settledEntries
  /-- a run that fails leaves the store exactly as it was -/
  restored : ∀ failure, result = .error failure → final = store
  /-- only redirects, of entries or of limits, can make an entry unacceptable -/
  accepts : ∀ declaration ∈ store.declarations, declaration.limitTargets = [] →
    ∀ value, store.entry declaration.name = .literal value →
      store.validate declaration.name (.scalar value) = .ok (.literal value)

theorem perform_bindArguments_none {options : RunOptions} (ordered : options.arguments = [])
    (named : options.parameters = []) (world : World) (store : Store) :
    (bindArguments options).perform world store = (.ok (), world, store) := by
  have unbounded : ¬store.declarations.length < ([] : List Input).length := Nat.not_lt_zero _
  have none : OrderedMap.members ([] : List (String × Input)) = [] := by
    simp [OrderedMap.members, OrderedMap.indexFirst, OrderedMap.ofList, OrderedMap.insertAll,
      OrderedMap.empty]
  unfold bindArguments
  rw [ordered, named]
  simp only [Action.perform_bind, Action.perform_state, unbounded, if_false, none]
  cases store.declarations <;> rfl

/-- When nothing else happens, a run succeeds exactly when its values can be assigned. -/
theorem Course.rereads {runner : Runner} {launcher : Launcher} {options : RunOptions}
    {world saved worked after : World} {bound final : Store} {result : Except Failure RunResult}
    {file : String} {written : Except Failure Unit} {overflow : ParameterFile.Overflow}
    (course : Course runner launcher options world bound result after final file written overflow
      saved worked)
    (shown : ParameterFile.Shown bound)
    (fits : ∀ declaration ∈ bound.declarations,
      ParameterFile.exceeds runner.limit (ParameterFile.textOf bound declaration) = false)
    (uneventful : Uneventful launcher world.files file) {found : ParameterFile.Contents}
    (isContent : ParameterFile.contents
      (ParameterFile.contentOf (ParameterFile.textOf bound) bound.declarations) = .ok found) :
    ((∃ value, result = .ok value) ↔ ∃ reached,
        ParameterFile.assignFrom worked.files .empty found bound.declarations bound =
          .ok reached) ∧
      ∀ value, result = .ok value →
        ParameterFile.assignFrom worked.files .empty found bound.declarations bound =
          .ok final := by
  obtain ⟨start, startFiles, wrote⟩ := course.wrote
  obtain ⟨_, performed⟩ := @ParameterFile.perform_write_of_shown bound _ file shown fits start
  obtain ⟨there, writes, behaves⟩ := uneventful
    (ParameterFile.contentOf (ParameterFile.textOf bound) bound.declarations)
  rw [wrote, startFiles, writes] at performed
  cases performed
  rcases course.working with ⟨_, failed, _⟩ | ⟨_, operated⟩
  · cases failed
  obtain ⟨completion, left, launched, success, reads⟩ := behaves
    (requestOf options (runner.command bound.schema) file .empty world.environment bound)
  have isLeft : worked.files = left := by
    rw [operated.files, World.withFiles_files, launched]
  have folds : ParameterFile.readFrom worked.files file .empty bound =
      ParameterFile.assignFrom worked.files .empty found bound.declarations bound := by
    unfold ParameterFile.readFrom ParameterFile.loadFrom
    simp only [isLeft, reads, Outcome.mapError_ok, Outcome.ok_bind, isContent]
  have succeeds_iff := operated.succeeds_iff
  have reached := operated.reached
  rw [folds] at reached
  simp only [World.withFiles_files, launched, Except.ok.injEq, folds] at succeeds_iff
  refine ⟨succeeds_iff.trans ⟨?_, ?_⟩, reached⟩
  · rintro ⟨_, last, _, _, ended⟩
    exact ⟨last, ended⟩
  · rintro ⟨last, ended⟩
    exact ⟨completion, last, rfl, success, ended⟩

/-- A runner of a tool, and values for it.  They were assigned, each accepted, to the
parameters of a schema that was read, and each can be read from its line. -/
structure Prepared (runner : Runner) (store : Store) : Prop where
  accepted : ∃ tool text kind, Schema.read tool text kind = .ok store.schema
  runs : store.schema.kind ≠ .parametersOnly
  legible : store.schema.Legible
  kept : Store.KeepsDefaults store.schema
  assigned : (Store.fresh store.schema).Assigned store
  shown : ∀ declaration ∈ store.schema.declarations,
    (store.entry declaration.name).IsShown declaration
  fits : ∀ declaration ∈ store.schema.declarations,
    (ParameterFile.valueText? declaration (store.entry declaration.name)).any
      (ParameterFile.exceeds runner.limit) = false

namespace Prepared

variable {runner : Runner} {store : Store}

theorem sound (prepared : Prepared runner store) : store.schema.Sound := by
  obtain ⟨tool, text, kind, accepted⟩ := prepared.accepted
  exact Schema.sound_of_read accepted

theorem stable (prepared : Prepared runner store) : store.Stable :=
  prepared.assigned.stable prepared.sound.distinct prepared.legible.type
    (Store.stable_fresh prepared.sound.distinct prepared.legible.type prepared.kept)

theorem isShown (prepared : Prepared runner store) : ParameterFile.Shown store := by
  have resolved : store.Resolved :=
    prepared.assigned.resolved (Store.resolved_fresh prepared.sound.distinct prepared.kept)
  apply ParameterFile.shown_of_stable prepared.legible prepared.stable prepared.shown
  intro declaration declared target redirect
  exact resolved.declared (List.mem_map_of_mem declared) redirect

theorem fitting (prepared : Prepared runner store) :
    ∀ declaration ∈ store.declarations,
      ParameterFile.exceeds runner.limit (ParameterFile.textOf store declaration) = false := by
  intro declaration declared
  have short := prepared.fits declaration declared
  rw [(prepared.isShown declaration declared).held] at short
  exact short

theorem accepts (prepared : Prepared runner store) :
    ∀ declaration ∈ store.declarations, declaration.limitTargets = [] →
      ∀ value, store.entry declaration.name = .literal value →
        store.validate declaration.name (.scalar value) = .ok (.literal value) := by
  intro declaration declared unlinked value held
  have reads := (prepared.isShown declaration declared).reads
  have stableHere := prepared.stable declaration declared
  rw [held] at reads stableHere
  rw [Store.validate_eq prepared.sound.distinct declared,
    ParameterFile.check_of_unlinked reads stableHere unlinked]
  rfl

end Prepared

/-- A run without arguments, of a tool that leaves its file alone, keeps the values of
the store; it succeeds exactly when they are still accepted. -/
theorem rereads_run {runner : Runner} {store : Store} (prepared : Prepared runner store)
    (alone : ∀ declaration ∈ store.declarations, ∀ other ∈ store.declarations,
      isListed declaration.name = true → ParameterFile.keyOf other.name = declaration.name →
        other.name = declaration.name)
    {options : RunOptions} (ordered : options.arguments = []) (named : options.parameters = [])
    {launcher : Launcher} {world : World}
    (uneventful : Uneventful launcher world.files
      (runner.parameterFile store.schema world.namesGiven)) :
    ∃ result after final,
      (runner.run launcher options).perform world store = (result, after, final) ∧
        Rereads store result final := by
  have distinct := prepared.sound.distinct
  obtain ⟨found, isContent, misses, finds⟩ :=
    ParameterFile.contents_of_shown prepared.legible prepared.sound prepared.isShown
  obtain ⟨result, after, final, written, overflow, saved, worked, performed, course⟩ :=
    perform_run_of_bound runner launcher prepared.runs
      (perform_bindArguments_none ordered named world store)
  obtain ⟨reread, keeps⟩ :=
    course.rereads prepared.isShown prepared.fitting uneventful isContent
  have folded := @ParameterFile.assignFrom_rereads store store worked.files found distinct
    prepared.stable prepared.isShown store.declarations (fun _ declared => declared)
    (fun declaration declared => misses _ (List.mem_map_of_mem declared))
    (fun declaration declared listed => finds declaration declared listed
      fun other otherDeclared => alone declaration declared other otherDeclared listed)
    (.refl store)
  have succeeds_iff : (∃ value, result = .ok value) ↔ store.AcceptsListed := by
    rw [reread, folded.1, Store.acceptsListed_iff distinct]
  cases result with
  | error failure =>
      exact ⟨_, after, store, performed,
        ⟨succeeds_iff, rfl, fun _ _ => rfl, prepared.accepts⟩⟩
  | ok value =>
      have same := folded.2 final (keeps value rfl)
      refine ⟨_, after, final, performed, ⟨succeeds_iff, ?_, ?_, prepared.accepts⟩⟩
      · exact Store.settledEntries_eq same.schema fun declaration _ => same.entry declaration.name
      · rintro failure ⟨⟩

/-- A schema in which one parameter is the lower limit of another. -/
def gauge : Schema :=
  { name := "gauge", kind := .parameterFile, executable := none, required := []
    optional := [
      { name := "low", type := .integer, help := "", default := .number (.ofNat 0),
        required := false, mode := "h", constraint := none },
      { name := "level", type := .integer, help := "", default := .number (.ofNat 5),
        required := false, mode := "h", constraint := some (.range (.text ")low") .unbounded) }] }

/-- A gauge whose lower limit was changed. -/
def gaugeFrom (low : Nat) : Store :=
  (Store.fresh gauge).put "low" (.literal (.number (.ofNat low)))

/-- A schema in which one name is another one behind a blank. -/
def indentedGauge : Schema :=
  { name := "gauge", kind := .parameterFile, executable := none, required := []
    optional := [
      { name := "level", type := .integer, help := "", default := .number (.ofNat 1),
        required := false, mode := "h", constraint := none },
      { name := " level", type := .integer, help := "", default := .number (.ofNat 2),
        required := false, mode := "h", constraint := none }] }

/-- A tool that does nothing. -/
def idle : Launcher := fun _ files =>
  (.ok { code := some (.ofNat 0), signal := none, output := "" }, files)

/-- A runner of tools that are found along the path, with files where the program is. -/
def bare : Runner :=
  { programs := none, scratch := "", limit := ParameterFile.defaultLimit, verify := false }

theorem accepted_gauge :
    Schema.read "gauge" "low,i,h,0,,,\nlevel,i,h,5,)low,," .parameterFile = .ok gauge := by
  decide +kernel

theorem legible_gauge : gauge.Legible :=
  ⟨by decide +kernel, by decide +kernel, by decide +kernel, by decide +kernel⟩

theorem keepsDefaults_gauge : Store.KeepsDefaults gauge := by
  unfold Store.KeepsDefaults
  decide +kernel

theorem prepared_gaugeFrom {low : Nat}
    (assigned : (Store.fresh gauge).set "low" (.scalar (.number (.ofNat low))) =
      .ok (gaugeFrom low, .number (.ofNat low)))
    (shown : ∀ declaration ∈ gauge.declarations,
      ((gaugeFrom low).entry declaration.name).IsShown declaration)
    (fits : ∀ declaration ∈ gauge.declarations,
      (ParameterFile.valueText? declaration ((gaugeFrom low).entry declaration.name)).any
        (ParameterFile.exceeds bare.limit) = false) :
    Prepared bare (gaugeFrom low) where
  accepted := ⟨_, _, _, accepted_gauge⟩
  runs := nofun
  legible := legible_gauge
  kept := keepsDefaults_gauge
  assigned := .set .refl assigned
  shown := shown
  fits := fits

theorem prepared_indentedGauge : Prepared bare (Store.fresh indentedGauge) where
  accepted :=
    ⟨"gauge", "level,i,h,1,,,\n\" level\",i,h,2,,,", .parameterFile, by decide +kernel⟩
  runs := nofun
  legible := ⟨by decide +kernel, by decide +kernel, by decide +kernel, by decide +kernel⟩
  kept := by
    unfold Store.KeepsDefaults
    decide +kernel
  assigned := .refl
  shown := by decide +kernel
  fits := by decide +kernel

theorem uneventful_idle {schema : Schema} (named : schema.name = "gauge") :
    Uneventful idle World.empty.files (bare.parameterFile schema World.empty.namesGiven) := by
  have isFile : bare.parameterFile schema World.empty.namesGiven =
      "gauge.00000000-0000-4000-8000-000000000000.par" := by
    unfold parameterFile
    rw [named]
    decide +kernel
  have keeps : World.empty.files.Keeps "gauge.00000000-0000-4000-8000-000000000000.par" := by
    apply FileTree.keeps_of_readable
    intro place content mode _ held
    unfold FileTree.node? at held
    split at held <;> cases held
  rw [isFile]
  intro content
  obtain ⟨written, writes⟩ : ∃ written, World.empty.files.write
      "gauge.00000000-0000-4000-8000-000000000000.par" content = .ok written := ⟨_, rfl⟩
  exact ⟨written, writes, fun _ => ⟨_, written, rfl, by decide +kernel, keeps _ _ writes⟩⟩

/-- A lower limit below the present value is no obstacle to a run. -/
theorem rereads_run_gauge :
    ∃ result after final,
      (bare.run idle .none).perform .empty (gaugeFrom 4) = (result, after, final) ∧
        Rereads (gaugeFrom 4) result final := by
  have prepared : Prepared bare (gaugeFrom 4) :=
    prepared_gaugeFrom (by decide +kernel) (by decide +kernel) (by decide +kernel)
  exact rereads_run prepared (by decide +kernel) rfl rfl (uneventful_idle rfl)

/-- A lower limit can be raised above a value that was assigned before, which then is
refused when it is read back.  And where one name is another one behind a blank, the
file has two lines for the other one, and the later line counts. -/
theorem refuses_or_overwrites :
    (Prepared bare (gaugeFrom 10) ∧
      Uneventful idle World.empty.files (bare.parameterFile gauge World.empty.namesGiven) ∧
      ((bare.run idle .none).perform .empty (gaugeFrom 10)).1 =
        .error (.store (.value (.below "gauge" "level" (.ofNat 10) (.ofNat 5))))) ∧
    (Prepared bare (Store.fresh indentedGauge) ∧
      Uneventful idle World.empty.files
        (bare.parameterFile indentedGauge World.empty.namesGiven) ∧
      ((bare.run idle .none).perform .empty (Store.fresh indentedGauge)).1.isOk = true ∧
      ((bare.run idle .none).perform .empty (Store.fresh indentedGauge)).2.2.settledEntries ≠
        (Store.fresh indentedGauge).settledEntries) := by
  have prepared : Prepared bare (gaugeFrom 10) :=
    prepared_gaugeFrom (by decide +kernel) (by decide +kernel) (by decide +kernel)
  exact ⟨⟨prepared, uneventful_idle rfl, by decide +kernel⟩,
    ⟨prepared_indentedGauge, uneventful_idle rfl, by decide +kernel, by decide +kernel⟩⟩

end Runner

end ToolParams
