import ToolParams.Proofs.ParameterFile.Values
import ToolParams.Proofs.ParameterFile.Writing
import ToolParams.Proofs.Schema.Reader

/-!
# A file gives back the values that were saved in it

The file of a store has one line for each parameter.  Where names and columns are plain,
every line is found under its name again, and it is read as the value that was written.
So restoring a saved file makes any other store of the schema hold the saved values,
whatever it held before, as long as no limit depends on the values of the store.
-/

namespace ToolParams

open Outcome (Alike)

/-- A schema whose parameters have types, and whose names and columns can stand bare in
lines. -/
structure Schema.Legible (schema : Schema) : Prop where
  type : ∀ declaration ∈ schema.declarations, declaration.type.IsLettered
  name : ∀ declaration ∈ schema.declarations, IsPlain declaration.name
  mode : ∀ declaration ∈ schema.declarations, IsPlain declaration.mode
  limits : ∀ declaration ∈ schema.declarations,
    IsPlain (ParameterFile.limitColumns declaration.constraint).1 ∧
      IsPlain (ParameterFile.limitColumns declaration.constraint).2

/-- Names and raw values, zeros without their signs. -/
def Store.settledEntries (store : Store) : List (String × Scalar) :=
  store.entries.map fun entry => (entry.1, entry.2.settled)

theorem Number.infinity_lt (number : Number) : (infinity false).lt number = false := by
  have filled : (0 : Int) ≤ Magnitude.limit := Int.natCast_nonneg _
  unfold lt rank
  cases number with
  | nan => rfl
  | infinity negative =>
      cases negative <;>
        simp only [Bool.false_eq_true, if_false, if_true, decide_eq_false_iff_not] <;> omega
  | finite negative magnitude =>
      have below := magnitude.code_lt
      cases negative <;>
        simp only [Bool.false_eq_true, if_false, if_true, decide_eq_false_iff_not] <;> omega

namespace Store

variable {store other : Store} {declaration : Declaration}

theorem settledEntries_eq (sameSchema : other.schema = store.schema)
    (same : ∀ declaration ∈ store.declarations,
      (store.entry declaration.name).Same (other.entry declaration.name)) :
    other.settledEntries = store.settledEntries := by
  have sameDeclarations : other.declarations = store.declarations :=
    congrArg Schema.declarations sameSchema
  unfold settledEntries entries
  rw [sameDeclarations, List.map_map, List.map_map]
  apply List.map_congr_left
  intro declaration declared
  exact congrArg (Prod.mk declaration.name) (same declaration declared).raw.symm

end Store

namespace ParameterFile

def textOf (store : Store) (declaration : Declaration) : String :=
  (valueText? declaration (store.entry declaration.name)).getD ""

theorem writable_of_legible {schema : Schema} {declaration : Declaration}
    (legible : schema.Legible) (sound : schema.Sound)
    (declared : declaration ∈ schema.declarations) : Writable declaration := by
  have given : IsPlain (modeColumn declaration) := by
    unfold modeColumn
    split
    · cases declaration.required <;> decide
    · exact legible.mode _ declared
  exact ⟨legible.name _ declared, given, (legible.limits _ declared).1,
    (legible.limits _ declared).2, sound.help _ declared⟩

/-- What a reader finds in a file with one line for each parameter. -/
theorem contents_of_writable {schema : Schema} {text : Declaration → String}
    (legible : schema.Legible) (sound : schema.Sound)
    (writable : ∀ declaration ∈ schema.declarations,
      WritableText declaration (text declaration)) :
    ∃ found, contents (contentOf text schema.declarations) = .ok found ∧
      (∀ name ∈ schema.names, isListed name = false → found.get? name = none) ∧
      ∀ declaration ∈ schema.declarations, isListed declaration.name = true →
        (∀ other ∈ schema.declarations, keyOf other.name = declaration.name →
          other.name = declaration.name) →
        found.get? declaration.name = some (text declaration) := by
  have apart : ∀ name ∈ schema.names, "mode" ≠ name := by
    rintro name declared rfl
    exact sound.unreserved declared
  refine ⟨_, contents_contentOf fun declaration declared =>
    ⟨writable_of_legible legible sound declared, writable declaration declared⟩, ?_, ?_⟩
  · intro name declared unlisted
    rw [OrderedMap.get?_insert, if_neg (apart name declared),
      get?_foldl_of_not_listed unlisted, OrderedMap.get?_empty]
  · intro declaration declared listed alone
    rw [OrderedMap.get?_insert, if_neg (apart _ (List.mem_map_of_mem declared))]
    apply get?_foldl_of_mem declared listed
    intro other otherDeclared same
    exact Schema.eq_of_name sound.distinct otherDeclared declared
      (alone other otherDeclared same)

/-- Every entry of the store can be read from its line. -/
def Shown (store : Store) : Prop :=
  ∀ declaration ∈ store.declarations,
    Shows declaration (store.entry declaration.name) (textOf store declaration)

section Shown

variable {store : Store}

theorem shown_of_stable (legible : store.schema.Legible) (stable : store.Stable)
    (shown : ∀ declaration ∈ store.declarations,
      (store.entry declaration.name).IsShown declaration)
    (declared : ∀ declaration ∈ store.declarations, ∀ target,
      store.entry declaration.name = .redirect target → target ∈ store.schema.names) :
    Shown store := by
  intro declaration member
  have plain : ∀ target, store.entry declaration.name = .redirect target → IsPlain target := by
    intro target redirect
    obtain ⟨other, otherMember, rfl⟩ := List.mem_map.mp (declared _ member target redirect)
    exact legible.name other otherMember
  obtain ⟨text, shows⟩ := exists_shows (stable _ member) (shown _ member) plain
  have same : textOf store declaration = text := by
    rw [textOf, shows.held, Option.getD_some]
  exact same ▸ shows

theorem linesOf?_of_held {limit : Number} {path : String} {declarations : List Declaration}
    (held : ∀ declaration ∈ declarations,
      valueText? declaration (store.entry declaration.name) = some (textOf store declaration))
    (fits : ∀ declaration ∈ declarations, exceeds limit (textOf store declaration) = false) :
    linesOf? limit store path declarations =
        some (declarations.map fun declaration => line declaration (textOf store declaration)) ∧
      stacksOf limit store path declarations = [] := by
  induction declarations with
  | nil => exact ⟨rfl, rfl⟩
  | cons declaration declarations induction =>
      have text := held declaration List.mem_cons_self
      have short := fits declaration List.mem_cons_self
      obtain ⟨lines, stackFiles⟩ := induction
        (fun other member => held other (List.mem_cons_of_mem _ member))
        fun other member => fits other (List.mem_cons_of_mem _ member)
      constructor
      · simp [linesOf?, lineText?, text, short, lines]
      · rw [stacksOf_cons, stackFiles]
        simp [stacksOf, text, short]

theorem perform_write_of_shown {limit : Number} {path : String} (shown : Shown store)
    (fits : ∀ declaration ∈ store.declarations,
      exceeds limit (textOf store declaration) = false) (world : World) :
    ∃ entry, (write limit store path).perform world .empty =
      match world.files.write path (contentOf (textOf store) store.declarations) with
      | .ok files =>
          (.ok (), World.withFiles { world with journal := world.journal ++ [entry] } files, .empty)
      | .error fault => (.error (.unwritable path fault), world, .empty) := by
  obtain ⟨lines, stackFiles⟩ :=
    linesOf?_of_held (fun declaration member => (shown declaration member).held) fits
  exact perform_write_of_short world lines stackFiles

theorem contents_of_shown (legible : store.schema.Legible) (sound : store.schema.Sound)
    (shown : Shown store) :
    ∃ found, contents (contentOf (textOf store) store.declarations) = .ok found ∧
      (∀ name ∈ store.schema.names, isListed name = false → found.get? name = none) ∧
      ∀ declaration ∈ store.declarations, isListed declaration.name = true →
        (∀ other ∈ store.declarations, keyOf other.name = declaration.name →
          other.name = declaration.name) →
        found.get? declaration.name = some (textOf store declaration) :=
  contents_of_writable legible sound fun declaration declared =>
    (shown declaration declared).writable

end Shown

section Restoring

variable {saved now : Store} {files : FileTree} {found : Contents}

/-- A literal is taken from its line by every store of the schema, when no limit of its
parameter is a redirect. -/
theorem check_of_reads {declaration : Declaration} {value : Scalar} {text : String}
    (unlinked : declaration.limitTargets = []) (sameSchema : now.schema = saved.schema)
    (reads : Reads declaration (.literal value) text)
    (accepted : saved.check declaration (.scalar value) = .ok (.literal value)) :
    ∃ stored, now.check declaration (plainInput declaration text) = .ok stored ∧
      (Stored.literal value).Same stored := by
  cases reads with
  | literal plain plainText kept taken same =>
      have coerced : Alike Scalar.Same (coerce saved.tool declaration (.scalar value))
          (coerce now.tool declaration (plainInput declaration text)) := by
        rw [kept, taken]
        exact .ok same
      have alike := Store.check_literal_alike plain plainText coerced sameSchema
        (by simp [unlinked])
      exact alike.ok_of_ok accepted

/-- Assigning what was saved makes the parameters hold it, and no others change. -/
theorem assignFrom_restores (distinct : saved.schema.names.Nodup)
    {declarations : List Declaration} (sameSchema : now.schema = saved.schema)
    (declared : ∀ declaration ∈ declarations, declaration ∈ saved.declarations)
    (taken : ∀ declaration ∈ declarations, ∃ text,
      found.get? declaration.name = some text ∧
        ∀ other : Store, other.schema = saved.schema →
          ∃ stored, other.check declaration (plainInput declaration text) = .ok stored ∧
            (saved.entry declaration.name).Same stored) :
    ∃ final, assignFrom files .empty found declarations now = .ok final ∧
      final.schema = saved.schema ∧
      (∀ declaration ∈ declarations,
        (saved.entry declaration.name).Same (final.entry declaration.name)) ∧
      ∀ name ∉ declarations.map Declaration.name, final.entry name = now.entry name := by
  induction declarations generalizing now with
  | nil => exact ⟨now, rfl, sameSchema, by simp, fun _ _ => rfl⟩
  | cons declaration declarations induction =>
      obtain ⟨text, named, accepts⟩ := taken declaration List.mem_cons_self
      obtain ⟨stored, accepted, same⟩ := accepts now sameSchema
      have isDeclared : declaration ∈ now.declarations := by
        rw [Store.declarations, sameSchema]
        exact declared declaration List.mem_cons_self
      have assigned : now.set declaration.name (plainInput declaration text) =
          .ok (now.put declaration.name stored, stored.raw) := by
        rw [Store.set_eq (sameSchema ▸ distinct) isDeclared, accepted]
        rfl
      obtain ⟨final, assignedRest, schema, held, others⟩ :=
        @induction (now.put declaration.name stored) sameSchema
          (fun other member => declared other (List.mem_cons_of_mem _ member))
          fun other member => taken other (List.mem_cons_of_mem _ member)
      refine ⟨final, ?_, schema, ?_, ?_⟩
      · unfold assignFrom
        simp only [named, inputFrom_empty, Outcome.ok_bind, assigned, Outcome.mapError_ok]
        exact assignedRest
      · intro other member
        rcases List.mem_cons.mp member with rfl | later
        · by_cases again : other.name ∈ declarations.map Declaration.name
          · obtain ⟨twin, isLater, sameName⟩ := List.mem_map.mp again
            exact sameName ▸ held twin isLater
          · rw [others _ again, Store.entry_put, if_pos rfl]
            exact same
        · exact held other later
      · intro name outside
        rw [List.map_cons, List.mem_cons, not_or] at outside
        rw [others name outside.2, Store.entry_put, if_neg (Ne.symm outside.1)]

theorem exceeds_infinity (text : String) : exceeds (.infinity false) text = false :=
  Number.infinity_lt _

theorem reads_of_save (shown : Shown saved) {world after : World} {path : String}
    {overflow : Overflow} (keeps : world.files.Keeps path)
    (saves : (save saved path).perform world .empty = (.ok (), after, overflow)) :
    after.files.read path = .ok (contentOf (textOf saved) saved.declarations) := by
  have fits : ∀ declaration ∈ saved.declarations,
      exceeds (.infinity false) (textOf saved declaration) = false :=
    fun _ _ => exceeds_infinity _
  obtain ⟨entry, performed⟩ := @perform_write_of_shown saved _ path shown fits world
  rw [save, performed] at saves
  split at saves
  · rename_i files written
    cases saves
    exact keeps _ _ written
  · cases saves

/-- Literals that are accepted unchanged can be read from their lines. -/
theorem shown_of_checked (legible : saved.schema.Legible)
    (checked : ∀ declaration ∈ saved.declarations, ∃ value,
      saved.entry declaration.name = .literal value ∧
        saved.check declaration (.scalar value) = .ok (.literal value) ∧
        (Stored.literal value).IsShown declaration) :
    Shown saved := by
  have stable : saved.Stable := by
    intro declaration declared
    obtain ⟨value, held, isChecked, _⟩ := checked declaration declared
    rw [held]
    exact Store.stable_of_check (legible.type _ declared) isChecked
  apply shown_of_stable legible stable
  · intro declaration declared
    obtain ⟨value, held, _, isShown⟩ := checked declaration declared
    exact held ▸ isShown
  · intro declaration declared target redirect
    obtain ⟨value, held, _⟩ := checked declaration declared
    rw [held] at redirect
    cases redirect

/-- Restoring a saved file makes every store of the schema hold what was saved, up to
the signs of zeros. -/
theorem restore_of_save {tool text : String} {kind : ToolKind} {schema : Schema}
    (accepted : Schema.read tool text kind = .ok schema) (legible : schema.Legible)
    (listed : ∀ declaration ∈ schema.declarations, isListed declaration.name = true)
    (unlinked : ∀ declaration ∈ schema.declarations, declaration.limitTargets = [])
    {saved other : Store} (ofSchema : saved.schema = schema) (otherOfSchema : other.schema = schema)
    (literal : ∀ declaration ∈ schema.declarations, ∃ value,
      saved.entry declaration.name = .literal value ∧
        saved.validate declaration.name (.scalar value) = .ok (.literal value) ∧
        (Stored.literal value).IsShown declaration)
    {world after : World} {path : String} {overflow : Overflow}
    (keeps : world.files.Keeps path)
    (saves : (save saved path).perform world .empty = (.ok (), after, overflow)) :
    ∃ noted restored,
      (restore path).perform after other = (.ok (), noted, restored) ∧
        restored.settledEntries = saved.settledEntries := by
  subst ofSchema
  have sound := Schema.sound_of_read accepted
  have checked : ∀ declaration ∈ saved.declarations, ∃ value,
      saved.entry declaration.name = .literal value ∧
        saved.check declaration (.scalar value) = .ok (.literal value) ∧
        (Stored.literal value).IsShown declaration := by
    intro declaration declared
    obtain ⟨value, held, validated, isShown⟩ := literal declaration declared
    rw [Store.validate_eq sound.distinct declared] at validated
    exact ⟨value, held, Outcome.mapError_eq_ok_iff.mp validated, isShown⟩
  have shown := shown_of_checked legible checked
  obtain ⟨found, isContent, _, finds⟩ := contents_of_shown legible sound shown
  have reads := reads_of_save shown keeps saves
  have taken : ∀ declaration ∈ saved.declarations, ∃ text,
      found.get? declaration.name = some text ∧
        ∀ other : Store, other.schema = saved.schema →
          ∃ stored, other.check declaration (plainInput declaration text) = .ok stored ∧
            (saved.entry declaration.name).Same stored := by
    intro declaration declared
    obtain ⟨value, held, isChecked, _⟩ := checked declaration declared
    have shows := (shown declaration declared).reads
    rw [held] at shows
    refine ⟨_, finds declaration declared (listed _ declared) ?_, ?_⟩
    · intro twin twinDeclared same
      rw [keyOf_of_isListed (listed _ twinDeclared)] at same
      exact same
    · intro store sameSchema
      rw [held]
      exact check_of_reads (unlinked _ declared) sameSchema shows isChecked
  obtain ⟨restored, assigned, sameSchema, held, _⟩ := @assignFrom_restores saved other after.files
    found sound.distinct saved.declarations otherOfSchema (fun _ member => member) taken
  have ended : readFrom after.files path .empty other = .ok restored := by
    have sameDeclarations : other.declarations = saved.declarations :=
      congrArg Schema.declarations otherOfSchema
    unfold readFrom loadFrom
    simp only [reads, Outcome.mapError_ok, Outcome.ok_bind, isContent, sameDeclarations]
    exact assigned
  obtain ⟨noted, _, performed⟩ := perform_read path .empty after other
  rw [ended] at performed
  exact ⟨noted, restored, performed, Store.settledEntries_eq sameSchema held⟩

/-- A schema with a text and a number. -/
def album : Schema :=
  { name := "album", kind := .parameterFile, executable := none, required := []
    optional := [
      { name := "title", type := .string, help := "shown, above", default := .null,
        required := false, mode := "h", constraint := none },
      { name := "copies", type := .integer, help := "", default := .number (.ofNat 3),
        required := false, mode := "h",
        constraint := some (.range (.number (.ofNat 1)) (.number (.ofNat 9))) }] }

def titledAlbum : Store :=
  (Store.fresh album).put "title" (.literal (.text "one, \"two\""))

def copiedAlbum : Store :=
  (Store.fresh album).put "copies" (.literal (.number (.ofNat 7)))

/-- A title with commas and quotes is restored over other values. -/
theorem restore_of_save_album :
    ∃ after overflow noted restored,
      (save titledAlbum "album.par").perform .empty .empty = (.ok (), after, overflow) ∧
        (restore "album.par").perform after copiedAlbum = (.ok (), noted, restored) ∧
        restored.settledEntries = titledAlbum.settledEntries := by
  have accepted : Schema.read "album" "title,s,h,,,,\"shown, above\"\ncopies,i,h,3,1,9"
      .parameterFile = .ok album := by
    decide +kernel
  have legible : album.Legible :=
    ⟨by decide +kernel, by decide +kernel, by decide +kernel, by decide +kernel⟩
  have literal : ∀ declaration ∈ album.declarations, ∃ value,
      titledAlbum.entry declaration.name = .literal value ∧
        titledAlbum.validate declaration.name (.scalar value) = .ok (.literal value) ∧
        (Stored.literal value).IsShown declaration := by
    intro declaration declared
    rcases List.mem_cons.mp declared with rfl | later
    · exact ⟨.text "one, \"two\"", by decide +kernel, by decide +kernel, by decide +kernel⟩
    · rw [List.mem_singleton.mp later]
      exact ⟨.number (.ofNat 3), by decide +kernel, by decide +kernel, by decide +kernel⟩
  have keeps : World.empty.files.Keeps "album.par" := by
    apply FileTree.keeps_of_readable
    intro place content mode _ held
    unfold FileTree.node? at held
    split at held <;> cases held
  have succeeds : ((save titledAlbum "album.par").perform World.empty .empty).1 = .ok () := by
    decide +kernel
  rcases performed : (save titledAlbum "album.par").perform World.empty .empty with
    ⟨result, after, overflow⟩
  rw [performed] at succeeds
  cases succeeds
  obtain ⟨noted, restored, restores, same⟩ := @restore_of_save _ _ _ album accepted legible
    (by decide +kernel) (by decide +kernel) titledAlbum copiedAlbum rfl rfl literal _ _ _ _
    keeps performed
  exact ⟨after, overflow, noted, restored, rfl, restores, same⟩

end Restoring

end ParameterFile

end ToolParams
