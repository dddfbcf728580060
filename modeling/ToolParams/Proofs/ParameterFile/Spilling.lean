import ToolParams.Proofs.Files.Neighbours
import ToolParams.Proofs.ParameterFile.Overflow

/-!
# Which values go to stack files

Writing gives a stack file to just those values whose texts are over the limit, in the order
of their declaration, and a reader who follows the reference gets the normal form of the text.
Two of the files can only be one if a link stands at the path of one of them.  Wherever
writing breaks off, the overflow knows every file that was changed.
-/

namespace ToolParams.ParameterFile

open FileTree (Written)

variable {limit : Number} {store : Store} {path : String} {declaration : Declaration}
  {declarations : List Declaration} {world after : World} {overflow final : Overflow}
  {text : String}

/-- The parameters among some whose texts are over the limit. -/
def overlong (limit : Number) (store : Store) (declarations : List Declaration) :
    List Declaration :=
  declarations.filter fun declaration =>
    (valueText? declaration (store.entry declaration.name)).any (exceeds limit)

/-- The entry of a parameter whose text is over the limit. -/
def stackEntry (path : String) (declaration : Declaration) : String × String :=
  (declaration.name, stackPath path declaration.name)

section Entries

theorem overlong_cons_of_long {rest : List Declaration}
    (held : valueText? declaration (store.entry declaration.name) = some text)
    (long : exceeds limit text = true) :
    overlong limit store (declaration :: rest) = declaration :: overlong limit store rest := by
  rw [overlong, List.filter_cons_of_pos (by simp [held, long])]
  rfl

theorem overlong_cons_of_short {rest : List Declaration}
    (held : valueText? declaration (store.entry declaration.name) = some text)
    (short : exceeds limit text = false) :
    overlong limit store (declaration :: rest) = overlong limit store rest := by
  rw [overlong, List.filter_cons_of_neg (by simp [held, short])]
  rfl

/-- Placing values puts the entries of the long ones behind those that were there. -/
theorem toList_of_placeLines {lines : List String}
    (distinct : (declarations.map Declaration.name).Nodup)
    (unplaced : ∀ declaration ∈ declarations, declaration.name ∉ overflow.keys)
    (placed : (placeLines limit store path declarations).perform world overflow =
      (.ok lines, after, final)) :
    final.toList =
      overflow.toList ++ (overlong limit store declarations).map (stackEntry path) := by
  induction declarations generalizing world overflow lines with
  | nil =>
      cases placed
      exact (List.append_nil _).symm
  | cons declaration rest induction =>
      obtain ⟨apart, distinctRest⟩ := List.nodup_cons.mp distinct
      obtain ⟨text, others, middle, grown, first, later, rfl⟩ := placeLines_cons_cases placed
      have unplacedRest : ∀ other ∈ rest, other.name ∉ overflow.keys :=
        fun other member => unplaced other (List.mem_cons_of_mem _ member)
      obtain ⟨held, isHeld, ⟨short, _, _, rfl⟩ | ⟨long, _, rfl, _⟩⟩ := placeValue_cases first
      · rw [overlong_cons_of_short isHeld short]
        exact induction distinctRest unplacedRest later
      · have isNew := unplaced declaration List.mem_cons_self
        have unplacedThen : ∀ other ∈ rest, other.name ∉
            (overflow.insert declaration.name (stackPath path declaration.name)).keys := by
          intro other member known
          rw [OrderedMap.keys_insert, if_neg isNew, List.mem_append, List.mem_singleton] at known
          rcases known with earlier | same
          · exact unplacedRest other member earlier
          · exact apart (same ▸ List.mem_map_of_mem member)
        rw [induction distinctRest unplacedThen later, OrderedMap.toList_insert_of_not_mem isNew,
          overlong_cons_of_long isHeld long, List.append_assoc]
        rfl

theorem toList_of_write (distinct : store.schema.names.Nodup)
    (saves : (write limit store path).perform world .empty = (.ok (), after, final)) :
    final.toList = (overlong limit store store.declarations).map (stackEntry path) := by
  obtain ⟨lines, middle, placed, _⟩ := write_cases saves
  exact toList_of_placeLines distinct (fun _ _ => List.not_mem_nil) placed

theorem nodup_values (distinct : (declarations.map Declaration.name).Nodup)
    (entries : final.toList = (overlong limit store declarations).map (stackEntry path)) :
    final.values.Nodup := by
  have names : ((overlong limit store declarations).map Declaration.name).Nodup :=
    distinct.sublist (List.filter_sublist.map _)
  have values : final.values =
      ((overlong limit store declarations).map Declaration.name).map (stackPath path) := by
    rw [OrderedMap.values, entries, List.map_map, List.map_map]
    rfl
  rw [values]
  exact names.map fun _ _ => stackPath_inj

end Entries

section Outputs

/-- The files of a store are separate when no links stand at their paths. -/
theorem separate_outputs (rooted : world.files.Rooted)
    (noSlash : ∀ declaration ∈ store.declarations, '/' ∉ declaration.name.toList)
    (saves : (write limit store path).perform world .empty = (.ok (), after, final))
    (unlinked : ∀ output ∈ outputs limit store path, ¬world.files.IsLinked output) :
    world.files.Separate (outputs limit store path) := by
  obtain ⟨_, _, _, performed, saved⟩ := perform_write limit store path world
  cases saves.symm.trans performed
  obtain ⟨_, content, earlier, _, placed, written⟩ := saved.complete rfl
  obtain ⟨target, mode, writes⟩ := FileTree.writes_of_write written
  have noDirectory : ∀ mode, world.files.node? target ≠ some (.directory mode) :=
    fun mode directory => writes.noDirectory mode (placed.sameRoutes.directory.mpr directory)
  refine FileTree.separate_of_unlinked rooted
    (placed.sameRoutes.locate_iff.mp writes.located) noDirectory ?_ unlinked
  intro output member
  rcases List.mem_cons.mp member with rfl | isStack
  · exact ⟨"", by simp, List.not_mem_nil⟩
  · obtain ⟨declaration, isLong, rfl⟩ := List.mem_map.mp isStack
    refine ⟨"." ++ declaration.name ++ ".stk", ?_, ?_⟩
    · apply String.toList_injective
      simp [toList_stackPath]
    · simpa using noSlash declaration (List.mem_filter.mp isLong).1

/-- The stack file of a text, and what a reader of the reference to it gets. -/
structure Spilled (path : String) (declaration : Declaration) (text : String)
    (before after : World) (overflow : Overflow) : Prop where
  content : after.files.Holds (stackPath path declaration.name)
    (String.join ((Text.split ',' text).map (· ++ "\n")))
  readable : (∀ place old mode,
      before.files.locate (stackPath path declaration.name) .writable = .ok place →
        before.files.node? place = some (.file old mode) → FileTree.isReadable mode = true) →
    after.files.read (stackPath path declaration.name) =
      .ok (String.join ((Text.split ',' text).map (· ++ "\n")))
  input : ∀ {σ : Type} (state : σ),
    (inputOf declaration (stackReference (stackPath path declaration.name)) overflow).perform
        after state =
      (((after.files.read (stackPath path declaration.name)).mapError
          (.unreadable (stackPath path declaration.name))).map fun _ =>
            .ofText (normalized text), after, state)

theorem spilled_of_write (separate : world.files.Separate (outputs limit store path))
    (distinct : store.schema.names.Nodup)
    (saves : (write limit store path).perform world .empty = (.ok (), after, final))
    (declared : declaration ∈ store.declarations)
    (held : valueText? declaration (store.entry declaration.name) = some text)
    (long : exceeds limit text = true) : Spilled path declaration text world after final := by
  obtain ⟨_, stackFiles, _⟩ := stacks_of_write separate distinct saves
  obtain ⟨isStack, holds⟩ := stackFiles.long declaration declared text held long
  obtain ⟨_, _, _, performed, saved⟩ := perform_write limit store path world
  cases saves.symm.trans performed
  refine
    { content := stackContent_eq_join text ▸ holds
      readable := ?_
      input := ?_ }
  · intro readable
    rw [← stackContent_eq_join]
    have inOverflow := (saved.complete rfl).1 (stackPath path declaration.name)
      (List.mem_map_of_mem (List.mem_filter.mpr ⟨declared, by simp [held, long]⟩))
    refine holds.read_eq (saved.nameable _ inOverflow) fun place old mode located isFile => ?_
    have before := saved.written.sameRoutes.locate_iff.mp located
    exact saved.written.isReadable (fun old mode => readable place old mode before) old mode isFile
  · intro σ state
    rw [perform_inputOf, inputFrom, isStack]
    simp only [if_true]
    cases reads : after.files.read (stackPath path declaration.name) with
    | error fault => rfl
    | ok content =>
        cases holds.eq_of_read reads
        rw [← stackText_eq_normalized]
        rfl

end Outputs

section Failures

variable {start next later : World × Overflow} {more : List Declaration}

/-- The stack files of some parameters that an overflow has. -/
def recorded (path : String) (declarations : List Declaration) (overflow : Overflow) :
    List String :=
  (declarations.filter fun declaration =>
    overflow.get? declaration.name = some (stackPath path declaration.name)).map
      fun declaration => stackPath path declaration.name

theorem mem_recorded_iff {stack : String} : stack ∈ recorded path declarations overflow ↔
    ∃ declaration ∈ declarations,
      overflow.get? declaration.name = some (stackPath path declaration.name) ∧
        stackPath path declaration.name = stack := by
  simp [recorded, and_assoc]

/-- From one state to another only such stack files changed as the overflow has. -/
structure Records (path : String) (declarations : List Declaration)
    (before after : World × Overflow) : Prop where
  kept : ∀ name, before.2.get? name = some (stackPath path name) →
    after.2.get? name = some (stackPath path name)
  written : Written (recorded path declarations after.2) before.1.files after.1.files

namespace Records

theorem refl (path : String) (declarations : List Declaration) (state : World × Overflow) :
    Records path declarations state state :=
  ⟨fun _ => id, .refl⟩

theorem mono (records : Records path declarations start next)
    (covered : ∀ declaration ∈ declarations, declaration ∈ more) :
    Records path more start next where
  kept := records.kept
  written := by
    refine records.written.mono fun stack member => ?_
    obtain ⟨declaration, inside, held⟩ := mem_recorded_iff.mp member
    exact mem_recorded_iff.mpr ⟨declaration, covered declaration inside, held⟩

theorem trans (first : Records path declarations start next)
    (second : Records path declarations next later) : Records path declarations start later where
  kept := fun name held => second.kept name (first.kept name held)
  written := by
    refine (first.written.mono fun stack member => ?_).trans second.written
    obtain ⟨declaration, inside, held, same⟩ := mem_recorded_iff.mp member
    exact mem_recorded_iff.mpr ⟨declaration, inside, second.kept _ held, same⟩

end Records

/-- A stack file is recorded right after it was written. -/
theorem records_placeValue (limit : Number) (store : Store) (path : String)
    (declaration : Declaration) (start : World × Overflow) :
    Records path [declaration] start
      ((placeValue limit store path declaration).perform start.1 start.2).2 := by
  unfold placeValue
  cases held : valueText? declaration (store.entry declaration.name) with
  | none => exact .refl _ _ _
  | some text =>
      by_cases long : exceeds limit text = true
      case neg =>
          simp only [long]
          exact .refl _ _ _
      case pos =>
          simp only [long, if_true, Action.perform_bind, perform_writeFile]
          cases written : start.1.files.write (stackPath path declaration.name)
              (stackContent text) with
          | error fault => exact .refl _ _ _
          | ok files =>
              constructor
              · intro name isStack
                change OrderedMap.get? (start.2.insert _ _) name = _
                rw [OrderedMap.get?_insert]
                split
                · rename_i same
                  rw [same]
                · exact isStack
              · refine .write .refl (mem_recorded_iff.mpr ?_) written
                refine ⟨declaration, List.mem_cons_self, ?_, rfl⟩
                exact (OrderedMap.get?_insert _ _ _ _).trans (if_pos rfl)

theorem records_placeLines (limit : Number) (store : Store) (path : String)
    (declarations : List Declaration) (start : World × Overflow) :
    Records path declarations start
      ((placeLines limit store path declarations).perform start.1 start.2).2 := by
  induction declarations generalizing start with
  | nil => exact .refl _ _ _
  | cons declaration rest induction =>
      have covered : ∀ other ∈ [declaration], other ∈ declaration :: rest := by simp
      have here := (records_placeValue limit store path declaration start).mono covered
      unfold placeLines
      rw [Action.perform_bind]
      rcases first : (placeValue limit store path declaration).perform start.1 start.2 with
        ⟨failure | text, middle, grown⟩
      · rw [first] at here
        exact here
      · rw [first] at here
        have behind := (induction (middle, grown)).mono fun _ => List.mem_cons_of_mem declaration
        simp only [Action.perform_bind]
        rcases further : (placeLines limit store path rest).perform middle grown with
          ⟨failure | others, last, complete⟩
        · rw [further] at behind
          exact here.trans behind
        · rw [further] at behind
          exact here.trans behind

/-- When writing fails, the overflow has every stack file that was made or changed, and no
other file was touched. -/
theorem recorded_of_write {failure : Failure}
    (fails : (write limit store path).perform world overflow = (.error failure, after, final))
    {place : Place} (changed : after.files.node? place ≠ world.files.node? place) :
    ∃ declaration ∈ store.declarations,
      final.get? declaration.name = some (stackPath path declaration.name) ∧
        world.files.locate (stackPath path declaration.name) .writable = .ok place := by
  have records := records_placeLines limit store path store.declarations (world, overflow)
  have placed : ((placeLines limit store path store.declarations).perform world overflow).2 =
      (after, final) := by
    unfold write at fails
    rw [Action.perform_bind] at fails
    rcases performed : (placeLines limit store path store.declarations).perform world overflow with
      ⟨cause | lines, middle, grown⟩
    · rw [performed] at fails
      cases fails
      rfl
    · rw [performed] at fails
      simp only [Action.perform_bind, perform_writeFile] at fails
      cases written : middle.files.write path ("\n".intercalate (lines ++ [modeLine, ""])) with
      | error fault =>
          rw [written] at fails
          cases fails
          rfl
      | ok files =>
          rw [written] at fails
          cases fails
  rw [placed] at records
  obtain ⟨stack, member, _, located, _⟩ := (records.written.changed place).resolve_left changed
  obtain ⟨declaration, declared, held, rfl⟩ := mem_recorded_iff.mp member
  exact ⟨declaration, declared, held, located⟩

end Failures

/-- What writing a store does with the values over the limit: they are the entries of the
overflow, in their order and with stack files of their own; if these are separate, as they are
without links, they hold the elements, and a reader gets the normal form, which is the text
itself just for tidy texts of one line.  A failure leaves no stack file unrecorded. -/
theorem overflow_of_write (distinct : store.schema.names.Nodup)
    (noSlash : ∀ declaration ∈ store.declarations, '/' ∉ declaration.name.toList)
    (rooted : world.files.Rooted) :
    (∀ after final, (write limit store path).perform world .empty = (.ok (), after, final) →
      final.toList = (overlong limit store store.declarations).map (stackEntry path) ∧
        final.values.Nodup ∧
        ((∀ output ∈ outputs limit store path, ¬world.files.IsLinked output) →
          world.files.Separate (outputs limit store path)) ∧
        (world.files.Separate (outputs limit store path) →
          ∀ declaration ∈ store.declarations, ∀ text,
            valueText? declaration (store.entry declaration.name) = some text →
            exceeds limit text = true → Spilled path declaration text world after final)) ∧
      (∀ text, normalized (normalized text) = normalized text ∧
        (normalized text = text ↔ IsLine text ∧ IsTidy text)) ∧
      ∀ overflow failure after final,
        (write limit store path).perform world overflow = (.error failure, after, final) →
        ∀ place, after.files.node? place ≠ world.files.node? place →
          ∃ declaration ∈ store.declarations,
            final.get? declaration.name = some (stackPath path declaration.name) ∧
              world.files.locate (stackPath path declaration.name) .writable = .ok place := by
  refine ⟨?_, ?_, ?_⟩
  · intro after final saves
    have entries := toList_of_write distinct saves
    refine ⟨entries, nodup_values distinct entries, separate_outputs rooted noSlash saves, ?_⟩
    intro separate declaration declared text held long
    exact spilled_of_write separate distinct saves declared held long
  · intro text
    exact ⟨normalized_normalized text, normalized_eq_iff⟩
  · intro overflow failure after final fails place changed
    exact recorded_of_write fails changed

/-- A parameter that holds a text. -/
def textNamed (name : String) : Declaration :=
  { name, type := .string, help := "", default := .null, required := false, mode := "h"
    constraint := none }

/-- A store of two texts. -/
def pairOf (left right : String) : Store :=
  ((Store.fresh
      { name := "pair", kind := .parameterFile, executable := none, required := []
        optional := [textNamed "left", textNamed "right"] }).put
    "left" (.literal (.text left))).put "right" (.literal (.text right))

/-- What is there after two texts were written. -/
def writtenPair (limit : Number) (world : World) (left right : String) :
    Except Failure Unit × World × Overflow :=
  (write limit (pairOf left right) "pair.par").perform world .empty

theorem writtenPair_eq {left right : String} {result : Except Failure Unit}
    (gives : (writtenPair limit world left right).1 = result) :
    (write limit (pairOf left right) "pair.par").perform world .empty =
      (result, (writtenPair limit world left right).2.1,
        (writtenPair limit world left right).2.2) :=
  Action.perform_eq gives

def worldWith (name : String) (node : Node) : World :=
  { World.empty with files := FileTree.empty.place [name] node }

/-- A world in which a directory keeps the parameter file from being written. -/
def blocked : World := worldWith "pair.par" (.directory 0o755)

/-- A world with a link from one stack file to another. -/
def crossed : World := worldWith "pair.par.left.stk" (.link "pair.par.right.stk")

theorem not_isLinked_empty (output : String) : ¬World.empty.files.IsLinked output := by
  rintro ⟨place, target, _, linked⟩
  unfold FileTree.node? at linked
  split at linked
  · cases linked
  · cases linked

/-- Both texts have stack files; of the second, a reader gets two elements.  Where the
parameter file cannot be written, the stack files that are there already are recorded. -/
theorem overflow_of_write_pair :
    (writtenPair (.ofNat 3) .empty "ab,cd" "1,, 2").1 = .ok () ∧
      (writtenPair (.ofNat 3) .empty "ab,cd" "1,, 2").2.2.toList =
        [("left", "pair.par.left.stk"), ("right", "pair.par.right.stk")] ∧
      Spilled "pair.par" (textNamed "right") "1,, 2" .empty
        (writtenPair (.ofNat 3) .empty "ab,cd" "1,, 2").2.1
        (writtenPair (.ofNat 3) .empty "ab,cd" "1,, 2").2.2 ∧
      normalized "1,, 2" = "1,2" ∧ normalized (normalized "1,, 2") = normalized "1,, 2" ∧
      (writtenPair (.ofNat 3) blocked "ab,cd" "1,, 2").1 =
        .error (.unwritable "pair.par" (.onPath .isDirectory "open" "pair.par")) ∧
      ∃ declaration ∈ (pairOf "ab,cd" "1,, 2").declarations,
        (writtenPair (.ofNat 3) blocked "ab,cd" "1,, 2").2.2.get? declaration.name =
            some (stackPath "pair.par" declaration.name) ∧
          blocked.files.locate (stackPath "pair.par" declaration.name) .writable =
            .ok ["pair.par.left.stk"] := by
  have distinct : (pairOf "ab,cd" "1,, 2").schema.names.Nodup := by decide +kernel
  have noSlash : ∀ declaration ∈ (pairOf "ab,cd" "1,, 2").declarations,
      '/' ∉ declaration.name.toList := by
    decide +kernel
  have rooted : World.empty.files.Rooted := FileTree.rooted_of_keys (by decide +kernel)
  have rootedToo : blocked.files.Rooted := FileTree.rooted_of_keys (by decide +kernel)
  have writes : (writtenPair (.ofNat 3) .empty "ab,cd" "1,, 2").1 = .ok () := by
    decide +kernel
  have fails : (writtenPair (.ofNat 3) blocked "ab,cd" "1,, 2").1 =
      .error (.unwritable "pair.par" (.onPath .isDirectory "open" "pair.par")) := by
    decide +kernel
  obtain ⟨succeeding, normal, _⟩ :=
    @overflow_of_write (.ofNat 3) _ "pair.par" _ distinct noSlash rooted
  obtain ⟨_, _, failing⟩ :=
    @overflow_of_write (.ofNat 3) _ "pair.par" _ distinct noSlash rootedToo
  obtain ⟨entries, _, separate, spills⟩ := succeeding _ _ (writtenPair_eq writes)
  have right := spills (separate fun output _ => not_isLinked_empty output) (textNamed "right")
    (by decide +kernel) "1,, 2" (by decide +kernel) (by decide +kernel)
  have left := failing _ _ _ _ (writtenPair_eq fails) ["pair.par.left.stk"] (by decide +kernel)
  exact ⟨writes, entries.trans (by decide +kernel), right, by decide +kernel,
    (normal "1,, 2").1, fails, left⟩

/-- Through a link the second text takes the place of the first one, and a reader of the first
gets the second. -/
theorem spills_crossed :
    (pairOf "1,2,3" "4,5,6").schema.names.Nodup ∧
      (∀ declaration ∈ (pairOf "1,2,3" "4,5,6").declarations,
        '/' ∉ declaration.name.toList) ∧
      (writtenPair (.ofNat 3) crossed "1,2,3" "4,5,6").1 = .ok () ∧
      valueText? (textNamed "left") ((pairOf "1,2,3" "4,5,6").entry "left") = some "1,2,3" ∧
      (writtenPair (.ofNat 3) crossed "1,2,3" "4,5,6").2.2.get? "left" =
        some "pair.par.left.stk" ∧
      (writtenPair (.ofNat 3) crossed "1,2,3" "4,5,6").2.1.files.read "pair.par.left.stk" =
        .ok "4\n5\n6\n" ∧
      normalized "1,2,3" = "1,2,3" ∧
      ((inputOf (textNamed "left") (stackReference "pair.par.left.stk")
          (writtenPair (.ofNat 3) crossed "1,2,3" "4,5,6").2.2).perform
            (writtenPair (.ofNat 3) crossed "1,2,3" "4,5,6").2.1 ()).1 = .ok (.ofText "4,5,6") := by
  decide +kernel

end ToolParams.ParameterFile
