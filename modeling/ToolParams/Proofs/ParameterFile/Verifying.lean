import ToolParams.Proofs.ParameterFile.Comparing
import ToolParams.Proofs.ParameterFile.Overflow

/-!
# A file that was just written is not objected to

A comparison expects of each parameter the reference to its stack file, if the overflow has
one for it, and the text of its value otherwise.  After a store was written, a line holds
such a reference only for a text over the limit, and then the overflow has it.  An overflow
may have more: for a value that was too long once, it still has the stack file.  The line of
that parameter is not what is expected, but it has the text of the value, which agrees.
-/

namespace ToolParams

open ParameterFile (WritableText)

/-- An entry whose text can stand in the line of its parameter. -/
def Stored.IsWritable (declaration : Declaration) : Stored → Prop
  | .literal (.text text) => declaration.type.isText = true ∧ IsLine text
  | .literal _ => True
  | .redirect target => WritableText declaration target

instance (declaration : Declaration) :
    (stored : Stored) → Decidable (stored.IsWritable declaration)
  | .literal (.text text) =>
      inferInstanceAs (Decidable (declaration.type.isText = true ∧ IsLine text))
  | .literal .absent => .isTrue trivial
  | .literal .null => .isTrue trivial
  | .literal (.bool _) => .isTrue trivial
  | .literal (.number _) => .isTrue trivial
  | .redirect target => inferInstanceAs (Decidable (WritableText declaration target))

namespace ParameterFile

section Texts

variable {declaration : Declaration} {stored : Stored} {text : String} {store : Store}

theorem writableText_of_isWritable (writable : stored.IsWritable declaration)
    (held : valueText? declaration stored = some text) : WritableText declaration text := by
  cases stored with
  | redirect target =>
      cases held
      exact writableText_write writable
  | literal value =>
      have shown : WritableText declaration value.shown := by
        cases value with
        | absent => exact writableText_of_isPlain (by decide)
        | null => exact writableText_of_isPlain (by decide)
        | bool truth => cases truth <;> exact writableText_of_isPlain (by decide)
        | number number => exact writableText_of_isPlain number.isPlain_text
        | text text =>
            refine ⟨writable.2, fun textless => ?_⟩
            rw [writable.1] at textless
            cases textless
      rcases valueText?_literal_cases held with word | rfl
      · have plain : ∀ word ∈ ["yes", "no", "INDEF", ""], IsPlain word := by decide
        exact writableText_of_isPlain (plain text word)
      · exact shown

theorem hasText_of_lettered (lettered : declaration.type.IsLettered) :
    HasText store declaration := by
  unfold HasText
  generalize store.entry declaration.name = stored
  cases stored with
  | redirect target => exact ⟨_, rfl⟩
  | literal value =>
      unfold valueText?
      cases type : declaration.type with
      | untyped word => exact absurd type (lettered word)
      | _ => cases value <;> exact ⟨_, rfl⟩

end Texts

section Writing

variable {limit : Number} {store : Store} {path : String} {declaration : Declaration}
  {declarations : List Declaration} {world after : World} {overflow final : Overflow}
  {text : String}

/-- The overflow has the stack files that the lines of some parameters refer to. -/
def Refers (limit : Number) (store : Store) (path : String) (declarations : List Declaration)
    (overflow : Overflow) : Prop :=
  ∀ declaration ∈ declarations, ∀ text,
    valueText? declaration (store.entry declaration.name) = some text →
      exceeds limit text = true →
        overflow.get? declaration.name = some (stackPath path declaration.name)

/-- Placing lines gives the lines, and the overflow what they refer to; what it had of the
same file before, it keeps. -/
theorem refers_of_placeLines {lines : List String}
    (placed : (placeLines limit store path declarations).perform world overflow =
      (.ok lines, after, final)) :
    linesOf? limit store path declarations = some lines ∧
      Refers limit store path declarations final ∧
      ∀ name, overflow.get? name = some (stackPath path name) →
        final.get? name = some (stackPath path name) := by
  induction declarations generalizing world overflow lines with
  | nil =>
      cases placed
      exact ⟨rfl, fun _ member => absurd member List.not_mem_nil, fun _ => id⟩
  | cons declaration rest induction =>
      obtain ⟨text, others, middle, grown, first, later, rfl⟩ := placeLines_cons_cases placed
      obtain ⟨linesRest, refersRest, keptRest⟩ := induction later
      obtain ⟨held, isHeld, outcome⟩ := placeValue_cases first
      refine ⟨?_, ?_, ?_⟩
      · rcases outcome with ⟨short, rfl, _⟩ | ⟨long, rfl, _⟩
        · simp [linesOf?, lineText?, isHeld, short, linesRest]
        · simp [linesOf?, lineText?, isHeld, long, linesRest]
      · intro other member otherText isText long
        rcases List.mem_cons.mp member with rfl | further
        · cases isHeld.symm.trans isText
          rcases outcome with ⟨short, _⟩ | ⟨_, _, rfl, _⟩
          · rw [short] at long
            cases long
          · -- Whoever of the rest has this name as well puts the same path there.
            exact keptRest _ (by rw [OrderedMap.get?_insert, if_pos rfl])
        · exact refersRest other further otherText isText long
      · intro name known
        apply keptRest
        rcases outcome with ⟨_, _, _, rfl⟩ | ⟨_, _, rfl, _⟩
        · exact known
        · rw [OrderedMap.get?_insert]
          split
          · rename_i same
            rw [same]
          · exact known

theorem refers_of_write
    (writes : (write limit store path).perform world overflow = (.ok (), after, final)) :
    (∀ declaration ∈ store.declarations, HasText store declaration) ∧
      Refers limit store path store.declarations final ∧
      after.files.Holds path (contentOf (lineText limit store path) store.declarations) := by
  obtain ⟨lines, middle, placed, written⟩ := write_cases writes
  obtain ⟨listed, refers, _⟩ := refers_of_placeLines placed
  refine ⟨hasText_of_linesOf? listed, refers, ?_⟩
  rw [contentOf, ← lines_of_linesOf? listed]
  exact FileTree.holds_write written

end Writing

section Comparison

variable {σ : Type} {limit : Number} {store : Store} {path text : String}
  {declaration : Declaration} {declarations : List Declaration} {overflow : Overflow}
  {contents : Contents}

theorem perform_agrees_self (store : Store) (declaration : Declaration) (contents : Contents)
    (held : String) (world : World) (state : σ) :
    ∃ noted, world.Noted noted ∧
      (agrees store declaration contents held held).perform world state =
        (.ok true, noted, state) := by
  obtain ⟨resolved, noted, quiet, performed⟩ := @watches_resolvedText? σ store declaration
    (concreteText contents world.environment held) world state
  refine ⟨noted, quiet, ?_⟩
  unfold agrees
  simp only [Action.perform_bind, Action.perform_world, performed, decide_true, Bool.true_or]
  rfl

theorem stackPath_ne_empty (path name : String) : stackPath path name ≠ "" := by
  intro empty
  have characters := congrArg String.toList empty
  rw [toList_stackPath] at characters
  simp at characters

theorem perform_departure?_of_lineText (texted : HasText store declaration)
    (refers : Refers limit store path [declaration] overflow)
    (found : contents.get? declaration.name = some (lineText limit store path declaration))
    (world : World) (state : σ) :
    ∃ noted, world.Noted noted ∧
      (departure? store overflow contents declaration).perform world state =
        (.ok none, noted, state) := by
  obtain ⟨held, isHeld⟩ := texted
  unfold departure?
  simp only [isHeld, found]
  by_cases long : exceeds limit held = true
  · have isStack := refers declaration (List.mem_singleton_self _) held isHeld long
    have counts : (overflow.get? declaration.name).filter (· ≠ "") =
        some (stackPath path declaration.name) := by
      rw [isStack, Option.filter_some, if_pos (decide_eq_true (stackPath_ne_empty _ _))]
    refine ⟨world, .refl world, ?_⟩
    simp only [counts, lineText_eq isHeld, if_pos long]
    simp
  · have isText : lineText limit store path declaration = held := by
      rw [lineText_eq isHeld, if_neg long]
    rw [isText]
    -- The overflow may expect the stack file of an earlier file here; the text of the value
    -- then differs from that reference, and agrees with itself.
    obtain ⟨noted, quiet, agreed⟩ :=
      perform_agrees_self store declaration contents held world state
    split
    · exact ⟨world, .refl world, rfl⟩
    · exact ⟨noted, quiet, by simp [agreed]⟩

theorem perform_compare_of_lineText
    (texted : ∀ declaration ∈ declarations, HasText store declaration)
    (refers : Refers limit store path declarations overflow)
    (found : ∀ declaration ∈ declarations,
      contents.get? declaration.name = some (lineText limit store path declaration))
    (world : World) (state : σ) :
    ∃ noted, world.Noted noted ∧
      (compare store path overflow contents declarations).perform world state =
        (.ok [], noted, state) := by
  induction declarations generalizing world with
  | nil => exact ⟨world, .refl world, rfl⟩
  | cons declaration rest induction =>
      have refersHere : Refers limit store path [declaration] overflow := by
        intro other member
        exact refers other (List.mem_singleton.mp member ▸ List.mem_cons_self)
      obtain ⟨middle, quiet, same⟩ := perform_departure?_of_lineText
        (texted declaration List.mem_cons_self) refersHere
        (found declaration List.mem_cons_self) world state
      obtain ⟨noted, quietRest, sameRest⟩ := induction
        (fun other member => texted other (List.mem_cons_of_mem _ member))
        (fun other member => refers other (List.mem_cons_of_mem _ member))
        (fun other member => found other (List.mem_cons_of_mem _ member)) middle
      refine ⟨noted, quiet.trans quietRest, ?_⟩
      unfold compare
      simp only [Action.perform_bind, same, sameRest]

end Comparison

section Verification

variable {σ : Type} {limit : Number} {store : Store} {path : String} {world after : World}
  {overflow final : Overflow}

/-- A file that was just written is not objected to, whatever the overflow has from earlier
files. -/
theorem perform_verify_of_write (legible : store.schema.Legible) (sound : store.schema.Sound)
    (listed : ∀ name ∈ store.schema.names, isListed name = true)
    (writable : ∀ declaration ∈ store.declarations,
      (store.entry declaration.name).IsWritable declaration)
    (plainPath : IsPlain path)
    (writes : (write limit store path).perform world overflow = (.ok (), after, final))
    (state : σ) :
    ∃ noted, after.Noted noted ∧
      (verify store path final).perform after state = (.ok [], noted, state) := by
  obtain ⟨texted, refers, holds⟩ := refers_of_write writes
  have writableTexts : ∀ declaration ∈ store.declarations,
      WritableText declaration (lineText limit store path declaration) := by
    intro declaration declared
    obtain ⟨text, held⟩ := texted declaration declared
    exact writableText_lineText (legible.name declaration declared) held
      (writableText_of_isWritable (writable declaration declared) held) fun _ => plainPath
  obtain ⟨found, isContent, _, finds⟩ := contents_of_writable legible sound writableTexts
  unfold verify
  simp only [Action.perform_bind, Action.perform_outcome, perform_load]
  cases loaded : loadFrom after.files path with
  | error failure => exact ⟨_, .note .., rfl⟩
  | ok contents =>
      obtain ⟨content, isRead, isLoaded⟩ := Outcome.bind_eq_ok_iff.mp loaded
      cases holds.eq_of_read (Outcome.mapError_eq_ok_iff.mp isRead)
      cases isContent.symm.trans (Outcome.mapError_eq_ok_iff.mp isLoaded)
      refine perform_compare_of_lineText texted refers (fun declaration declared => ?_)
        after state
      have isListedHere := listed _ (List.mem_map_of_mem declared)
      refine finds declaration declared isListedHere fun other otherDeclared same => ?_
      rwa [keyOf_of_isListed (listed _ (List.mem_map_of_mem otherDeclared))] at same

/-- Holding a file against a store raises no false alarm after the store was written to it,
and gives a result without changing anything but the journal whatever the file holds. -/
theorem verify_of_write {σ : Type} :
    (∀ (tool text : String) (kind : ToolKind) (limit : Number) (store : Store) (path : String)
        (world after : World) (overflow final : Overflow) (state : σ),
      Schema.read tool text kind = .ok store.schema → store.schema.Legible →
      (∀ name ∈ store.schema.names, isListed name = true) →
      (∀ declaration ∈ store.declarations,
        (store.entry declaration.name).IsWritable declaration) →
      IsPlain path →
      (write limit store path).perform world overflow = (.ok (), after, final) →
        ∃ noted, after.Noted noted ∧
          (verify store path final).perform after state = (.ok [], noted, state)) ∧
      ∀ (store : Store) (path : String) (world : World) (overflow : Overflow) (state : σ),
        (∀ declaration ∈ store.declarations, declaration.type.IsLettered) →
          ∃ mismatches noted, world.Noted noted ∧
            (verify store path overflow).perform world state = (.ok mismatches, noted, state) := by
  constructor
  · intro tool text kind limit store path world after overflow final state accepted legible listed
      writable plainPath writes
    exact perform_verify_of_write legible (Schema.sound_of_read accepted) listed writable plainPath
      writes state
  · intro store path world overflow state lettered
    exact watches_verify path overflow
      (fun declaration declared => hasText_of_lettered (lettered declaration declared)) world state

/-- A schema with a list and a number. -/
def shelf : Schema :=
  { name := "shelf", kind := .parameterFile, executable := none, required := []
    optional := [
      { name := "files", type := .string, help := "", default := .null, required := false,
        mode := "h", constraint := none },
      { name := "count", type := .integer, help := "", default := .number (.ofNat 3),
        required := false, mode := "h", constraint := none }] }

/-- A shelf whose list is too long for a line of three bytes. -/
def filledShelf : Store :=
  (Store.fresh shelf).put "files" (.literal (.text "ab,cd"))

/-- What is there after the shelf was written, when its count had a stack file of an earlier
file. -/
def shelved (limit : Number) : Except Failure Unit × World × Overflow :=
  (write limit filledShelf "shelf.par").perform .empty
    (OrderedMap.empty.insert "count" "old.par.count.stk")

theorem shelved_eq (succeeds : (shelved limit).1 = .ok ()) :
    (write limit filledShelf "shelf.par").perform .empty
        (OrderedMap.empty.insert "count" "old.par.count.stk") =
      (.ok (), (shelved limit).2.1, (shelved limit).2.2) :=
  Action.perform_eq succeeds

/-- The stack file of an earlier file is still in the overflow, and nothing is objected to. -/
theorem verify_of_write_shelf :
    (shelved (.ofNat 3)).2.2.get? "files" = some "shelf.par.files.stk" ∧
      (shelved (.ofNat 3)).2.2.get? "count" = some "old.par.count.stk" ∧
      (∃ noted, (shelved (.ofNat 3)).2.1.Noted noted ∧
        (verify filledShelf "shelf.par" (shelved (.ofNat 3)).2.2).perform
            (shelved (.ofNat 3)).2.1 () =
          (.ok [], noted, ())) ∧
      ∃ mismatches noted, World.empty.Noted noted ∧
        (verify filledShelf "missing.par" .empty).perform .empty () =
          (.ok mismatches, noted, ()) := by
  have accepted : Schema.read "shelf" "files,s,h,,,,\ncount,i,h,3,,," .parameterFile =
      .ok shelf := by
    decide +kernel
  have legible : shelf.Legible :=
    ⟨by decide +kernel, by decide +kernel, by decide +kernel, by decide +kernel⟩
  have writable : ∀ declaration ∈ filledShelf.declarations,
      (filledShelf.entry declaration.name).IsWritable declaration := by
    intro declaration declared
    rcases List.mem_cons.mp declared with rfl | later
    · have held : filledShelf.entry "files" = .literal (.text "ab,cd") := by decide +kernel
      exact held ▸ ⟨rfl, by decide⟩
    · have held : filledShelf.entry "count" = .literal (.number (.ofNat 3)) := by decide +kernel
      cases List.mem_singleton.mp later
      change (filledShelf.entry "count").IsWritable _
      rw [held]
      trivial
  have writes := shelved_eq (show (shelved (.ofNat 3)).1 = .ok () by decide +kernel)
  refine ⟨by decide +kernel, by decide +kernel, ?_, ?_⟩
  · exact verify_of_write.1 "shelf" _ .parameterFile _ filledShelf _ _ _ _ _ () accepted legible
      (by decide +kernel) writable (by decide) writes
  · exact verify_of_write.2 filledShelf "missing.par" .empty .empty () legible.type

end Verification

end ParameterFile

end ToolParams
