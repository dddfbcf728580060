import ToolParams.Proofs.ParameterFile.Values
import ToolParams.Proofs.Run.Reachable

/-!
# Raw forms keep their kind

A redirect shows as the text that it is written as, so a literal text that is written in the
same way cannot be told from it.  Texts that are given as texts are recognised as redirects
before they are stored; a list is not, even when its items joined are such a text.  So
entries have raw forms of their own kind as long as no such list is stored under a text
parameter.
-/

namespace ToolParams

/-- The raw form of an entry is read as the entry. -/
def Stored.IsFaithful (stored : Stored) : Prop :=
  Stored.ofRaw stored.raw = stored

def Scalar.Mimics (value : Scalar) : Prop :=
  ∃ text, value = .text text ∧ Redirect.isWritten text = true

def Input.Mimics (input : Input) : Prop :=
  ∃ items, input = .list items ∧ Redirect.isWritten (Input.joined items) = true

theorem Scalar.mimics_text_iff {text : String} :
    (Scalar.text text).Mimics ↔ Redirect.isWritten text = true := by
  simp [Mimics]

namespace Stored

theorem isFaithful_redirect_iff {target : String} :
    (Stored.redirect target).IsFaithful ↔ Text.trim target = target := by
  unfold IsFaithful
  rw [raw, ofRaw_of_written (Redirect.isWritten_write target), Redirect.target_write_eq,
    Stored.redirect.injEq]

theorem isFaithful_literal_iff {value : Scalar} :
    (Stored.literal value).IsFaithful ↔ ¬ value.Mimics := by
  unfold IsFaithful
  cases value with
  | text text =>
      rw [Scalar.mimics_text_iff]
      by_cases written : Redirect.isWritten text = true
      · rw [raw, ofRaw_of_written written]
        exact iff_of_false (by rintro ⟨⟩) (not_not_intro written)
      · rw [raw, ofRaw_of_plain written]
        exact iff_of_true rfl written
  | _ => exact iff_of_true rfl (by rintro ⟨_, ⟨⟩, _⟩)

theorem IsFaithful.ofInput?_redirect {target : String}
    (faithful : (Stored.redirect target).IsFaithful) :
    Redirect.ofInput? (.scalar (Stored.redirect target).raw) = some target := by
  have trimmed := isFaithful_redirect_iff.mp faithful
  simp [Redirect.ofInput?, raw, Redirect.isWritten_write, Redirect.target_write trimmed]

theorem IsFaithful.ofInput?_literal {value : Scalar}
    (faithful : (Stored.literal value).IsFaithful) :
    Redirect.ofInput? (.scalar value) = none := by
  cases written : Redirect.ofInput? (.scalar value) with
  | none => rfl
  | some target =>
      obtain ⟨text, isText, opens, _⟩ := Redirect.ofInput?_eq_some written
      exact absurd ⟨text, Input.scalar.inj isText, opens⟩ (isFaithful_literal_iff.mp faithful)

theorem isFaithful_ofRaw (value : Scalar) : (Stored.ofRaw value).IsFaithful := by
  cases value with
  | text text =>
      by_cases written : Redirect.isWritten text = true
      · rw [ofRaw_of_written written]
        exact isFaithful_redirect_iff.mpr (Redirect.trim_target text)
      · rw [ofRaw_of_plain written, IsFaithful, raw, ofRaw_of_plain written]
  | _ => rfl

end Stored

theorem Scalar.isWritten_shown_iff {value : Scalar} :
    Redirect.isWritten value.shown = true ↔ value.Mimics := by
  cases value with
  | absent => exact iff_of_false (by decide) (by rintro ⟨_, ⟨⟩, _⟩)
  | null => exact iff_of_false (by decide) (by rintro ⟨_, ⟨⟩, _⟩)
  | bool truth => cases truth <;> exact iff_of_false (by decide) (by rintro ⟨_, ⟨⟩, _⟩)
  | number number =>
      exact iff_of_false (Bool.eq_false_iff.mp number.isWritten_text) (by rintro ⟨_, ⟨⟩, _⟩)
  | text text => exact mimics_text_iff.symm

namespace Redirect

theorem isWritten_of_startsWith {text beginning : String} (filled : beginning ≠ "")
    (starts : Text.startsWith text beginning = true) :
    isWritten text = isWritten beginning := by
  unfold isWritten Text.startsWith at *
  cases begins : beginning.toList with
  | nil => exact absurd (String.toList_eq_nil_iff.mp begins) filled
  | cons head rest =>
      rw [begins] at starts
      obtain ⟨later, continued⟩ := List.isPrefixOf_iff_prefix.mp starts
      rw [← continued]
      rfl

theorem isWritten_shown_iff {input : Input} (plain : ofInput? input = none) :
    isWritten input.shown = true ↔ input.Mimics := by
  cases input with
  | list items =>
      refine ⟨fun written => ⟨items, rfl, written⟩, ?_⟩
      rintro ⟨_, ⟨⟩, written⟩
      exact written
  | scalar value =>
      refine iff_of_false (fun written => ?_) (by rintro ⟨_, ⟨⟩, _⟩)
      obtain ⟨text, rfl, isRedirect⟩ := Scalar.isWritten_shown_iff.mp written
      simp [ofInput?, isRedirect] at plain

end Redirect

section Check

variable {tool : String} {declaration : Declaration} {resolver : Resolver} {input : Input}
  {value final : Scalar}

/-- What an input is brought to is written as a redirect just if it is a list that mimics
one, and the parameter holds texts. -/
theorem mimics_of_coerce (plain : Redirect.ofInput? input = none)
    (coerced : coerce tool declaration input = .ok value) :
    value.Mimics ↔ declaration.type.isText = true ∧ input.Mimics := by
  by_cases isText : declaration.type.isText = true
  · rw [ParameterFile.coerce_textual isText] at coerced
    cases coerced
    simp only [isText, true_and, ← Redirect.isWritten_shown_iff plain]
    unfold Coerce.toText
    split
    · exact iff_of_false (by rintro ⟨_, ⟨⟩, _⟩) (by decide)
    · split
      · rename_i empty
        rw [empty]
        exact iff_of_false (by rintro ⟨_, ⟨⟩, _⟩) (by decide)
      · exact Scalar.mimics_text_iff
  · refine iff_of_false ?_ fun both => isText both.1
    rintro ⟨text, rfl, _⟩
    by_cases lettered : declaration.type.IsLettered
    · exact isText (ParameterType.Admits.of_text (admits_of_coerce lettered coerced)).1
    · unfold ParameterType.IsLettered at lettered
      push Not at lettered
      obtain ⟨word, untyped⟩ := lettered
      unfold coerce at coerced
      rw [untyped] at coerced
      cases coerced

theorem text_of_coerce (isText : declaration.type.isText = true)
    (coerced : coerce tool declaration input = .ok value) :
    value = .null ∨ ∃ text, value = .text text ∧ text ≠ "" := by
  rw [ParameterFile.coerce_textual isText] at coerced
  have admits := Coerce.admits_toText declaration.type isText input
  rw [Except.ok.inj coerced] at admits
  generalize declaration.type = type at isText admits
  cases admits with
  | unsetNumber => exact .inl rfl
  | unsetText => exact .inl rfl
  | text _ filled => exact .inr ⟨_, rfl, filled⟩
  | bool => cases isText
  | integer => cases isText
  | real => cases isText

theorem mimics_of_matchOption {choices : List String}
    (typed : declaration.type.isText = true →
      value = .null ∨ ∃ text, value = .text text ∧ text ≠ "")
    (matched : Constraint.matchOption declaration choices value = .ok final) :
    final.Mimics ↔ value.Mimics := by
  unfold Constraint.matchOption at matched
  split at matched
  · split at matched
    · cases matched
      rfl
    · cases matched
  · rename_i isSet
    cases isText : declaration.type.isText with
    | false =>
        simp only [isText, Bool.false_eq_true, if_false] at matched
        split at matched
        · cases matched
          rfl
        · cases matched
    | true =>
        obtain ⟨text, rfl, filled⟩ := (typed isText).resolve_left isSet
        -- An option begins with the text that it completes, and the text is not empty: both
        -- begin with the parenthesis of a redirect, or neither does.
        have completes (option : String) (starts : Text.startsWith option text = true) :
            (Scalar.text option).Mimics ↔ (Scalar.text text).Mimics := by
          rw [Scalar.mimics_text_iff, Scalar.mimics_text_iff,
            Redirect.isWritten_of_startsWith filled starts]
        have shown : (Scalar.text text).shown = text := rfl
        simp only [isText, if_true] at matched
        rw [shown] at matched
        split at matched
        · cases matched
          rfl
        · split at matched
          · cases matched
          · rename_i only isOnly
            cases matched
            have kept : only ∈ choices.filter (Text.startsWith · text) := by
              rw [isOnly]
              exact List.mem_singleton_self only
            exact completes only (List.mem_filter.mp kept).2
          · cases matched

theorem mimics_of_constraint
    (typed : declaration.type.isText = true →
      value = .null ∨ ∃ text, value = .text text ∧ text ≠ "")
    (checked : Constraint.check tool declaration resolver value = .ok final) :
    final.Mimics ↔ value.Mimics := by
  unfold Constraint.check at checked
  split at checked
  · cases checked
    rfl
  · exact mimics_of_matchOption typed checked
  · obtain ⟨_, _, checked⟩ := Outcome.bind_eq_ok_iff.mp checked
    cases checked
    rfl
  · cases checked
    rfl

end Check

theorem ParameterFile.not_mimics_of_inputFrom {files : FileTree} {overflow : Overflow}
    {declaration : Declaration} {text : String} {input : Input}
    (taken : inputFrom files overflow declaration text = .ok input) : ¬ input.Mimics := by
  rintro ⟨items, rfl, _⟩
  unfold inputFrom at taken
  simp only at taken
  split at taken
  · split at taken <;> cases taken
  · split at taken
    · obtain ⟨_, _, isText⟩ := Outcome.map_eq_ok_iff.mp taken
      cases isText
    · split at taken <;> cases taken

namespace Store

variable {store next : Store} {declaration : Declaration} {requested : String} {input : Input}
  {stored : Stored} {raw : Scalar}

/-- What the check of a parameter stores has a raw form of its kind, unless it takes a list
that mimics a redirect for a text. -/
theorem isFaithful_of_check (checked : store.check declaration input = .ok stored) :
    stored.IsFaithful ↔ ¬ (declaration.type.isText = true ∧ input.Mimics) := by
  unfold check at checked
  cases written : Redirect.ofInput? input with
  | some target =>
      simp only [written] at checked
      obtain ⟨_, _, checked⟩ := Outcome.bind_eq_ok_iff.mp checked
      obtain ⟨_, _, checked⟩ := Outcome.bind_eq_ok_iff.mp checked
      obtain ⟨_, _, stores⟩ := Outcome.bind_eq_ok_iff.mp checked
      cases stores
      obtain ⟨text, rfl, _, rfl⟩ := Redirect.ofInput?_eq_some written
      refine iff_of_true (Stored.isFaithful_redirect_iff.mpr (Redirect.trim_target text)) ?_
      rintro ⟨_, _, ⟨⟩, _⟩
  | none =>
      simp only [written] at checked
      obtain ⟨concrete, coerced, checked⟩ := Outcome.bind_eq_ok_iff.mp checked
      obtain ⟨value, met, stores⟩ := Outcome.bind_eq_ok_iff.mp checked
      cases stores
      rw [Stored.isFaithful_literal_iff,
        mimics_of_constraint (fun isText => text_of_coerce isText coerced) met,
        mimics_of_coerce written coerced]

/-- An assignment of a list that mimics a redirect to a text parameter. -/
def Mistakes (store : Store) (requested : String) (input : Input) : Prop :=
  ∃ declaration, store.declaration requested = .ok declaration ∧
    declaration.type.isText = true ∧ input.Mimics

/-- Every raw form of a store is read as what the store holds. -/
def IsFaithful (store : Store) : Prop :=
  ∀ name, (store.entry name).IsFaithful

theorem isFaithful_of_set (assigned : store.set requested input = .ok (next, raw)) {name : String}
    (resolved : store.resolveName requested = .ok name) :
    (next.entry name).IsFaithful ↔ ¬ store.Mistakes requested input := by
  obtain ⟨_, declaration, stored, resolvedHere, found, checked, rfl, _⟩ := set_eq_ok assigned
  cases resolved.symm.trans resolvedHere
  have declared := declaration_eq_ok_iff.mpr ⟨name, resolved, found⟩
  rw [entry_put, if_pos rfl, isFaithful_of_check checked]
  unfold Mistakes
  rw [declared]
  simp

namespace IsFaithful

theorem set (faithful : store.IsFaithful) (assigned : store.set requested input = .ok (next, raw))
    (unmistaken : ¬ store.Mistakes requested input) : next.IsFaithful := by
  obtain ⟨name, _, stored, resolved, _, _, rfl, _⟩ := set_eq_ok assigned
  intro other
  by_cases same : name = other
  · exact same ▸ (isFaithful_of_set assigned resolved).mpr unmistaken
  · rw [entry_put, if_neg same]
    exact faithful other

theorem assignFrom {files : FileTree} {overflow : ParameterFile.Overflow}
    {contents : ParameterFile.Contents} {declarations : List Declaration} {final : Store}
    (faithful : store.IsFaithful)
    (ended : ParameterFile.assignFrom files overflow contents declarations store = .ok final) :
    final.IsFaithful := by
  refine ParameterFile.assignFrom_keeps (fun earlier taken assigned => ?_) faithful ended
  refine earlier.set assigned ?_
  -- What is taken from a file is one text, never a list.
  rintro ⟨_, _, _, mimics⟩
  exact ParameterFile.not_mimics_of_inputFrom taken mimics

theorem fresh (schema : Schema) : (Store.fresh schema).IsFaithful := by
  intro name
  unfold entry Store.fresh defaults OrderedMap.ofList
  by_cases member : name ∈ (schema.declarations.map fun declaration =>
      (declaration.name, Stored.ofRaw declaration.default)).map Prod.fst
  · -- A name that is declared twice has the later default; each one was recognised before
    -- it was stored.
    obtain ⟨front, stored, back, listed, last⟩ := OrderedMap.exists_lastPair member
    have declared : (name, stored) ∈ schema.declarations.map fun declaration =>
        (declaration.name, Stored.ofRaw declaration.default) := by
      rw [listed]
      exact List.mem_append_right _ List.mem_cons_self
    obtain ⟨declaration, _, same⟩ := List.mem_map.mp declared
    cases same
    rw [listed, OrderedMap.get?_insertAll_last _ last]
    exact Stored.isFaithful_ofRaw declaration.default
  · rw [OrderedMap.get?_insertAll_of_not_mem _ member]
    rfl

end IsFaithful

/-- An assignment that is refused, or one that mistakes no list. -/
def Minds (store : Store) (requested : String) (input : Input) : Prop :=
  ∀ next raw, store.set requested input = .ok (next, raw) → ¬ store.Mistakes requested input

namespace History

/-- What can be done to a store without mistaking a list; calls that fail are steps like
others. -/
inductive Use : History → History → Prop where
  | assign (history : History) (requested : String) (input : Input) (world : World) :
      history.store.Minds requested input →
      Use history
        { history with store := ((assign requested input).perform world history.store).2.2 }
  | attempt (history : History) (requested : String) (input : Input) (world : World) :
      history.store.Minds requested input →
      Use history
        { history with
          store := ((Action.outcome (assign requested input)).perform world history.store).2.2 }
  | clear (history : History) (world : World) :
      Use history { history with store := (clear.perform world history.store).2.2 }
  | read (history : History) (path : String) (overflow : ParameterFile.Overflow)
      (world : World) :
      Use history
        { history with
          store := ((ParameterFile.read path overflow).perform world history.store).2.2 }
  | snapshot (history : History) :
      Use history { history with saved := history.store.snapshot :: history.saved }
  | restore (history : History) (values : Values) :
      values ∈ history.saved →
      Use history { history with store := history.store.restore values }

/-- What can come of the fresh store of a schema by such steps. -/
inductive Used (schema : Schema) : History → Prop where
  | fresh : Used schema { store := Store.fresh schema, saved := [] }
  | use {before after : History} : Used schema before → Use before after → Used schema after

/-- The store and all that was saved of it have raw forms of their kinds. -/
structure IsFaithful (history : History) : Prop where
  store : history.store.IsFaithful
  saved : ∀ values ∈ history.saved, (history.store.restore values).IsFaithful

namespace IsFaithful

variable {schema : Schema} {history after : History}

theorem assign (faithful : history.IsFaithful) (minds : history.store.Minds requested input)
    (world : World) :
    ((Store.assign requested input).perform world history.store).2.2.IsFaithful := by
  obtain ⟨_, _, performed⟩ := perform_assign requested input world history.store
  rw [performed]
  cases assigned : history.store.set requested input with
  | error fault =>
      rw [afterSet_of_error assigned]
      exact faithful.store
  | ok result =>
      rw [afterSet_of_ok assigned]
      exact faithful.store.set assigned (minds _ _ assigned)

/-- No step stores an entry whose raw form is of another kind. -/
theorem use (faithful : history.IsFaithful) (used : Use history after) : after.IsFaithful := by
  cases used with
  | assign requested input world minds =>
      exact { faithful with store := faithful.assign minds world }
  | attempt requested input world minds =>
      exact { faithful with store := faithful.assign minds world }
  | clear world => exact { faithful with store := Store.IsFaithful.fresh history.store.schema }
  | read path overflow world =>
      refine { faithful with store := ?_ }
      obtain ⟨_, _, performed⟩ := ParameterFile.perform_read path overflow world history.store
      rw [performed]
      cases ended : ParameterFile.readFrom world.files path overflow history.store with
      | error failure => exact faithful.store
      | ok final =>
          obtain ⟨_, _, folded⟩ := Outcome.bind_eq_ok_iff.mp ended
          exact faithful.store.assignFrom folded
  | snapshot =>
      refine { faithful with saved := ?_ }
      intro values member
      rcases List.mem_cons.mp member with rfl | earlier
      · exact faithful.store
      · exact faithful.saved values earlier
  | restore values member => exact { faithful with store := faithful.saved values member }

theorem of_used (used : Used schema history) : history.IsFaithful := by
  induction used with
  | fresh => exact { store := .fresh schema, saved := by simp }
  | use _ done induction => exact induction.use done

end IsFaithful

end History

/-- The text of an entry in a file is written as a redirect just if the entry is one. -/
theorem isWritten_iff_of_valueText? (faithful : stored.IsFaithful) {text : String}
    (held : ParameterFile.valueText? declaration stored = some text) :
    Redirect.isWritten text = true ↔ ∃ target, stored = .redirect target := by
  cases stored with
  | redirect target =>
      cases held
      exact iff_of_true (Redirect.isWritten_write target) ⟨target, rfl⟩
  | literal value =>
      refine iff_of_false (fun written => ?_) (by rintro ⟨_, ⟨⟩⟩)
      rcases ParameterFile.valueText?_literal_cases held with word | rfl
      · have plain : ∀ word ∈ ["yes", "no", "INDEF", ""], Redirect.isWritten word = false := by
          decide
        rw [plain text word] at written
        cases written
      · exact Stored.isFaithful_literal_iff.mp faithful (Scalar.isWritten_shown_iff.mp written)

/-- An assignment stores an entry whose raw form is read as another one just if it takes a
list for a text that is written as a redirect.  So in every store that is reached without
such an assignment, what is given, the file and what is saved all tell literals from
redirects. -/
theorem isFaithful_of_used (store : Store) (schema : Schema) :
    (∀ (next : Store) (requested name : String) (input : Input) (raw : Scalar),
      store.set requested input = .ok (next, raw) → store.resolveName requested = .ok name →
        ((next.entry name).IsFaithful ↔ ¬ store.Mistakes requested input)) ∧
      ∀ history, History.Used schema history →
        (∀ name, (history.store.entry name).IsFaithful) ∧
          (∀ declaration ∈ history.store.declarations, ∀ text,
            ParameterFile.valueText? declaration (history.store.entry declaration.name) =
                some text →
              (Redirect.isWritten text = true ↔
                ∃ target, history.store.entry declaration.name = .redirect target)) ∧
          ∀ values ∈ history.saved, ∀ name stored, values.get? name = some stored →
            stored.IsFaithful := by
  refine ⟨fun next requested name input raw assigned resolved =>
    isFaithful_of_set assigned resolved, ?_⟩
  intro history used
  have faithful := History.IsFaithful.of_used used
  refine ⟨faithful.store, fun declaration _ text => ?_, ?_⟩
  · exact isWritten_iff_of_valueText? (faithful.store declaration.name)
  · intro values member name stored held
    have entryFaithful := faithful.saved values member name
    have isEntry : (history.store.restore values).entry name = stored := by
      change (values.get? name).getD (.literal .null) = stored
      rw [held, Option.getD_some]
    exact isEntry ▸ entryFaithful

/-- A schema with a list of files, and the first of them. -/
def playlist : Schema :=
  { name := "list", kind := .parameterFile, executable := none, required := []
    optional := [
      { name := "files", type := .string, help := "", default := .null, required := false,
        mode := "h", constraint := none },
      { name := "first", type := .string, help := "", default := .text "one", required := false,
        mode := "h", constraint := none }] }

def listed (items : List Item) : History :=
  { store := ((assign "files" (.list items)).perform .empty (fresh playlist)).2.2
    saved := [] }

/-- A list of two names is a literal by each of its forms; one that is written as a redirect is
mistaken. -/
theorem isFaithful_playlist :
    (listed [.text "one", .text "two"]).store.entry "files" = .literal (.text "one,two") ∧
      Stored.ofRaw (Scalar.text "one,two") = .literal (.text "one,two") ∧
      ¬ ((listed [.text ")first"]).store.entry "files").IsFaithful := by
  have held : (listed [.text "one", .text "two"]).store.entry "files" =
      .literal (.text "one,two") := by
    decide +kernel
  have minds : (fresh playlist).Minds "files" (.list [.text "one", .text "two"]) := by
    rintro next raw _ ⟨_, _, _, _, ⟨⟩, written⟩
    exact absurd written (by decide)
  have used : History.Used playlist (listed [.text "one", .text "two"]) := by
    refine .use .fresh ?_
    unfold listed
    with_reducible exact .assign _ "files" _ .empty minds
  obtain ⟨mistaken, reached⟩ := isFaithful_of_used (fresh playlist) playlist
  have faithful := (reached _ used).1 "files"
  rw [held] at faithful
  have assigned : (fresh playlist).set "files" (.list [.text ")first"]) =
      .ok ((listed [.text ")first"]).store, .text ")first") := by
    decide +kernel
  have mistakes : (fresh playlist).Mistakes "files" (.list [.text ")first"]) :=
    ⟨_, rfl, rfl, _, rfl, by decide⟩
  refine ⟨held, faithful, fun faithfulToo => ?_⟩
  exact (mistaken _ "files" "files" _ _ assigned (resolveName_of_mem (by decide))).mp faithfulToo
    mistakes

/-- A list whose only item is written as a redirect is held as a literal, and its raw form is
read as the redirect. -/
theorem listed_not_isFaithful :
    History.Reachable playlist (listed [.text ")first"]) ∧ "files" ∈ playlist.names ∧
      (listed [.text ")first"]).store.entry "files" = .literal (.text ")first") ∧
      Stored.ofRaw ((listed [.text ")first"]).store.entry "files").raw = .redirect "first" := by
  refine ⟨.step .fresh ?_, by decide, by decide +kernel, by decide +kernel⟩
  unfold listed
  with_reducible exact .assign _ "files" _ .empty

end Store

end ToolParams
