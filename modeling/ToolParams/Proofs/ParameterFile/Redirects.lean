import ToolParams.Proofs.ParameterFile.Verifying
import ToolParams.Proofs.Store.Following

/-!
# Redirects lead to the same place in a file as in its store

A walk within a file goes from a text that is written as a redirect to the text of its target,
as long as the file has the target and the walk did not pass it before.  The names that it
passes are among those of the file, so every walk ends, and following the redirects gives the
text at its end.

The file of a store has the text of every entry under the name of its parameter.  Where the
store walks to a value, the file walks along the same names to the text of that value.  Where
the store finds none, all the names that it passes are redirects, and the file does not leave
them.
-/

namespace ToolParams

/-- An entry whose text shows whether it is a redirect, and to which name.  The name of the
last line of a file is no target. -/
def Stored.IsClear : Stored → Prop
  | .redirect target => Text.trim target = target ∧ target ≠ "mode"
  | .literal (.text text) => Redirect.isWritten text = false
  | .literal _ => True

instance : (stored : Stored) → Decidable stored.IsClear
  | .redirect target => inferInstanceAs (Decidable (Text.trim target = target ∧ target ≠ "mode"))
  | .literal (.text text) => inferInstanceAs (Decidable (Redirect.isWritten text = false))
  | .literal .absent => .isTrue trivial
  | .literal .null => .isTrue trivial
  | .literal (.bool _) => .isTrue trivial
  | .literal (.number _) => .isTrue trivial

namespace ParameterFile

/-- A walk through the contents of a file from one text to another, along the targets of
redirects.  No target comes twice; the last one stands in front. -/
inductive Leads (contents : Contents) (first : String) : List String → String → Prop where
  | start : Leads contents first [] first
  | onward {passed : List String} {text next : String} :
      Leads contents first passed text →
      Redirect.isWritten text = true →
      contents.get? (Redirect.target text) = some next →
      Redirect.target text ∉ passed →
      Leads contents first (Redirect.target text :: passed) next

/-- Why a walk does not go on from a text. -/
inductive Rests (contents : Contents) (passed : List String) (text : String) : Prop where
  | plain : Redirect.isWritten text = false → Rests contents passed text
  | missing : contents.get? (Redirect.target text) = none → Rests contents passed text
  | repeated : Redirect.target text ∈ passed → Rests contents passed text

section Walking

variable {contents : Contents} {first text : String} {passed : List String} {steps : Nat}

theorem followText_of_rests (rests : Rests contents passed text) :
    followText contents steps passed text = text := by
  cases steps with
  | zero => rfl
  | succ steps =>
      unfold followText
      cases rests with
      | plain plain => simp [plain]
      | missing missing => simp [missing]
      | repeated repeated =>
          cases found : contents.get? (Redirect.target text) <;> simp [found, repeated]

namespace Leads

theorem nodup (leads : Leads contents first passed text) : passed.Nodup := by
  induction leads with
  | start => exact List.nodup_nil
  | onward _ _ _ fresh induction => exact List.nodup_cons.mpr ⟨fresh, induction⟩

theorem named (leads : Leads contents first passed text) :
    ∀ name ∈ passed, name ∈ contents.keys := by
  induction leads with
  | start => simp
  | onward _ _ found _ induction =>
      intro name member
      rcases List.mem_cons.mp member with rfl | earlier
      · exact OrderedMap.mem_keys_iff.mpr (by simp [found])
      · exact induction name earlier

theorem length_le (leads : Leads contents first passed text) :
    passed.length ≤ contents.size := by
  have bound := (leads.nodup.subperm leads.named).length_le
  rwa [OrderedMap.keys, List.length_map] at bound

/-- Wherever a walk has come, following redirects from there gives what following them from
its first text gives. -/
theorem follow_eq (leads : Leads contents first passed text) :
    follow contents first = followText contents (contents.size + 1 - passed.length) passed text := by
  induction leads with
  | start => rfl
  | @onward passed text next walk written found fresh induction =>
      have bound := (walk.onward written found fresh).length_le
      rw [List.length_cons] at bound ⊢
      have left : contents.size + 1 - passed.length = contents.size - passed.length + 1 := by
        omega
      rw [induction, left, Nat.add_sub_add_right]
      simp only [followText, written, found, fresh, if_true, if_false]

theorem follow_of_rests (leads : Leads contents first passed text)
    (rests : Rests contents passed text) : follow contents first = text := by
  rw [leads.follow_eq, followText_of_rests rests]

/-- Every walk can be continued to an end: each step leaves one name less to pass. -/
theorem exists_end {passed : List String} {text : String}
    (leads : Leads contents first passed text) :
    ∃ passed text, Leads contents first passed text ∧ Rests contents passed text := by
  cases written : Redirect.isWritten text with
  | false => exact ⟨passed, text, leads, .plain written⟩
  | true =>
      cases found : contents.get? (Redirect.target text) with
      | none => exact ⟨passed, text, leads, .missing found⟩
      | some next =>
          by_cases fresh : Redirect.target text ∈ passed
          · exact ⟨passed, text, leads, .repeated fresh⟩
          · have longer := leads.onward written found fresh
            have bound := longer.length_le
            exact longer.exists_end
termination_by contents.size - passed.length
decreasing_by
  rw [List.length_cons] at bound ⊢
  omega

end Leads

theorem follow_eq_iff_leads {reached : String} :
    follow contents text = reached ↔
      ∃ passed, Leads contents text passed reached ∧ Rests contents passed reached := by
  constructor
  · intro followed
    have begins : Leads contents text [] text := .start
    obtain ⟨passed, last, leads, rests⟩ := begins.exists_end
    rw [leads.follow_of_rests rests] at followed
    exact ⟨passed, followed ▸ leads, followed ▸ rests⟩
  · rintro ⟨passed, leads, rests⟩
    exact leads.follow_of_rests rests

section Congruence

variable {other : Contents} (same : ∀ name, other.get? name = contents.get? name)

include same

theorem Leads.congr (leads : Leads contents first passed text) :
    Leads other first passed text := by
  induction leads with
  | start => exact .start
  | onward _ written found fresh induction =>
      exact induction.onward written ((same _).trans found) fresh

theorem Rests.congr (rests : Rests contents passed text) : Rests other passed text := by
  cases rests with
  | plain plain => exact .plain plain
  | missing missing => exact .missing ((same _).trans missing)
  | repeated repeated => exact .repeated repeated

/-- Where redirects lead does not depend on the order of the names. -/
theorem follow_congr (text : String) : follow other text = follow contents text := by
  obtain ⟨passed, leads, rests⟩ := follow_eq_iff_leads.mp (rfl : follow contents text = _)
  exact (leads.congr same).follow_of_rests (rests.congr same)

end Congruence

end Walking

section Mirroring

variable {contents : Contents} {store : Store} {declaration : Declaration} {text : String}

theorem isWritten_of_clear {value : Scalar} (clear : (Stored.literal value).IsClear)
    (held : valueText? declaration (.literal value) = some text) :
    Redirect.isWritten text = false := by
  rcases valueText?_literal_cases held with word | rfl
  · have plain : ∀ word ∈ ["yes", "no", "INDEF", ""], Redirect.isWritten word = false := by
      decide
    exact plain text word
  · cases value with
    | text text => exact clear
    | number number => exact number.isWritten_text
    | bool truth => cases truth <;> decide
    | null => decide
    | absent => decide

/-- A file with the text of each entry of a store, and nothing else but its mode. -/
structure Mirrors (contents : Contents) (store : Store) : Prop where
  held : ∀ declaration ∈ store.declarations, ∃ text,
    valueText? declaration (store.entry declaration.name) = some text ∧
      contents.get? declaration.name = some text
  alone : ∀ name ∉ store.schema.names, name ≠ "mode" → contents.get? name = none
  clear : ∀ name ∈ store.schema.names, (store.entry name).IsClear

namespace Mirrors

variable {first last name target : String} {passed seen : List String} {value : Scalar}

theorem get?_of_redirect (mirrors : Mirrors contents store) (declared : name ∈ store.schema.names)
    (holds : store.Holds name (.redirect target)) :
    contents.get? name = some (Redirect.write target) ∧
      Redirect.target (Redirect.write target) = target ∧ target ≠ "mode" := by
  have isEntry := Store.holds_iff.mp holds
  obtain ⟨declaration, isDeclared, rfl⟩ := List.mem_map.mp declared
  obtain ⟨text, held, found⟩ := mirrors.held declaration isDeclared
  have clear := mirrors.clear _ declared
  rw [isEntry] at held clear
  cases held
  exact ⟨found, Redirect.target_write clear.1, clear.2⟩

theorem exists_declaration (mirrors : Mirrors contents store)
    (declared : name ∈ store.schema.names) (holds : store.Holds name (.literal value)) :
    ∃ declaration ∈ store.declarations, declaration.name = name ∧ ∃ text,
      valueText? declaration (.literal value) = some text ∧ contents.get? name = some text ∧
        Redirect.isWritten text = false := by
  have isEntry := Store.holds_iff.mp holds
  obtain ⟨declaration, isDeclared, rfl⟩ := List.mem_map.mp declared
  obtain ⟨text, held, found⟩ := mirrors.held declaration isDeclared
  have clear := mirrors.clear _ declared
  rw [isEntry] at held clear
  exact ⟨declaration, isDeclared, rfl, text, held, found, isWritten_of_clear clear held⟩

/-- Where the store walks, the file walks along the same names. -/
theorem leads_of_walk (mirrors : Mirrors contents store)
    (walk : store.Walk first passed last) (found : contents.get? first = some text) :
    ∃ reached, contents.get? last = some reached ∧
      Leads contents text passed.tail.reverse reached := by
  induction walk with
  | start => exact ⟨text, found, .start⟩
  | @onward passed last target walk redirect isDeclared fresh induction =>
      obtain ⟨reached, isReached, leads⟩ := induction
      obtain ⟨isRedirect, isTarget, _⟩ :=
        mirrors.get?_of_redirect (walk.declared _ walk.last_mem) redirect
      cases isRedirect.symm.trans isReached
      obtain ⟨declaration, targetDeclared, rfl⟩ := List.mem_map.mp isDeclared
      obtain ⟨next, _, isNext⟩ := mirrors.held declaration targetDeclared
      have filled : passed ≠ [] := List.ne_nil_of_mem walk.last_mem
      have unseen : declaration.name ∉ passed.tail.reverse := by
        rw [List.mem_reverse]
        exact fun member => fresh (List.mem_of_mem_tail member)
      have longer := leads.onward (Redirect.isWritten_write _) (isTarget.symm ▸ isNext)
        (isTarget.symm ▸ unseen)
      refine ⟨next, isNext, ?_⟩
      rw [List.tail_append_of_ne_nil filled, List.reverse_append, List.reverse_singleton]
      exact isTarget ▸ longer

/-- Names that redirect to each other or to no parameter are not left by a walk within the
file. -/
theorem within_of_leads (mirrors : Mirrors contents store)
    (declared : ∀ name ∈ passed, name ∈ store.schema.names)
    (closed : ∀ name ∈ passed, ∃ target, store.Holds name (.redirect target) ∧
      (target ∈ passed ∨ target ∉ store.schema.names))
    (among : first ∈ passed) (found : contents.get? first = some text) {reached : String}
    (leads : Leads contents text seen reached) :
    ∃ name ∈ passed, contents.get? name = some reached := by
  induction leads with
  | start => exact ⟨first, among, found⟩
  | onward _ _ isNext _ induction =>
      obtain ⟨name, member, isText⟩ := induction
      obtain ⟨target, redirect, onward⟩ := closed name member
      obtain ⟨isRedirect, isTarget, unreserved⟩ :=
        mirrors.get?_of_redirect (declared name member) redirect
      cases isRedirect.symm.trans isText
      rw [isTarget] at isNext
      rcases onward with inside | undeclared
      · exact ⟨target, inside, isNext⟩
      · rw [mirrors.alone target undeclared unreserved] at isNext
        cases isNext

/-- A value of the store is found in the file under the name where it stands. -/
theorem follow_of_resolve (mirrors : Mirrors contents store)
    (declared : name ∈ store.schema.names) (found : contents.get? name = some text)
    (resolves : store.resolve name = .ok value) :
    ∃ passed, ∃ last ∈ store.declarations,
      store.Walk name passed last.name ∧ store.Holds last.name (.literal value) ∧
        valueText? last (.literal value) = some (follow contents text) := by
  rw [Store.resolve_eq_ok_iff declared, Store.follow_eq_iff declared] at resolves
  obtain ⟨passed, last, walk, ends⟩ := resolves
  cases ends with
  | value holds =>
      obtain ⟨declaration, isDeclared, rfl, shown, held, isShown, plain⟩ :=
        mirrors.exists_declaration (walk.declared _ walk.last_mem) holds
      obtain ⟨reached, isReached, leads⟩ := mirrors.leads_of_walk walk found
      cases isShown.symm.trans isReached
      rw [leads.follow_of_rests (.plain plain)]
      exact ⟨passed, declaration, isDeclared, walk, holds, held⟩

/-- Where the store finds no value, the file comes to a redirect. -/
theorem isWritten_follow_of_refused (mirrors : Mirrors contents store)
    (declared : name ∈ store.schema.names) (found : contents.get? name = some text)
    {refusal : StoreFault} (refused : store.resolve name = .error refusal) :
    Redirect.isWritten (follow contents text) = true := by
  obtain ⟨passed, last, outcome, walk, ends⟩ := (Store.Walk.start declared).exists_end
  rw [Store.resolve_eq declared, walk.follow_of_ends ends] at refused
  have stuck : ∃ target, store.Holds last (.redirect target) ∧
      (target ∈ passed ∨ target ∉ store.schema.names) := by
    cases ends with
    | value _ => cases refused
    | dangling redirect undeclared => exact ⟨_, redirect, .inr undeclared⟩
    | cycle redirect again => exact ⟨_, redirect, .inl again⟩
  have closed : ∀ other ∈ passed, ∃ target, store.Holds other (.redirect target) ∧
      (target ∈ passed ∨ target ∉ store.schema.names) := by
    intro other member
    by_cases isLast : other = last
    · exact isLast ▸ stuck
    · obtain ⟨target, inside, redirect⟩ := walk.redirects other member isLast
      exact ⟨target, redirect, .inl inside⟩
  obtain ⟨seen, leads, _⟩ := follow_eq_iff_leads.mp (rfl : follow contents text = _)
  obtain ⟨other, member, reached⟩ :=
    mirrors.within_of_leads walk.declared closed walk.first_mem found leads
  obtain ⟨target, redirect, _⟩ := closed other member
  obtain ⟨isRedirect, _⟩ := mirrors.get?_of_redirect (walk.declared other member) redirect
  rw [← Option.some.inj (isRedirect.symm.trans reached)]
  exact Redirect.isWritten_write target

end Mirrors

end Mirroring

section Written

variable {limit : Number} {store : Store} {path : String} {world after : World}
  {overflow final : Overflow}

/-- A store that was written without stack files is mirrored by its file. -/
theorem mirrors_of_write (legible : store.schema.Legible) (sound : store.schema.Sound)
    (listed : ∀ name ∈ store.schema.names, isListed name = true)
    (clear : ∀ declaration ∈ store.declarations,
      (store.entry declaration.name).IsWritable declaration ∧
        (store.entry declaration.name).IsClear)
    (fits : ∀ declaration ∈ store.declarations, ∀ text,
      valueText? declaration (store.entry declaration.name) = some text →
        exceeds limit text = false)
    (writes : (write limit store path).perform world overflow = (.ok (), after, final)) :
    ∃ content found, after.files.Holds path content ∧ contents content = .ok found ∧
      Mirrors found store := by
  obtain ⟨texted, _, holds⟩ := refers_of_write writes
  have isText : ∀ declaration ∈ store.declarations,
      valueText? declaration (store.entry declaration.name) =
        some (lineText limit store path declaration) := by
    intro declaration declared
    obtain ⟨text, held⟩ := texted declaration declared
    rw [lineText_eq held, fits declaration declared text held, if_neg Bool.false_ne_true, held]
  have writable : ∀ declaration ∈ store.declarations,
      Writable declaration ∧
        WritableText declaration (lineText limit store path declaration) := by
    intro declaration declared
    constructor
    · exact writable_of_legible legible sound declared
    · exact writableText_of_isWritable (clear declaration declared).1 (isText declaration declared)
  have keys : ∀ other ∈ store.declarations, keyOf other.name = other.name := by
    intro other declared
    exact keyOf_of_isListed (listed _ (List.mem_map_of_mem declared))
  refine ⟨_, _, holds, contents_contentOf writable, ?_, ?_, ?_⟩
  · intro declaration declared
    have isListedHere := listed _ (List.mem_map_of_mem declared)
    have unreserved : "mode" ≠ declaration.name := by
      rintro reserved
      exact sound.unreserved (reserved ▸ List.mem_map_of_mem declared)
    refine ⟨_, isText declaration declared, ?_⟩
    rw [OrderedMap.get?_insert, if_neg unreserved]
    apply get?_foldl_of_mem declared isListedHere
    intro other otherDeclared same
    rw [keys other otherDeclared] at same
    exact Schema.eq_of_name sound.distinct otherDeclared declared same
  · intro name undeclared unreserved
    rw [OrderedMap.get?_insert, if_neg (Ne.symm unreserved), get?_foldl_of_apart,
      OrderedMap.get?_empty]
    rintro other declared rfl
    rw [keys other declared] at undeclared
    exact undeclared (List.mem_map_of_mem declared)
  · intro name declared
    obtain ⟨declaration, isDeclared, rfl⟩ := List.mem_map.mp declared
    exact (clear declaration isDeclared).2

/-- Following redirects ends in every file, at the end of the only walk that cannot go on.  In
the file of a store they lead from the text of each parameter to the text of the value that it
resolves to, and to a redirect where it resolves to none. -/
theorem follow_of_write :
    (∀ {tool text : String} {kind : ToolKind} {limit : Number} {store : Store} {path : String}
        {world after : World} {overflow final : Overflow},
      Schema.read tool text kind = .ok store.schema → store.schema.Legible →
      (∀ name ∈ store.schema.names, isListed name = true) →
      (∀ declaration ∈ store.declarations,
        (store.entry declaration.name).IsWritable declaration ∧
          (store.entry declaration.name).IsClear) →
      (∀ declaration ∈ store.declarations, ∀ text,
        valueText? declaration (store.entry declaration.name) = some text →
          exceeds limit text = false) →
      (write limit store path).perform world overflow = (.ok (), after, final) →
        ∃ content found, after.files.Holds path content ∧ contents content = .ok found ∧
          ∀ declaration ∈ store.declarations, ∃ text,
            valueText? declaration (store.entry declaration.name) = some text ∧
            found.get? declaration.name = some text ∧
            (∀ value, store.resolve declaration.name = .ok value →
              ∃ passed, ∃ last ∈ store.declarations,
                store.Walk declaration.name passed last.name ∧
                store.Holds last.name (.literal value) ∧
                valueText? last (.literal value) = some (follow found text)) ∧
            ∀ refusal, store.resolve declaration.name = .error refusal →
              Redirect.isWritten (follow found text) = true) ∧
      ∀ (contents : Contents) (text : String),
        (∀ reached, follow contents text = reached ↔
          ∃ passed, Leads contents text passed reached ∧ Rests contents passed reached) ∧
        ∀ passed reached, Leads contents text passed reached →
          passed.length ≤ contents.size := by
  constructor
  · intro tool text kind limit store path world after overflow final accepted legible listed clear
      fits writes
    obtain ⟨content, found, holds, isContent, mirrors⟩ :=
      mirrors_of_write legible (Schema.sound_of_read accepted) listed clear fits writes
    refine ⟨content, found, holds, isContent, ?_⟩
    intro declaration declared
    have isName : declaration.name ∈ store.schema.names := List.mem_map_of_mem declared
    obtain ⟨text, held, isText⟩ := mirrors.held declaration declared
    refine ⟨text, held, isText, ?_, ?_⟩
    · intro value resolves
      exact mirrors.follow_of_resolve isName isText resolves
    · intro refusal refused
      exact mirrors.isWritten_follow_of_refused isName isText refused
  · intro contents text
    exact ⟨fun reached => follow_eq_iff_leads, fun passed reached leads => leads.length_le⟩

/-- A schema with redirects to a number and into a cycle. -/
def trail : Schema :=
  { name := "trail", kind := .parameterFile, executable := none, required := []
    optional := [("depth", ParameterType.integer, .number (.ofNat 5)),
      ("level", .integer, .text ")depth"), ("goal", .string, .text ")level"),
      ("entry", .string, .text ")near"), ("near", .string, .text ")far"),
      ("far", .string, .text ")near")].map fun (name, type, default) =>
        { name, type, help := "", default, required := false, mode := "h", constraint := none } }

/-- What is there after the values of a trail were written. -/
def trodden : Except Failure Unit × World × Overflow :=
  (write defaultLimit (Store.fresh trail) "trail.par").perform .empty .empty

/-- Redirects lead through another one to a number, and from outside into a cycle. -/
theorem follow_of_write_trail :
    trodden.1 = .ok () ∧
      ∃ content found, trodden.2.1.files.Holds "trail.par" content ∧
        contents content = .ok found ∧ follow found ")level" = "5" ∧
        Redirect.isWritten (follow found ")near") = true := by
  have succeeds : trodden.1 = .ok () := by decide +kernel
  have writes : (write defaultLimit (Store.fresh trail) "trail.par").perform .empty .empty =
      (.ok (), trodden.2.1, trodden.2.2) := by
    change trodden = _
    rw [← succeeds]
  have accepted : Schema.read "trail" ("depth,i,h,5,,,\nlevel,i,h,)depth,,\ngoal,s,h,)level,,,\n" ++
        "entry,s,h,)near,,\nnear,s,h,)far,,\nfar,s,h,)near,,,\n") .parameterFile =
      .ok (Store.fresh trail).schema := by
    decide +kernel
  have legible : (Store.fresh trail).schema.Legible :=
    ⟨by decide +kernel, by decide +kernel, by decide +kernel, by decide +kernel⟩
  have short : ∀ declaration ∈ (Store.fresh trail).declarations,
      (valueText? declaration ((Store.fresh trail).entry declaration.name)).any
        (exceeds defaultLimit) = false := by
    decide +kernel
  have fits : ∀ declaration ∈ (Store.fresh trail).declarations, ∀ text,
      valueText? declaration ((Store.fresh trail).entry declaration.name) = some text →
        exceeds defaultLimit text = false := by
    intro declaration declared text held
    have isShort := short declaration declared
    rwa [held, Option.any_some] at isShort
  obtain ⟨content, found, holds, isContent, leads⟩ := follow_of_write.1 accepted legible
    (by decide +kernel) (by decide +kernel) fits writes
  refine ⟨succeeds, content, found, holds, isContent, ?_, ?_⟩
  · obtain ⟨text, held, _, reaches, _⟩ := leads
      { name := "goal", type := .string, help := "", default := .text ")level", required := false,
        mode := "h", constraint := none } (by decide +kernel)
    have isText : text = ")level" := Option.some.inj (held.symm.trans (by decide +kernel))
    obtain ⟨_, last, declared, _, _, isReached⟩ :=
      reaches (.number (.ofNat 5)) (by decide +kernel)
    have shown : ∀ last ∈ (Store.fresh trail).declarations,
        valueText? last (.literal (.number (.ofNat 5))) = some "5" := by
      decide +kernel
    rw [← isText]
    exact Option.some.inj (isReached.symm.trans (shown last declared))
  · obtain ⟨text, held, _, _, stays⟩ := leads
      { name := "entry", type := .string, help := "", default := .text ")near", required := false,
        mode := "h", constraint := none } (by decide +kernel)
    have isText : text = ")near" := Option.some.inj (held.symm.trans (by decide +kernel))
    rw [← isText]
    exact stays (.value (.cycle "trail" "entry" ["entry", "near", "far", "near"]))
      (by decide +kernel)

end Written

end ParameterFile

end ToolParams
