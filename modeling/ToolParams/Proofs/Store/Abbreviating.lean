import ToolParams.Proofs.Store.Lookup
import ToolParams.Proofs.Store.RawForms

/-!
# Abbreviations

A text abbreviates a word if that word alone, at one position of its list, begins with it.
Writing more of the word then changes nothing: what begins with the longer text begins with
the shorter one as well.  Names of parameters and options of text parameters are abbreviated
in this way, and in both cases a text that is itself a word of the list stands for itself.
-/

namespace ToolParams

namespace Text

theorem startsWith_iff {text beginning : String} :
    startsWith text beginning = true ↔ beginning.toList <+: text.toList :=
  List.isPrefixOf_iff_prefix

theorem startsWith_self (text : String) : startsWith text text = true :=
  startsWith_iff.mpr List.prefix_rfl

theorem startsWith_trans {text middle beginning : String}
    (later : startsWith text middle = true) (early : startsWith middle beginning = true) :
    startsWith text beginning = true :=
  startsWith_iff.mpr ((startsWith_iff.mp early).trans (startsWith_iff.mp later))

/-- Texts that begin with each other are the same. -/
theorem eq_of_startsWith {left right : String} (longer : startsWith left right = true)
    (shorter : startsWith right left = true) : left = right := by
  have rightFirst := startsWith_iff.mp longer
  have leftFirst := startsWith_iff.mp shorter
  exact String.toList_injective (leftFirst.eq_of_length_le rightFirst.length_le)

/-- One position of a list has a word that begins with a text, and no other position has. -/
def Abbreviates (short : String) (words : List String) (word : String) : Prop :=
  ∃ front back, words = front ++ word :: back ∧ startsWith word short = true ∧
    ∀ other ∈ front ++ back, startsWith other short = false

theorem filter_startsWith_eq_singleton_iff {short word : String} {words : List String} :
    words.filter (startsWith · short) = [word] ↔ Abbreviates short words word := by
  rw [List.filter_eq_cons_iff]
  constructor
  · rintro ⟨front, back, rfl, before, starts, none⟩
    refine ⟨front, back, rfl, starts, ?_⟩
    intro other member
    rcases List.mem_append.mp member with inFront | inBack
    · exact Bool.eq_false_iff.mpr (before other inFront)
    · exact Bool.eq_false_iff.mpr (List.filter_eq_nil_iff.mp none other inBack)
  · rintro ⟨front, back, rfl, starts, others⟩
    refine ⟨front, back, rfl, ?_, starts, List.filter_eq_nil_iff.mpr ?_⟩
    · intro other inFront
      exact Bool.eq_false_iff.mp (others other (List.mem_append_left _ inFront))
    · intro other inBack
      exact Bool.eq_false_iff.mp (others other (List.mem_append_right _ inBack))

namespace Abbreviates

variable {short longer word other : String} {words : List String}

theorem mem (abbreviates : Abbreviates short words word) : word ∈ words := by
  obtain ⟨front, back, rfl, _⟩ := abbreviates
  exact List.mem_append_right _ List.mem_cons_self

theorem starts (abbreviates : Abbreviates short words word) :
    startsWith word short = true := by
  obtain ⟨_, _, _, starts, _⟩ := abbreviates
  exact starts

theorem eq_of_mem (abbreviates : Abbreviates short words word) (member : other ∈ words)
    (starts : startsWith other short = true) : other = word := by
  obtain ⟨front, back, rfl, _, others⟩ := abbreviates
  rcases List.mem_append.mp member with inFront | inRest
  · rw [others other (List.mem_append_left _ inFront)] at starts
    cases starts
  · rcases List.mem_cons.mp inRest with rfl | inBack
    · rfl
    · rw [others other (List.mem_append_right _ inBack)] at starts
      cases starts

theorem extend (abbreviates : Abbreviates short words word)
    (further : startsWith longer short = true) (within : startsWith word longer = true) :
    Abbreviates longer words word := by
  obtain ⟨front, back, isWhole, _, others⟩ := abbreviates
  refine ⟨front, back, isWhole, within, ?_⟩
  intro other member
  rw [Bool.eq_false_iff]
  intro starts
  have startsShort := startsWith_trans starts further
  rw [others other member] at startsShort
  cases startsShort

end Abbreviates

/-- What a text stands for in a list of words: itself, if it is one of them, or else the
word that it abbreviates. -/
inductive Selects (short : String) (words : List String) : String → Prop where
  | whole : short ∈ words → Selects short words short
  | shortened {word : String} :
      short ∉ words → Abbreviates short words word → Selects short words word

namespace Selects

variable {short longer word : String} {words : List String}

theorem iff_filter :
    Selects short words word ↔
      if short ∈ words then word = short else words.filter (startsWith · short) = [word] := by
  by_cases isWord : short ∈ words
  · rw [if_pos isWord]
    constructor
    · rintro (_ | ⟨strange, _⟩)
      · rfl
      · exact absurd isWord strange
    · rintro rfl
      exact .whole isWord
  · rw [if_neg isWord, filter_startsWith_eq_singleton_iff]
    constructor
    · rintro (strange | ⟨_, abbreviates⟩)
      · exact absurd strange isWord
      · exact abbreviates
    · exact .shortened isWord

theorem exists_iff :
    (∃ word, Selects short words word) ↔
      short ∈ words ∨ ∃ word, Abbreviates short words word := by
  constructor
  · rintro ⟨word, isWord | ⟨_, abbreviates⟩⟩
    · exact .inl isWord
    · exact .inr ⟨word, abbreviates⟩
  · intro found
    by_cases isWord : short ∈ words
    · exact ⟨short, .whole isWord⟩
    · obtain ⟨word, abbreviates⟩ := found.resolve_left isWord
      exact ⟨word, .shortened isWord abbreviates⟩

theorem extend (selects : Selects short words word)
    (further : startsWith longer short = true) (within : startsWith word longer = true) :
    Selects longer words word := by
  cases selects with
  | whole isWord =>
      obtain rfl := eq_of_startsWith further within
      exact .whole isWord
  | shortened _ abbreviates =>
      -- The longer text may be a word itself, but then it is this one: no other begins with it.
      by_cases isWord : longer ∈ words
      · exact abbreviates.eq_of_mem isWord further ▸ .whole isWord
      · exact .shortened isWord (abbreviates.extend further within)

end Selects

end Text

open Text (Abbreviates Selects)

namespace Constraint

variable {declaration : Declaration} {choices : List String} {text : String} {value : Scalar}

/-- The options of a text parameter complete a text to the option that it stands for. -/
theorem matchOption_text_eq_ok_iff (isText : declaration.type.isText = true) :
    matchOption declaration choices (.text text) = .ok value ↔
      ∃ option, value = .text option ∧ Selects text choices option := by
  have shown : (Scalar.text text).shown = text := rfl
  simp only [matchOption, isText, if_true, Selects.iff_filter]
  rw [shown]
  by_cases isOption : text ∈ choices
  · simp only [if_pos isOption, Except.ok.injEq]
    exact ⟨fun same => ⟨text, same.symm, rfl⟩, by rintro ⟨_, rfl, rfl⟩; rfl⟩
  · simp only [if_neg isOption]
    constructor
    · intro matched
      split at matched
      · cases matched
      · rename_i option single
        cases matched
        exact ⟨option, rfl, single⟩
      · cases matched
    · rintro ⟨option, rfl, single⟩
      rw [single]

end Constraint

namespace Store

variable {store : Store} {requested other name : String} {outcome : Except StoreFault String}

/-- What a text stands for among the declared names. -/
inductive Denotes (store : Store) (requested : String) : Except StoreFault String → Prop where
  | declared : requested ∈ store.schema.names → Denotes store requested (.ok requested)
  | shortened {name : String} :
      requested ∉ store.schema.names →
      name ∈ store.schema.names →
      Text.startsWith name requested = true →
      (∀ other ∈ store.schema.names, Text.startsWith other requested = true → other = name) →
      Denotes store requested (.ok name)
  | ambiguous {candidates : List String} :
      requested ∉ store.schema.names →
      candidates.Sublist store.schema.names →
      (∀ name ∈ store.schema.names,
        name ∈ candidates ↔ Text.startsWith name requested = true) →
      2 ≤ candidates.length →
      Denotes store requested (.error (.ambiguousName store.tool requested candidates))
  | unknown :
      (∀ name ∈ store.schema.names, Text.startsWith name requested = false) →
      Denotes store requested (.error (.unknownName store.tool requested))

theorem denotes_resolveName (store : Store) (requested : String) :
    store.Denotes requested (store.resolveName requested) := by
  unfold resolveName
  split
  · rename_i isDeclared
    exact .declared isDeclared
  · rename_i undeclared
    split
    · rename_i none
      refine .unknown fun name named => Bool.eq_false_iff.mpr ?_
      exact List.filter_eq_nil_iff.mp none name named
    · rename_i only found
      have abbreviates := Text.filter_startsWith_eq_singleton_iff.mp found
      exact .shortened undeclared abbreviates.mem abbreviates.starts
        fun other => abbreviates.eq_of_mem
    · rename_i none single
      refine .ambiguous undeclared List.filter_sublist (fun name named => by simp [named]) ?_
      match found : store.schema.names.filter (Text.startsWith · requested) with
      | [] => exact absurd found none
      | [only] => exact absurd found (single only)
      | _ :: _ :: _ => exact Nat.le_add_left 2 _

/-- Distinct names with the same members in the same order are the same list. -/
theorem candidates_eq {candidates : List String} (distinct : store.schema.names.Nodup)
    (among : candidates.Sublist store.schema.names)
    (members : ∀ name ∈ store.schema.names,
      name ∈ candidates ↔ Text.startsWith name requested = true) :
    store.schema.names.filter (Text.startsWith · requested) = candidates := by
  have kept : candidates.filter (Text.startsWith · requested) = candidates :=
    List.filter_eq_self.mpr fun name member => (members name (among.subset member)).mp member
  have sub : candidates.Sublist (store.schema.names.filter (Text.startsWith · requested)) :=
    kept ▸ among.filter _
  have same : ∀ name, name ∈ candidates ↔
      name ∈ store.schema.names.filter (Text.startsWith · requested) := by
    intro name
    rw [List.mem_filter]
    exact ⟨fun member => ⟨among.subset member, (members name (among.subset member)).mp member⟩,
      fun found => (members name found.1).mpr found.2⟩
  have perm := (List.perm_ext_iff_of_nodup (distinct.sublist among) (distinct.filter _)).mpr same
  exact (sub.eq_of_length perm.length_eq).symm

theorem resolveName_of_denotes (distinct : store.schema.names.Nodup)
    (denotes : store.Denotes requested outcome) : store.resolveName requested = outcome := by
  unfold resolveName
  cases denotes with
  | declared isDeclared => rw [if_pos isDeclared]
  | @shortened name undeclared named starts only =>
      have alone : store.schema.names.filter (Text.startsWith · requested) = [name] := by
        refine candidates_eq distinct (List.singleton_sublist.mpr named) ?_
        intro other otherNamed
        rw [List.mem_singleton]
        exact ⟨fun same => same ▸ starts, only other otherNamed⟩
      rw [if_neg undeclared, alone]
  | @ambiguous candidates undeclared among members several =>
      rw [if_neg undeclared, candidates_eq distinct among members]
      match candidates, several with
      | _ :: _ :: _, _ => rfl
  | unknown none =>
      have undeclared : requested ∉ store.schema.names := by
        intro isDeclared
        have starts := none requested isDeclared
        rw [Text.startsWith_self] at starts
        cases starts
      have noCandidate : store.schema.names.filter (Text.startsWith · requested) = [] :=
        List.filter_eq_nil_iff.mpr fun name named => Bool.eq_false_iff.mp (none name named)
      rw [if_neg undeclared, noCandidate]

/-- Whatever is asked of a store under one text and under another one comes to the same. -/
structure Interchangeable (store : Store) (left right : String) : Prop where
  get : store.get left = store.get right
  getEntry : store.getEntry left = store.getEntry right
  resolve : store.resolve left = store.resolve right
  defaultOf : store.defaultOf left = store.defaultOf right
  validate : ∀ input, store.validate left input = store.validate right input
  set : ∀ input, store.set left input = store.set right input
  /-- with the records in the journal -/
  examine : ∀ input world,
    (Store.examine left input).perform world store = (Store.examine right input).perform world store
  assign : ∀ input world,
    (Store.assign left input).perform world store = (Store.assign right input).perform world store

theorem declaration_of_resolved (resolved : store.resolveName requested = .ok name) :
    store.declaration requested = store.declaration name := by
  have named := resolveName_mem resolved
  obtain ⟨declaration, found⟩ := Schema.exists_find? named
  rw [declaration_eq_ok_iff.mpr ⟨name, resolved, found⟩,
    declaration_eq_ok_iff.mpr ⟨name, resolveName_of_mem named, found⟩]

/-- A text and the declared name that it stands for are interchangeable. -/
theorem interchangeable_of_resolved (resolved : store.resolveName requested = .ok name) :
    store.Interchangeable requested name := by
  have own := resolveName_of_mem (resolveName_mem resolved)
  have declared := declaration_of_resolved resolved
  have validated (input : Input) : store.validate requested input = store.validate name input := by
    rw [validate, declared, validate]
  have set (input : Input) : store.set requested input = store.set name input := by
    rw [Store.set, resolved, Store.set, own]
  have noted (input : Input) :
      (store.noteCheck requested input : Action Store Unit) = store.noteCheck name input := by
    rw [noteCheck, declared, noteCheck]
  exact
    { get := by rw [get, getEntry, resolved, get, getEntry, own]
      getEntry := by rw [getEntry, resolved, getEntry, own]
      resolve := by rw [resolve, resolved, resolve, own]
      defaultOf := by rw [defaultOf, resolved, defaultOf, own]
      validate := validated
      set := set
      examine := by
        intro input world
        simp only [examine, Action.perform_bind, Action.perform_state, noted, validated]
      assign := by
        intro input world
        simp only [assign, Action.perform_bind, Action.perform_state, noted, set, resolved, own] }

theorem resolveName_eq_ok_iff :
    store.resolveName requested = .ok name ↔ Selects requested store.schema.names name := by
  unfold resolveName
  rw [Selects.iff_filter]
  by_cases isDeclared : requested ∈ store.schema.names
  · simp only [if_pos isDeclared, Except.ok.injEq]
    exact eq_comm
  · simp only [if_neg isDeclared]
    constructor
    · intro resolved
      split at resolved
      · cases resolved
      · rename_i only single
        rw [single, Except.ok.inj resolved]
      · cases resolved
    · intro single
      rw [single]

section Options

variable {declaration : Declaration} {choices : List String} {text : String} {stored : Stored}

/-- A text is accepted for a text parameter with options where it stands for one of them. -/
theorem validate_text_eq_ok_iff (declared : store.declaration requested = .ok declaration)
    (isText : declaration.type.isText = true)
    (constrained : declaration.constraint = some (.options choices)) (filled : text ≠ "")
    (plain : Redirect.isWritten text = false) :
    store.validate requested (.ofText text) = .ok stored ↔
      ∃ option, stored = .literal (.text option) ∧ Selects text choices option := by
  have taken : Coerce.toText (.ofText text) = .text text := if_neg filled
  have checked (resolver : Resolver) : Constraint.check store.tool declaration resolver
      (.text text) = Constraint.matchOption declaration choices (.text text) := by
    unfold Constraint.check
    rw [constrained]
  rw [validate_of_declaration declared, Outcome.mapError_eq_ok_iff, check,
    Redirect.ofInput?_ofText plain]
  simp only [ParameterFile.coerce_textual isText, Outcome.ok_bind, taken, checked,
    Outcome.bind_eq_ok_iff, Outcome.pure_eq_ok_iff,
    Constraint.matchOption_text_eq_ok_iff isText]
  constructor
  · rintro ⟨_, ⟨option, rfl, selects⟩, rfl⟩
    exact ⟨option, rfl, selects⟩
  · rintro ⟨option, rfl, selects⟩
    exact ⟨_, ⟨option, rfl, selects⟩, rfl⟩

end Options

/-- Names and options are abbreviated exactly, and any longer beginning of what an
abbreviation stands for stands for the same.

A text under which a parameter is looked for is a declared name, or begins one declared name,
or several of them, or none.  Where it stands for a name, longer beginnings of that name are
interchangeable with it.  A text for a text parameter with options is accepted if it is an
option or begins the option at just one position, and longer beginnings are completed to the
same option. -/
theorem resolveName_eq_iff_denotes (store : Store) (distinct : store.schema.names.Nodup) :
    (∀ requested outcome,
      store.resolveName requested = outcome ↔ store.Denotes requested outcome) ∧
    (∀ requested longer name, store.resolveName requested = .ok name →
      Text.startsWith longer requested = true → Text.startsWith name longer = true →
        store.resolveName longer = .ok name ∧ store.Interchangeable longer name) ∧
    ∀ requested declaration choices text,
      store.declaration requested = .ok declaration → declaration.type.isText = true →
      declaration.constraint = some (.options choices) → text ≠ "" →
      Redirect.isWritten text = false →
        ((∃ stored, store.validate requested (.ofText text) = .ok stored) ↔
          text ∈ choices ∨ ∃ option, Abbreviates text choices option) ∧
        (∀ stored, store.validate requested (.ofText text) = .ok stored →
          ∃ option, stored = .literal (.text option) ∧ Selects text choices option) ∧
        ∀ option longer,
          store.validate requested (.ofText text) = .ok (.literal (.text option)) →
          Text.startsWith longer text = true → Text.startsWith option longer = true →
            store.validate requested (.ofText longer) = .ok (.literal (.text option)) := by
  refine ⟨?_, ?_, ?_⟩
  · intro requested outcome
    exact ⟨fun same => same ▸ store.denotes_resolveName requested,
      resolveName_of_denotes distinct⟩
  · intro requested longer name resolved further within
    have selects := (resolveName_eq_ok_iff.mp resolved).extend further within
    have resolvedToo := resolveName_eq_ok_iff.mpr selects
    exact ⟨resolvedToo, interchangeable_of_resolved resolvedToo⟩
  · intro requested declaration choices text declared isText constrained filled plain
    have accepts {stored : Stored} :=
      @validate_text_eq_ok_iff store requested declaration choices text stored declared isText
        constrained filled plain
    refine ⟨?_, fun stored => accepts.mp, ?_⟩
    · rw [← Selects.exists_iff]
      constructor
      · rintro ⟨stored, validated⟩
        obtain ⟨option, _, selects⟩ := accepts.mp validated
        exact ⟨option, selects⟩
      · rintro ⟨option, selects⟩
        exact ⟨_, accepts.mpr ⟨option, rfl, selects⟩⟩
    · intro option longer validated further within
      obtain ⟨_, same, selects⟩ := accepts.mp validated
      cases same
      have longerFilled := ne_empty_of_startsWith filled further
      have longerPlain := (Redirect.isWritten_of_startsWith filled further).trans plain
      exact (validate_text_eq_ok_iff declared isText constrained longerFilled longerPlain).mpr
        ⟨_, rfl, selects.extend further within⟩

/-- A parameter whose options list a colour twice. -/
def colour : Declaration :=
  { name := "colour", type := .string, help := "", default := .null, required := false
    mode := "h", constraint := some (.options ["red", "red", "rose", "green"]) }

def dyed : Schema :=
  { name := "dye", kind := .parameterFile, executable := none, required := []
    optional := [colour,
      { name := "column", type := .integer, help := "", default := .null, required := false,
        mode := "h", constraint := none }] }

/-- The common beginning of two names stands for neither, and more of one of them for that
one.  An option that is listed twice is taken as a whole only. -/
theorem resolveName_dyed :
    dyed.names.Nodup ∧
      (fresh dyed).resolveName "col" =
        .error (.ambiguousName "dye" "col" ["colour", "column"]) ∧
      (fresh dyed).resolveName "colour" = .ok "colour" ∧
      (fresh dyed).Interchangeable "colou" "colour" ∧
      ((fresh dyed).validate "colo" (.ofText "gree") = .ok (.literal (.text "green"))) ∧
      ((fresh dyed).validate "colo" (.ofText "red") = .ok (.literal (.text "red"))) ∧
      ¬∃ stored, (fresh dyed).validate "colo" (.ofText "re") = .ok stored := by
  have distinct : dyed.names.Nodup := by decide
  obtain ⟨resolves, lengthens, options⟩ := resolveName_eq_iff_denotes (fresh dyed) distinct
  have declared : (fresh dyed).declaration "colo" = .ok colour := by decide +kernel
  have given {text : String} := options "colo" _ ["red", "red", "rose", "green"] text declared
    (by decide) (by decide +kernel)
  refine ⟨distinct, ?_, ?_, ?_, ?_, ?_, ?_⟩
  · refine (resolves _ _).mpr (.ambiguous (by decide) (List.Sublist.refl _) ?_ (by decide))
    decide +kernel
  · exact (resolves _ _).mpr (.declared (by decide))
  · have shortened := (resolves "colo" (.ok "colour")).mpr
      (.shortened (by decide) (by decide) (by decide +kernel) (by decide +kernel))
    exact (lengthens "colo" "colou" "colour" shortened (by decide +kernel) (by decide +kernel)).2
  · obtain ⟨_, _, further⟩ := @given "g" (by decide) (by decide +kernel)
    exact further "green" "gree" (by decide +kernel) (by decide +kernel) (by decide +kernel)
  · obtain ⟨accepts, completes, _⟩ := @given "red" (by decide) (by decide +kernel)
    obtain ⟨stored, validated⟩ := accepts.mpr (.inl (by decide))
    obtain ⟨option, rfl, selects⟩ := completes stored validated
    rcases selects with _ | ⟨strange, _⟩
    · exact validated
    · exact absurd (by decide) strange
  · obtain ⟨accepts, _⟩ := @given "re" (by decide) (by decide +kernel)
    rw [accepts]
    rintro (isOption | ⟨option, abbreviates⟩)
    · exact absurd isOption (by decide)
    · have single := Text.filter_startsWith_eq_singleton_iff.mpr abbreviates
      have twice : ["red", "red", "rose", "green"].filter (Text.startsWith · "re") =
        ["red", "red"] := by decide +kernel
      rw [twice] at single
      cases single

end Store

end ToolParams
