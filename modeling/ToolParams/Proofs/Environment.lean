import Mathlib.Data.List.TakeWhile
import ToolParams.Environment

/-!
# Expanding a text piece by piece

A text is cut from left to right into references to variables and single other characters.
There is one way to do so, and expanding the text replaces each reference for which something
is found and keeps all other pieces.  What is found is the value of a variable, or the member
that every object has under the name; only where no name of such a member is referred to are
the set variables all that counts.  A character that no reference can hold is a piece of its
own, so what stands before it and what stands behind it are expanded apart.
-/

namespace ToolParams.Environment

theorem expandChars_of_plain {lookup : String → Option String} {characters : List Char}
    (plain : '$' ∉ characters) : expandChars lookup characters = characters := by
  induction characters with
  | nil => simp [expandChars]
  | cons head rest induction =>
      rw [List.mem_cons, not_or] at plain
      rw [expandChars, induction plain.2]
      exact fun isDollar => plain.1 isDollar.symm

theorem expand_of_plain (environment : Environment) {text : String}
    (plain : '$' ∉ text.toList) : environment.expand text = text := by
  rw [expand, expandBy, expandChars_of_plain plain, String.ofList_toList]

/-- A name that can be referred to. -/
structure IsName (name : List Char) : Prop where
  filled : name ≠ []
  nameChars : ∀ character ∈ name, isNameChar character = true

/-- A piece of a text: a reference to a variable, by its bare name or by its name in braces,
or a single character. -/
inductive Piece where
  | bare (name : List Char)
  | braced (name : List Char)
  | single (character : Char)
deriving DecidableEq, Repr

namespace Piece

/-- The characters of a piece. -/
def written : Piece → List Char
  | .bare name => '$' :: name
  | .braced name => '$' :: '\x7b' :: (name ++ ['\x7d'])
  | .single character => [character]

/-- The variable that a piece refers to. -/
def name? : Piece → Option String
  | .bare name => some (String.ofList name)
  | .braced name => some (String.ofList name)
  | .single _ => none

theorem written_ne_nil (piece : Piece) : piece.written ≠ [] := by
  cases piece <;> exact List.cons_ne_nil _ _

/-- What a piece is replaced by: a reference by what is found for it, if anything is. -/
def replaced (lookup : String → Option String) (piece : Piece) : List Char :=
  match piece.name?.bind lookup with
  | some value => value.toList
  | none => piece.written

/-- Whether a piece is a reference, by a name that has the right characters. -/
def IsReference : Piece → Prop
  | .bare name => IsName name
  | .braced name => IsName name
  | .single _ => False

end Piece

def Opens (characters : List Char) : Prop :=
  ∃ piece : Piece, piece.IsReference ∧ piece.written <+: characters

/-- Whether a name in front of the characters ends there. -/
def Stops (rest : List Char) : Prop :=
  ∀ next ∈ rest.head?, isNameChar next = false

/-- Whether a piece is cut off in front of other characters: a bare name goes on as long as
it can, and a character is a piece by itself where no reference begins. -/
def Piece.Precedes (rest : List Char) : Piece → Prop
  | .bare name => IsName name ∧ Stops rest
  | .braced name => IsName name
  | .single character => ¬ Opens (character :: rest)

/-- The pieces of a text from left to right. -/
inductive Cuts : List Char → List Piece → Prop where
  | nil : Cuts [] []
  | cons (piece : Piece) {rest : List Char} {pieces : List Piece} :
      piece.Precedes rest → Cuts rest pieces → Cuts (piece.written ++ rest) (piece :: pieces)

section Names

variable {name rest : List Char} {character : Char}

theorem spanName_append (isName : IsName name) (stops : Stops rest) :
    spanName (name ++ rest) = (name, rest) := by
  have ends : rest.takeWhile isNameChar = [] ∧ rest.dropWhile isNameChar = rest := by
    cases rest with
    | nil => exact ⟨rfl, rfl⟩
    | cons next rest => simp [stops next rfl]
  rw [spanName, List.takeWhile_append_of_pos isName.nameChars,
    List.dropWhile_append_of_pos isName.nameChars, ends.1, ends.2, List.append_nil]

theorem stops_brace (rest : List Char) : Stops ('\x7d' :: rest) := by
  intro next first
  cases first
  decide

theorem stops_dropWhile (characters : List Char) :
    Stops (characters.dropWhile isNameChar) := by
  intro next first
  have kept := List.head?_dropWhile_not isNameChar characters
  rw [first] at kept
  simpa using kept

theorem IsName.exists_head (isName : IsName name) :
    ∃ head tail, name = head :: tail ∧ isNameChar head = true ∧ head ≠ '\x7b' := by
  obtain ⟨head, tail, rfl⟩ := List.exists_cons_of_ne_nil isName.filled
  have first := isName.nameChars head List.mem_cons_self
  refine ⟨head, tail, rfl, first, ?_⟩
  rintro rfl
  exact absurd first (by decide)

end Names

section References

variable {name taken behind rest : List Char} {piece : Piece}

theorem reference?_bare (isName : IsName name) (stops : Stops rest) :
    reference? (name ++ rest) = some (name, name, rest) := by
  obtain ⟨head, tail, rfl, _, notBrace⟩ := isName.exists_head
  have spans := spanName_append isName stops
  rw [List.cons_append] at spans ⊢
  unfold reference?
  split
  · rename_i inner same
    cases same
    exact absurd rfl notBrace
  · simp only [spans]

theorem reference?_braced (isName : IsName name) (rest : List Char) :
    reference? ('\x7b' :: (name ++ '\x7d' :: rest)) =
      some (name, '\x7b' :: (name ++ ['\x7d']), rest) := by
  obtain ⟨head, tail, rfl, _, _⟩ := isName.exists_head
  simp only [reference?, spanName_append isName (stops_brace rest)]

/-- A reference that is found behind a dollar sign is a piece. -/
theorem exists_piece_of_reference? (found : reference? behind = some (name, taken, rest)) :
    ∃ piece : Piece, piece.IsReference ∧ piece.Precedes rest ∧
      '$' :: behind = piece.written ++ rest := by
  have proper {characters first back : List Char} (spans : spanName characters = (first, back))
      (filled : first ≠ []) : IsName first ∧ characters = first ++ back ∧ Stops back := by
    cases spans
    refine ⟨⟨filled, fun _ => List.mem_takeWhile_imp⟩, ?_, stops_dropWhile characters⟩
    exact (List.takeWhile_append_dropWhile ..).symm
  unfold reference? at found
  split at found
  · split at found
    · cases found
    · rename_i filled spans
      cases found
      obtain ⟨isName, rfl, _⟩ := proper spans fun empty => filled empty
      exact ⟨.braced name, isName, isName, by simp [Piece.written]⟩
    · cases found
  · split at found
    · cases found
    · rename_i filled spans
      cases found
      obtain ⟨isName, rfl, stops⟩ := proper spans fun empty => filled empty
      exact ⟨.bare name, isName, ⟨isName, stops⟩, rfl⟩

theorem exists_dollar (isReference : piece.IsReference) :
    ∃ behind, piece.written = '$' :: behind := by
  cases piece with
  | bare name => exact ⟨name, rfl⟩
  | braced name => exact ⟨_, rfl⟩
  | single character => exact isReference.elim

/-- Behind a dollar sign a reference is found exactly where one begins. -/
theorem opens_iff : Opens ('$' :: behind) ↔ (reference? behind).isSome := by
  constructor
  · rintro ⟨piece, isReference, rest, whole⟩
    cases piece with
    | bare name =>
        -- the name may go on in what follows it
        obtain rfl : name ++ rest = behind := List.cons.inj whole |>.2
        have longest : IsName (name ++ rest.takeWhile isNameChar) := by
          refine ⟨by simp [isReference.filled], fun character member => ?_⟩
          rcases List.mem_append.mp member with inName | further
          · exact isReference.nameChars character inName
          · exact List.mem_takeWhile_imp further
        have found := reference?_bare longest (stops_dropWhile rest)
        rw [List.append_assoc, List.takeWhile_append_dropWhile] at found
        rw [found]
        rfl
    | braced name =>
        obtain rfl : '\x7b' :: (name ++ '\x7d' :: rest) = behind := by
          simpa [Piece.written] using whole
        rw [reference?_braced isReference]
        rfl
    | single character => exact isReference.elim
  · intro found
    obtain ⟨⟨name, taken, rest⟩, found⟩ := Option.isSome_iff_exists.mp found
    obtain ⟨piece, isReference, _, whole⟩ := exists_piece_of_reference? found
    exact ⟨piece, isReference, rest, whole.symm⟩

end References

section Pieces

variable {piece other : Piece} {rest back : List Char} {lookup : String → Option String}

theorem Piece.Precedes.cases (precedes : piece.Precedes rest) :
    piece.IsReference ∨ ∃ character, piece = .single character ∧ ¬ Opens (character :: rest) := by
  cases piece with
  | bare name => exact .inl precedes.1
  | braced name => exact .inl precedes
  | single character => exact .inr ⟨character, rfl, precedes⟩

theorem reference?_of_precedes (isReference : piece.IsReference) (precedes : piece.Precedes rest) :
    ∃ name taken, piece.written = '$' :: taken ∧ piece.name? = some (String.ofList name) ∧
      reference? (taken ++ rest) = some (name, taken, rest) := by
  cases piece with
  | bare name => exact ⟨name, name, rfl, rfl, reference?_bare precedes.1 precedes.2⟩
  | braced name =>
      refine ⟨name, _, rfl, rfl, ?_⟩
      rw [List.cons_append, List.append_assoc]
      exact reference?_braced precedes rest
  | single character => exact isReference.elim

theorem exists_precedes (character : Char) (behind : List Char) :
    ∃ piece : Piece, ∃ rest, piece.Precedes rest ∧
      character :: behind = piece.written ++ rest := by
  by_cases opens : Opens (character :: behind)
  · obtain ⟨reference, isReference, isPrefix⟩ := id opens
    obtain ⟨tail, dollar⟩ := exists_dollar isReference
    rw [dollar, List.cons_prefix_cons] at isPrefix
    obtain ⟨rfl, _⟩ := isPrefix
    obtain ⟨⟨name, taken, rest⟩, found⟩ := Option.isSome_iff_exists.mp (opens_iff.mp opens)
    obtain ⟨piece, _, precedes, whole⟩ := exists_piece_of_reference? found
    exact ⟨piece, rest, precedes, whole⟩
  · exact ⟨.single character, behind, opens, rfl⟩

theorem Piece.eq_of_written (isReference : piece.IsReference) (isOther : other.IsReference)
    (same : piece.written = other.written) : piece = other := by
  have apart {name behind : List Char} (isName : IsName name) : name ≠ '\x7b' :: behind := by
    obtain ⟨head, tail, rfl, _, notBrace⟩ := isName.exists_head
    exact fun same => notBrace (List.cons.inj same).1
  cases piece with
  | bare name =>
      cases other with
      | bare name => simpa [written] using same
      | braced name => exact absurd (List.cons.inj same).2 (apart isReference)
      | single character => exact isOther.elim
  | braced name =>
      cases other with
      | bare name => exact absurd (List.cons.inj same).2.symm (apart isOther)
      | braced name => simpa [written] using same
      | single character => exact isOther.elim
  | single character => exact isReference.elim

/-- Only one piece begins the same characters. -/
theorem Piece.Precedes.unique (first : piece.Precedes rest) (second : other.Precedes back)
    (same : piece.written ++ rest = other.written ++ back) : piece = other ∧ rest = back := by
  have opens {reference : Piece} {behind characters : List Char}
      (isReference : reference.IsReference) (whole : reference.written ++ behind = characters) :
      Opens characters := ⟨reference, isReference, behind, whole⟩
  rcases first.cases with isReference | ⟨character, rfl, closed⟩
  · rcases second.cases with isOther | ⟨character, rfl, closed⟩
    · obtain ⟨_, taken, written, _, found⟩ := reference?_of_precedes isReference first
      obtain ⟨_, takenToo, writtenToo, _, foundToo⟩ := reference?_of_precedes isOther second
      rw [written, writtenToo, List.cons_append, List.cons_append, List.cons.injEq] at same
      rw [same.2, foundToo] at found
      cases found
      exact ⟨eq_of_written isReference isOther (written.trans writtenToo.symm), rfl⟩
    · exact absurd (opens isReference same) closed
  · rcases second.cases with isOther | ⟨character, rfl, _⟩
    · exact absurd (opens isOther same.symm) closed
    · cases same
      exact ⟨rfl, rfl⟩

/-- Expanding takes one piece after another. -/
theorem expandChars_of_precedes (precedes : piece.Precedes rest) :
    expandChars lookup (piece.written ++ rest) =
      piece.replaced lookup ++ expandChars lookup rest := by
  rcases precedes.cases with isReference | ⟨character, rfl, closed⟩
  · obtain ⟨name, taken, written, isName, found⟩ := reference?_of_precedes isReference precedes
    rw [Piece.replaced, written, isName, Option.bind_some, List.cons_append, expandChars]
    split
    · rename_i isFound
      rw [found] at isFound
      cases isFound
      cases lookup (String.ofList name) <;> rfl
    · rename_i missing
      rw [found] at missing
      cases missing
  · by_cases dollar : character = '$'
    · subst dollar
      rw [opens_iff, Option.not_isSome_iff_eq_none] at closed
      change expandChars lookup ('$' :: rest) = '$' :: expandChars lookup rest
      rw [expandChars]
      split
      · rename_i found
        rw [closed] at found
        cases found
      · rfl
    · rw [Piece.written, List.singleton_append, expandChars]
      · rfl
      · exact dollar

theorem prefix_of_prefix_append {separator : Char} {beginning front behind : List Char}
    (without : separator ∉ beginning) (isPrefix : beginning <+: front ++ separator :: behind) :
    beginning <+: front := by
  have further : front ++ [separator] <+: front ++ separator :: behind := ⟨behind, by simp⟩
  rcases List.prefix_or_prefix_of_prefix isPrefix further with before | beyond
  · rcases List.prefix_concat_iff.mp before with rfl | inFront
    · exact absurd (by simp) without
    · exact inFront
  · exact absurd (beyond.subset (by simp)) without

/-- A character that no reference holds. -/
def IsApart (character : Char) : Prop :=
  isNameChar character = false ∧ character ∉ ['$', '\x7b', '\x7d']

theorem not_mem_written {separator : Char} (apart : IsApart separator)
    (isReference : piece.IsReference) : separator ∉ piece.written := by
  have outside {name : List Char} (isName : IsName name) : separator ∉ name := by
    intro member
    exact absurd (isName.nameChars separator member) (by simp [apart.1])
  have marks := apart.2
  simp only [List.mem_cons, List.not_mem_nil, or_false, not_or] at marks
  cases piece with
  | bare name => simp [Piece.written, marks, outside isReference]
  | braced name => simp [Piece.written, marks, outside isReference]
  | single character => exact isReference.elim

theorem not_opens_of_isApart {separator : Char} (apart : IsApart separator)
    (behind : List Char) : ¬ Opens (separator :: behind) := by
  rintro ⟨reference, isReference, isPrefix⟩
  have inFront : reference.written <+: [] :=
    prefix_of_prefix_append (not_mem_written apart isReference) isPrefix
  exact reference.written_ne_nil (List.prefix_nil.mp inFront)

/-- What stands behind a character that no reference holds does not matter for a piece in
front of it. -/
theorem Piece.Precedes.append {separator : Char} (apart : IsApart separator)
    (precedes : piece.Precedes rest) (behind : List Char) :
    piece.Precedes (rest ++ separator :: behind) := by
  cases piece with
  | bare name =>
      refine ⟨precedes.1, ?_⟩
      cases rest with
      | nil =>
          intro next first
          cases first
          exact apart.1
      | cons next rest => exact precedes.2
  | braced name => exact precedes
  | single character =>
      rintro ⟨reference, isReference, isPrefix⟩
      exact precedes ⟨reference, isReference,
        prefix_of_prefix_append (not_mem_written apart isReference) isPrefix⟩

end Pieces

section Texts

variable {characters : List Char} {pieces others : List Piece} {lookup : String → Option String}

theorem exists_cuts : (characters : List Char) → ∃ pieces, Cuts characters pieces
  | [] => ⟨[], .nil⟩
  | character :: behind => by
      obtain ⟨piece, rest, precedes, whole⟩ := exists_precedes character behind
      have shorter : rest.length < (character :: behind).length := by
        have filled := List.length_pos_iff.mpr piece.written_ne_nil
        rw [whole, List.length_append]
        omega
      obtain ⟨pieces, cuts⟩ := exists_cuts rest
      exact ⟨piece :: pieces, whole ▸ .cons piece precedes cuts⟩
termination_by characters => characters.length
decreasing_by exact shorter

namespace Cuts

theorem eq_nil (cuts : Cuts [] pieces) : pieces = [] := by
  generalize isEmpty : [] = characters at cuts
  cases cuts with
  | nil => rfl
  | cons piece _ _ =>
      exact absurd (List.append_eq_nil_iff.mp isEmpty.symm).1 piece.written_ne_nil

theorem of_precedes {piece : Piece} {rest : List Char} (precedes : piece.Precedes rest)
    (cuts : Cuts (piece.written ++ rest) pieces) :
    ∃ later, pieces = piece :: later ∧ Cuts rest later := by
  generalize whole : piece.written ++ rest = characters at cuts
  cases cuts with
  | nil => exact absurd (List.append_eq_nil_iff.mp whole).1 piece.written_ne_nil
  | cons _ first later =>
      obtain ⟨rfl, rfl⟩ := precedes.unique first whole
      exact ⟨_, rfl, later⟩

theorem unique (cuts : Cuts characters pieces) (again : Cuts characters others) :
    others = pieces := by
  induction cuts generalizing others with
  | nil => exact again.eq_nil
  | cons _ precedes _ induction =>
      obtain ⟨later, rfl, cutsLater⟩ := again.of_precedes precedes
      rw [induction cutsLater]

theorem flatMap_written (cuts : Cuts characters pieces) :
    pieces.flatMap Piece.written = characters := by
  induction cuts with
  | nil => rfl
  | cons _ _ _ induction => rw [List.flatMap_cons, induction]

theorem expandChars_eq (cuts : Cuts characters pieces) :
    expandChars lookup characters = pieces.flatMap (Piece.replaced lookup) := by
  induction cuts with
  | nil => rw [expandChars]; rfl
  | cons _ precedes _ induction =>
      rw [expandChars_of_precedes precedes, List.flatMap_cons, induction]

/-- A character that no reference holds is a piece between the pieces on both sides of it. -/
theorem append {separator : Char} {behind : List Char} (apart : IsApart separator)
    (cuts : Cuts characters pieces) (cutsBehind : Cuts behind others) :
    Cuts (characters ++ separator :: behind) (pieces ++ .single separator :: others) := by
  induction cuts with
  | nil => exact .cons (.single separator) (not_opens_of_isApart apart behind) cutsBehind
  | cons _ precedes _ induction =>
      rw [List.append_assoc]
      exact .cons _ (precedes.append apart behind) induction

end Cuts

theorem flatMap_replaced_of_unset
    (unset : ∀ piece ∈ pieces, ∀ name, piece.name? = some name → lookup name = none) :
    pieces.flatMap (Piece.replaced lookup) = pieces.flatMap Piece.written := by
  induction pieces with
  | nil => rfl
  | cons piece pieces induction =>
      have later := induction fun other member => unset other (List.mem_cons_of_mem _ member)
      have kept : piece.replaced lookup = piece.written := by
        unfold Piece.replaced
        cases isName : piece.name? with
        | none => rfl
        | some name => rw [Option.bind_some, unset piece List.mem_cons_self name isName]
      rw [List.flatMap_cons, List.flatMap_cons, kept, later]

theorem expandBy_append {separator : Char} (apart : IsApart separator) (text behind : String) :
    expandBy lookup (text ++ String.singleton separator ++ behind) =
      expandBy lookup text ++ String.singleton separator ++ expandBy lookup behind := by
  obtain ⟨pieces, cuts⟩ := exists_cuts text.toList
  obtain ⟨others, cutsBehind⟩ := exists_cuts behind.toList
  have whole := cuts.append apart cutsBehind
  have single : (Piece.single separator).replaced lookup = [separator] := rfl
  apply String.toList_injective
  simp only [expandBy, String.toList_append, String.toList_singleton, String.toList_ofList,
    List.append_assoc, List.singleton_append, whole.expandChars_eq, cuts.expandChars_eq,
    cutsBehind.expandChars_eq, List.flatMap_append, List.flatMap_cons, single]

end Texts

section Members

variable {environment : Environment} {piece : Piece} {pieces : List Piece} {name : String}

/-- Whether a piece refers to a member that every object has, where no variable has its name. -/
def Piece.IsInherited (environment : Environment) (piece : Piece) : Prop :=
  ∃ name, piece.name? = some name ∧ environment.get? name = none ∧ name ∈ Inherited.names

theorem exists_text?_of_mem (isMember : name ∈ Inherited.names) :
    ∃ text, Inherited.text? name = some text ∧ name.toList.length + 3 < text.toList.length := by
  revert name
  decide +kernel

theorem value?_of_not_mem (isOther : name ∉ Inherited.names) :
    environment.value? name = environment.get? name := by
  rw [value?, Inherited.text?, if_neg isOther, Option.or_none]

theorem Piece.replaced_of_not_isInherited (proper : ¬ piece.IsInherited environment) :
    piece.replaced environment.value? = piece.replaced environment.get? := by
  unfold Piece.replaced
  cases isName : piece.name? with
  | none => rfl
  | some name =>
      have same : environment.value? name = environment.get? name := by
        by_cases isMember : name ∈ Inherited.names
        · cases held : environment.get? name with
          | none => exact absurd ⟨name, isName, held, isMember⟩ proper
          | some value => rw [value?, held, Option.some_or]
        · exact value?_of_not_mem isMember
      rw [Option.bind_some, Option.bind_some, same]

theorem Piece.length_written_le (isName : piece.name? = some name) :
    piece.written.length ≤ name.toList.length + 3 := by
  cases piece with
  | bare _ =>
      cases isName
      simp [written]
  | braced _ =>
      cases isName
      simp [written]
  | single _ => cases isName

theorem Piece.length_replaced_lt (isInherited : piece.IsInherited environment) :
    (piece.replaced environment.get?).length < (piece.replaced environment.value?).length := by
  obtain ⟨name, isName, unset, isMember⟩ := isInherited
  obtain ⟨text, found, long⟩ := exists_text?_of_mem isMember
  have short := length_written_le isName
  simp only [replaced, isName, Option.bind_some, value?, unset, found, Option.none_or]
  omega

theorem length_flatMap_replaced_le (environment : Environment) (pieces : List Piece) :
    (pieces.flatMap (Piece.replaced environment.get?)).length ≤
      (pieces.flatMap (Piece.replaced environment.value?)).length := by
  induction pieces with
  | nil => exact Nat.le_refl _
  | cons piece pieces induction =>
      have here : (piece.replaced environment.get?).length ≤
          (piece.replaced environment.value?).length := by
        by_cases isInherited : piece.IsInherited environment
        · exact (Piece.length_replaced_lt isInherited).le
        · rw [Piece.replaced_of_not_isInherited isInherited]
      simp only [List.flatMap_cons, List.length_append]
      omega

/-- The set variables are all that counts exactly where no piece refers to a member that every
object has: each such reference makes the text longer. -/
theorem flatMap_replaced_value?_eq_iff :
    pieces.flatMap (Piece.replaced environment.value?) =
        pieces.flatMap (Piece.replaced environment.get?) ↔
      ∀ piece ∈ pieces, ¬ piece.IsInherited environment := by
  constructor
  · intro same piece member isInherited
    obtain ⟨before, behind, rfl⟩ := List.append_of_mem member
    have lengths := congrArg List.length same
    simp only [List.flatMap_append, List.flatMap_cons, List.length_append] at lengths
    have front := length_flatMap_replaced_le environment before
    have back := length_flatMap_replaced_le environment behind
    have longer := Piece.length_replaced_lt isInherited
    omega
  · intro proper
    rw [List.flatMap_def, List.flatMap_def, List.map_congr_left fun piece member =>
      Piece.replaced_of_not_isInherited (proper piece member)]

/-- Every text is cut into pieces in one way, and expanding it replaces the references among
them for which something is found; what replaces them is not read again.  It replaces just the
references to set variables, and keeps a text without any, exactly if no other reference is to
a member that every object has.  What stands on either side of a character that no reference
holds is expanded apart. -/
theorem expand_of_cuts (environment : Environment) (text : String) :
    ∃ pieces, Cuts text.toList pieces ∧ (∀ others, Cuts text.toList others → others = pieces) ∧
      environment.expand text =
        String.ofList (pieces.flatMap (Piece.replaced environment.value?)) ∧
      (environment.expand text =
          String.ofList (pieces.flatMap (Piece.replaced environment.get?)) ↔
        ∀ piece ∈ pieces, ¬ piece.IsInherited environment) ∧
      ((∀ piece ∈ pieces, ∀ name, piece.name? = some name → environment.get? name = none) →
        (environment.expand text = text ↔
          ∀ piece ∈ pieces, ¬ piece.IsInherited environment)) ∧
      ∀ (separator : Char) (behind : String), IsApart separator →
        environment.expand (text ++ String.singleton separator ++ behind) =
          environment.expand text ++ String.singleton separator ++ environment.expand behind := by
  obtain ⟨pieces, cuts⟩ := exists_cuts text.toList
  have expanded : environment.expand text =
      String.ofList (pieces.flatMap (Piece.replaced environment.value?)) := by
    rw [expand, expandBy, cuts.expandChars_eq]
  have proper_iff : environment.expand text =
        String.ofList (pieces.flatMap (Piece.replaced environment.get?)) ↔
      ∀ piece ∈ pieces, ¬ piece.IsInherited environment := by
    rw [expanded, String.ofList_inj, flatMap_replaced_value?_eq_iff]
  refine ⟨pieces, cuts, fun others => cuts.unique, expanded, proper_iff, ?_, ?_⟩
  · intro unset
    rw [← proper_iff, flatMap_replaced_of_unset unset, cuts.flatMap_written,
      String.ofList_toList]
  · exact fun separator behind apart => expandBy_append apart text behind

/-- Variables of which one has a value that looks like a reference to the other. -/
def homeVariables : Environment := ⟨[("HOME", "$dir"), ("dir", "/lib")]⟩

/-- A name that is longer than that of a variable, and a dollar sign without a name. -/
def unsetPieces : List Piece := [.bare ['H', 'O', 'M', 'E', '_'], .single '$']

theorem cuts_unsetPieces : Cuts "$HOME_$".toList unsetPieces := by
  have lone : ¬ Opens ['$'] := by
    rw [opens_iff]
    decide
  have stops : Stops ['$'] := by
    intro next first
    cases first
    decide
  have isName : IsName ['H', 'O', 'M', 'E', '_'] := ⟨by decide, List.all_eq_true.mp (by decide)⟩
  have spelled : "$HOME_$".toList = ['$', 'H', 'O', 'M', 'E', '_', '$'] := by decide
  rw [spelled]
  exact .cons (.bare ['H', 'O', 'M', 'E', '_']) ⟨isName, stops⟩ (.cons (.single '$') lone .nil)

theorem cuts_braced_home : Cuts "$\x7bHOME\x7d".toList [.braced ['H', 'O', 'M', 'E']] := by
  have isName : IsName ['H', 'O', 'M', 'E'] := ⟨by decide, List.all_eq_true.mp (by decide)⟩
  have spelled : "$\x7bHOME\x7d".toList = ['$', '\x7b', 'H', 'O', 'M', 'E', '\x7d'] := by decide
  rw [spelled]
  exact .cons (.braced ['H', 'O', 'M', 'E']) isName .nil

/-- Longer names and lone dollar signs stay, and a value is not expanded again. -/
theorem expand_of_cuts_home :
    IsApart ':' ∧
      (∀ piece ∈ unsetPieces, ∀ name, piece.name? = some name →
        homeVariables.get? name = none) ∧
      (∀ piece ∈ unsetPieces, ¬ piece.IsInherited homeVariables) ∧
      homeVariables.expand "$HOME_$" = "$HOME_$" ∧
      homeVariables.expand ("$HOME_$" ++ String.singleton ':' ++ "$\x7bHOME\x7d") =
        "$HOME_$:$dir" := by
  have isApart : IsApart ':' := ⟨by decide, by decide⟩
  have named : ∀ piece ∈ unsetPieces, ∀ name, piece.name? = some name → name = "HOME_" := by
    intro piece member name isName
    simp only [unsetPieces, List.mem_cons, List.not_mem_nil, or_false] at member
    rcases member with rfl | rfl
    · cases isName
      decide
    · cases isName
  have unset : ∀ piece ∈ unsetPieces, ∀ name, piece.name? = some name →
      homeVariables.get? name = none := by
    intro piece member name isName
    rw [named piece member name isName]
    decide
  have proper : ∀ piece ∈ unsetPieces, ¬ piece.IsInherited homeVariables := by
    rintro piece member ⟨name, isName, _, isMember⟩
    rw [named piece member name isName] at isMember
    exact absurd isMember (by decide)
  obtain ⟨_, _, only, _, _, kept, apart⟩ := expand_of_cuts homeVariables "$HOME_$"
  obtain ⟨_, _, onlyBehind, expandedBehind, _⟩ :=
    expand_of_cuts homeVariables "$\x7bHOME\x7d"
  cases only _ cuts_unsetPieces
  have unchanged := (kept unset).mpr proper
  refine ⟨isApart, unset, proper, unchanged, ?_⟩
  rw [apart ':' _ isApart, unchanged, expandedBehind, ← onlyBehind _ cuts_braced_home]
  decide +kernel

/-- A reference to a variable that is not set is replaced, as every object has a member of its
name. -/
theorem expand_unset_member :
    (∃ pieces, Cuts "$toString".toList pieces ∧
      ∀ piece ∈ pieces, ∀ name, piece.name? = some name →
        (OrderedMap.empty : Environment).get? name = none) ∧
      expand .empty "$toString" =
        "function toString() \x7b [native code] \x7d" := by
  have isName : IsName ['t', 'o', 'S', 't', 'r', 'i', 'n', 'g'] :=
    ⟨by decide, List.all_eq_true.mp (by decide)⟩
  have stops : Stops [] := fun _ first => absurd first (Option.not_mem_none _)
  have spelled : "$toString".toList = ['$', 't', 'o', 'S', 't', 'r', 'i', 'n', 'g'] := by decide
  have cuts : Cuts "$toString".toList [.bare ['t', 'o', 'S', 't', 'r', 'i', 'n', 'g']] := by
    rw [spelled]
    exact .cons (.bare ['t', 'o', 'S', 't', 'r', 'i', 'n', 'g']) ⟨isName, stops⟩ .nil
  refine ⟨⟨_, cuts, fun _ _ _ _ => rfl⟩, ?_⟩
  rw [expand, expandBy, cuts.expandChars_eq]
  decide +kernel

end Members

end ToolParams.Environment
