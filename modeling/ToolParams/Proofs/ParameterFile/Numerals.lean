import ToolParams.Proofs.ParameterFile.Declared
import ToolParams.Proofs.ParameterFile.Differing
import ToolParams.Proofs.ParameterFile.Integers

/-!
# Numbers that a comparison accepts

A comparison takes a text in a file for the number of a parameter when it is any numeral of
it.  A reader takes the same texts for a real parameter that holds a finite number, and comes to
the same number.  For an integer parameter it takes a sign and digits only, and for a real one
no infinity, and so it may refuse a file that was not objected to.
-/

namespace ToolParams

namespace Number

variable {left right : Number}

theorem rank_eq_of_eqv (equal : left.eqv right = true) :
    ∃ rank, left.rank = some rank ∧ right.rank = some rank := by
  unfold eqv at equal
  cases leftRank : left.rank with
  | none => simp [leftRank] at equal
  | some rank =>
      cases rightRank : right.rank with
      | none => simp [leftRank, rightRank] at equal
      | some other =>
          simp only [leftRank, rightRank, decide_eq_true_eq] at equal
          exact ⟨rank, rfl, congrArg some equal.symm⟩

theorem rank_finite_ne (negative other : Bool) (magnitude : Magnitude) :
    (finite negative magnitude).rank ≠ (infinity other).rank := by
  have below := magnitude.code_lt
  cases negative <;> cases other <;> simp only [rank, Bool.false_eq_true, if_false, if_true, Ne,
    Option.some.injEq] <;> omega

/-- Numbers that are equal as numbers differ at most in the sign of zero. -/
theorem settled_eq_of_eqv (equal : left.eqv right = true) : left.settled = right.settled := by
  obtain ⟨rank, leftRank, rightRank⟩ := rank_eq_of_eqv equal
  have sameRank := leftRank.trans rightRank.symm
  cases left with
  | nan => cases leftRank
  | infinity negative =>
      cases right with
      | nan => cases rightRank
      | infinity other => cases negative <;> cases other <;> first | rfl | cases sameRank
      | finite other magnitude => exact absurd sameRank.symm (rank_finite_ne _ _ _)
  | finite negative magnitude =>
      cases right with
      | nan => cases rightRank
      | infinity other => exact absurd sameRank (rank_finite_ne _ _ _)
      | finite other right =>
          obtain ⟨code, below⟩ := magnitude
          obtain ⟨otherCode, otherBelow⟩ := right
          simp only [Number.rank, Option.some.injEq] at sameRank
          by_cases zero : code = 0
          · have otherZero : otherCode = 0 := by
              cases negative <;> cases other <;>
                simp only [Bool.false_eq_true, if_false, if_true] at sameRank <;> omega
            rw [settled_of_zero zero, settled_of_zero otherZero]
          · have same : negative = other ∧ code = otherCode := by
              cases negative <;> cases other <;>
                simp only [Bool.false_eq_true, if_false, if_true] at sameRank <;>
                refine ⟨?_, ?_⟩ <;> first | rfl | omega
            obtain ⟨rfl, rfl⟩ := same
            rfl

theorem read_text_eq (number : Number) : read number.text = number.settled := by
  cases number with
  | nan => decide +kernel
  | infinity negative => cases negative <;> decide +kernel
  | finite negative magnitude => exact read_text rfl

/-- A sign, if any, and digits, with blanks around them. -/
def InDigits (text : String) : Prop :=
  ∃ negative value, SpellsWhole (Text.trim text).toList negative value

theorem inDigits_iff {text : String} :
    InDigits text ↔ (integer? (Text.trim text).toList).isSome = true := by
  rw [Option.isSome_iff_exists]
  constructor
  · rintro ⟨negative, value, spells⟩
    exact ⟨_, integer?_eq_some_iff.mpr ⟨negative, value, spells, rfl⟩⟩
  · rintro ⟨number, reads⟩
    obtain ⟨negative, value, spells, _⟩ := integer?_eq_some_iff.mp reads
    exact ⟨negative, value, spells⟩

instance (text : String) : Decidable (InDigits text) :=
  decidable_of_iff _ inDigits_iff.symm

/-- A text that stands for a number: its own text, or another numeral of it. -/
def DenotedBy (number : Number) (text : String) : Prop :=
  text = number.text ∨ Text.trim text ≠ "" ∧ (read text).eqv (read number.text) = true

namespace DenotedBy

variable {number : Number} {text : String}

theorem settled_read (denoted : number.DenotedBy text) : (read text).settled = number.settled := by
  rcases denoted with rfl | ⟨_, equal⟩
  · rw [read_text_eq, settled_settled]
  · rw [settled_eq_of_eqv equal, read_text_eq, settled_settled]

/-- The word for an unset value stands for no number, and neither does a blank text. -/
theorem trim_ne (denoted : number.DenotedBy text) :
    Text.trim text ≠ "INDEF" ∧ Text.trim text ≠ "" := by
  rcases denoted with rfl | ⟨filled, equal⟩
  · cases number with
    | nan => decide
    | infinity negative => cases negative <;> decide
    | finite negative magnitude =>
        have numeral := isNumeralChar_text (show (finite negative magnitude).isFinite = true from rfl)
        have trimmed : Text.trim (finite negative magnitude).text = (finite negative magnitude).text := by
          rw [← String.toList_inj, Text.toList_trim]
          exact Text.trimChars_of_nonblank fun _ member =>
            isBlank_of_isNumeralChar (numeral _ member)
        rw [trimmed]
        constructor
        · intro unset
          exact absurd (numeral 'I' (unset ▸ by decide)) (by decide)
        · intro blank
          exact text_ne_empty rfl (String.toList_eq_nil_iff.mpr blank)
  · refine ⟨fun unset => ?_, filled⟩
    have undefined : read text = .nan := by
      rw [← ParameterFile.read_trim, unset]
      decide +kernel
    rw [undefined] at equal
    cases equal

theorem toNumber?_real (denoted : number.DenotedBy text) :
    Coerce.toNumber? false (.ofText text) =
      if number.isFinite then some (.number (read text)) else none := by
  obtain ⟨set, filled⟩ := denoted.trim_ne
  rw [Ne, ← String.toList_inj, Text.toList_trim] at set
  rw [Ne, ParameterFile.trim_eq_empty_iff] at filled
  simp only [Coerce.toNumber?, Input.ofText, Coerce.textToNumber?, if_neg set, if_neg filled,
    Bool.false_eq_true, if_false, isFinite_eq_of_settled denoted.settled_read]

theorem toNumber?_integer (denoted : number.DenotedBy text) (inDigits : InDigits text) :
    ∃ value, Coerce.toNumber? true (.ofText text) = some (.number value) ∧
      number.settled = value.settled := by
  obtain ⟨negative, value, spells⟩ := inDigits
  have whole := integer?_eq_some_iff.mpr ⟨negative, value, spells, rfl⟩
  have isRead : read text = ofDecimal negative value 0 := by
    rw [read, ← Text.toList_trim, numeral?_of_integer? whole, Option.getD_some]
  refine ⟨_, Coerce.toNumber?_eq_some_iff.mpr (.digits spells), ?_⟩
  rw [← isRead, denoted.settled_read]

theorem toNumber?_of_not_inDigits (denoted : number.DenotedBy text) (otherwise : ¬InDigits text) :
    Coerce.toNumber? true (.ofText text) = none := by
  obtain ⟨set, filled⟩ := denoted.trim_ne
  cases reads : Coerce.toNumber? true (.ofText text) with
  | none => rfl
  | some value =>
      cases Coerce.toNumber?_eq_some_iff.mp reads with
      | word word => exact absurd word set
      | blank blank => exact absurd blank filled
      | digits spells => exact absurd ⟨_, _, spells⟩ otherwise

end DenotedBy

end Number

namespace ParameterFile

/-- An unlimited parameter of a numeric type with a number. -/
structure HoldsNumber (store : Store) (declaration : Declaration) (number : Number) : Prop where
  numeric : declaration.type.isNumeric = true
  free : declaration.constraint = none
  held : store.entry declaration.name = .literal (.number number)

/-- A reader takes the integers in digits, and of the real numbers those that are finite. -/
def Readable (declaration : Declaration) (number : Number) (text : String) : Prop :=
  if declaration.type = .integer then Number.InDigits text else number.isFinite = true

section Reading

variable {store other : Store} {declaration : Declaration} {number : Number} {text : String}

theorem isStill_text (number : Number) : IsStill number.text := by
  refine ⟨number.isWritten_text, ?_⟩
  cases number with
  | nan => decide
  | infinity negative => cases negative <;> decide
  | finite negative magnitude =>
      intro member
      have numeral := Number.isNumeralChar_text
        (show (Number.finite negative magnitude).isFinite = true from rfl) '$' member
      exact absurd numeral (by decide)

namespace HoldsNumber

theorem textOf (holds : HoldsNumber store declaration number) :
    textOf store declaration = number.text := by
  rw [ParameterFile.textOf, holds.held, valueText?_number holds.numeric, Option.getD_some]

theorem holdsStill (holds : HoldsNumber store declaration number) :
    HoldsStill store declaration :=
  ⟨_, holds.held, _, valueText?_number holds.numeric number, isStill_text number⟩

theorem denotedBy (holds : HoldsNumber store declaration number)
    (agrees : ¬Departs declaration.type (ParameterFile.textOf store declaration) (some text)) :
    number.DenotedBy text := by
  rw [holds.textOf, Departs, holds.numeric] at agrees
  by_cases same : text = number.text
  · exact .inl same
  · right
    simpa [same] using agrees

theorem type_cases (holds : HoldsNumber store declaration number) :
    declaration.type = .integer ∨ declaration.type = .real := by
  have numeric := holds.numeric
  cases type : declaration.type with
  | integer => exact .inl rfl
  | real => exact .inr rfl
  | boolean => simp [type, ParameterType.isNumeric] at numeric
  | string => simp [type, ParameterType.isNumeric] at numeric
  | filename => simp [type, ParameterType.isNumeric] at numeric
  | untyped word => simp [type, ParameterType.isNumeric] at numeric

variable (holds : HoldsNumber store declaration number)
  (found : store.schema.find? declaration.name = some declaration)
  (denoted : number.DenotedBy text) (plain : Redirect.isWritten text = false)
include holds found denoted plain

/-- A text for the number is assigned like the number, if a reader takes it. -/
theorem set_of_readable (readable : Readable declaration number text)
    (sameSchema : other.schema = store.schema) :
    ∃ value, number.settled = value.settled ∧
      other.set declaration.name (.ofText text) =
        .ok (other.put declaration.name (.literal (.number value)), .number value) := by
  have assigned := Store.set_of_find? (sameSchema ▸ found) (.ofText text)
  have isInput := Redirect.ofInput?_ofText plain
  rcases holds.type_cases with isInteger | isReal
  · rw [Readable, if_pos isInteger] at readable
    obtain ⟨value, taken, same⟩ := denoted.toNumber?_integer readable
    rw [Store.check_numeric true isInteger holds.free isInput, taken] at assigned
    exact ⟨value, same, assigned⟩
  · have notInteger : declaration.type ≠ .integer := by simp [isReal]
    rw [Readable, if_neg notInteger] at readable
    rw [Store.check_numeric false isReal holds.free isInput, denoted.toNumber?_real,
      if_pos readable] at assigned
    exact ⟨Number.read text, denoted.settled_read.symm, assigned⟩

theorem set_of_not_readable (otherwise : ¬Readable declaration number text)
    (sameSchema : other.schema = store.schema) :
    ∃ fault, other.set declaration.name (.ofText text) = .error (.value fault) ∧
      fault.faultClass = .type := by
  have assigned := Store.set_of_find? (sameSchema ▸ found) (.ofText text)
  have isInput := Redirect.ofInput?_ofText plain
  rcases holds.type_cases with isInteger | isReal
  · rw [Readable, if_pos isInteger] at otherwise
    rw [Store.check_numeric true isInteger holds.free isInput,
      denoted.toNumber?_of_not_inDigits otherwise] at assigned
    exact ⟨_, assigned, rfl⟩
  · have notInteger : declaration.type ≠ .integer := by simp [isReal]
    rw [Readable, if_neg notInteger] at otherwise
    rw [Store.check_numeric false isReal holds.free isInput, denoted.toNumber?_real,
      if_neg otherwise] at assigned
    exact ⟨_, assigned, rfl⟩

end HoldsNumber

/-- The text of a parameter is assigned in every store of the schema, and means the same as
what the store holds. -/
def Takes (store : Store) (actual : String → Option String) (declaration : Declaration) : Prop :=
  ∃ text, actual declaration.name = some text ∧
    ∀ other : Store, other.schema = store.schema → ∃ stored,
      other.set declaration.name (plainInput declaration text) =
        .ok (other.put declaration.name stored, stored.raw) ∧
      (store.entry declaration.name).Same stored

/-- The text of a parameter is refused for its type in every store of the schema. -/
def Refuses (store : Store) (actual : String → Option String) (declaration : Declaration) :
    Prop :=
  ∃ text, actual declaration.name = some text ∧
    ∀ other : Store, other.schema = store.schema → ∃ fault,
      other.set declaration.name (plainInput declaration text) = .error (.value fault) ∧
      fault.faultClass = .type

theorem Takes.not_refuses {actual : String → Option String} (takes : Takes store actual declaration) :
    ¬Refuses store actual declaration := by
  rintro ⟨text, named, refuses⟩
  obtain ⟨_, namedToo, takes⟩ := takes
  cases named.symm.trans namedToo
  obtain ⟨_, refused, _⟩ := refuses store rfl
  obtain ⟨_, taken, _⟩ := takes store rfl
  rw [refused] at taken
  cases taken

/-- Reading stops at the first text that is refused, and changes nothing numerically if there is
none. -/
theorem assignFrom_outcome {files : FileTree} {found : Contents} {middle : Store}
    {declarations : List Declaration} (same : store.Same middle)
    (each : ∀ declaration ∈ declarations,
      Takes store found.get? declaration ∨ Refuses store found.get? declaration) :
    (∃ final, assignFrom files .empty found declarations middle = .ok final ∧
        store.Same final ∧ ∀ declaration ∈ declarations, Takes store found.get? declaration) ∨
      ∃ fault, assignFrom files .empty found declarations middle =
          .error (.store (.value fault)) ∧
        fault.faultClass = .type ∧ ∃ declaration ∈ declarations,
          Refuses store found.get? declaration := by
  induction declarations generalizing middle with
  | nil => exact .inl ⟨middle, rfl, same, by simp⟩
  | cons declaration rest induction =>
      have later := fun other member => each other (List.mem_cons_of_mem _ member)
      rcases each declaration List.mem_cons_self with takes | refuses
      · obtain ⟨text, named, assigns⟩ := takes
        obtain ⟨stored, assigned, sameHere⟩ := assigns middle same.schema
        have sameNext : store.Same (middle.put declaration.name stored) := by
          refine ⟨same.schema, fun name => ?_⟩
          rw [Store.entry_put]
          split
          · rename_i isName
            exact isName ▸ sameHere
          · exact same.entry name
        unfold assignFrom
        simp only [named, inputFrom_empty, Outcome.ok_bind, assigned, Outcome.mapError_ok]
        rcases induction sameNext later with ⟨final, ended, sameFinal, takenRest⟩ |
          ⟨fault, ended, isType, other, member, refuses⟩
        · refine .inl ⟨final, ended, sameFinal, ?_⟩
          exact List.forall_mem_cons.mpr ⟨⟨text, named, assigns⟩, takenRest⟩
        · exact .inr ⟨fault, ended, isType, other, List.mem_cons_of_mem _ member, refuses⟩
      · obtain ⟨text, named, refused⟩ := refuses
        obtain ⟨fault, stops, isType⟩ := refused middle same.schema
        refine .inr ⟨fault, ?_, isType, declaration, List.mem_cons_self, text, named, refused⟩
        unfold assignFrom
        simp only [named, inputFrom_empty, Outcome.ok_bind, stops, Outcome.mapError_error]
        rfl

/-- Reading a file makes all of its assignments, or stops at one that is refused. -/
theorem perform_read_cases {path : String} {world : World} {listed : List (List String)}
    (found : world.files.read path = .ok text) (cut : rows text = .ok listed)
    (each : ∀ declaration ∈ store.declarations,
      Takes store (lastValue? listed) declaration ∨
        Refuses store (lastValue? listed) declaration) :
    ∃ noted, world.Noted noted ∧
      ((∃ final, (read path .empty).perform world store = (.ok (), noted, final) ∧
          store.Same final ∧
          ∀ declaration ∈ store.declarations, Takes store (lastValue? listed) declaration) ∨
        ∃ fault, (read path .empty).perform world store =
            (.error (.store (.value fault)), noted, store) ∧
          fault.faultClass = .type ∧ ∃ declaration ∈ store.declarations,
            Refuses store (lastValue? listed) declaration) := by
  have values : (listed.foldl addColumns .empty).get? = lastValue? listed :=
    funext (get?_foldl_empty listed)
  have outcome := @assignFrom_outcome store world.files _ store store.declarations
    ⟨rfl, fun _ => .refl _⟩ (values ▸ each)
  rw [values] at outcome
  obtain ⟨noted, quiet, performed⟩ := perform_read path .empty world store
  rw [readFrom, loadFrom_of_rows found cut, Outcome.ok_bind] at performed
  refine ⟨noted, quiet, ?_⟩
  rcases outcome with ⟨final, ended, same, takes⟩ | ⟨fault, ended, isType, refuses⟩
  · rw [ended] at performed
    exact .inl ⟨final, performed, same, takes⟩
  · rw [ended] at performed
    exact .inr ⟨fault, performed, isType, refuses⟩

/-- What becomes of a text that was not objected to is up to the declaration that its name
stands for. -/
theorem exists_reader {actual : String → Option String}
    (numbers : ∀ declaration ∈ store.declarations, ∃ number,
      HoldsNumber store declaration number)
    (named : ∀ declaration ∈ store.declarations, ∃ text,
      actual declaration.name = some text ∧ IsStill text)
    (agrees : ∀ declaration ∈ store.declarations,
      ¬Departs declaration.type (textOf store declaration) (actual declaration.name))
    (declared : declaration ∈ store.declarations) :
    ∃ reader ∈ store.declarations, store.schema.find? declaration.name = some reader ∧
      ∃ number text, store.entry reader.name = .literal (.number number) ∧
        actual reader.name = some text ∧
        (Readable reader number text → Takes store actual declaration) ∧
        (¬Readable reader number text → Refuses store actual declaration) := by
  obtain ⟨reader, found⟩ := Schema.exists_find? (List.mem_map_of_mem declared)
  obtain ⟨isDeclared, sameName⟩ := Store.mem_names_of_find? found
  obtain ⟨_, own⟩ := numbers declaration declared
  obtain ⟨number, holds⟩ := numbers reader isDeclared
  obtain ⟨text, isNamed, still⟩ := named reader isDeclared
  have agreesHere := agrees reader isDeclared
  rw [isNamed] at agreesHere
  have denoted := holds.denotedBy agreesHere
  have isInput : plainInput declaration text = .ofText text :=
    plainInput_of_other (isText_of_numeric own.numeric)
  have isNamedHere : actual declaration.name = some text := sameName ▸ isNamed
  refine ⟨reader, isDeclared, found, number, text, holds.held, isNamed, ?_, ?_⟩
  · intro readable
    refine ⟨text, isNamedHere, fun other sameSchema => ?_⟩
    obtain ⟨value, same, assigned⟩ :=
      holds.set_of_readable (sameName ▸ found) denoted still.1 readable sameSchema
    rw [isInput, ← sameName, holds.held]
    exact ⟨_, assigned, .literal (.number same)⟩
  · intro otherwise
    refine ⟨text, isNamedHere, fun other sameSchema => ?_⟩
    rw [isInput, ← sameName]
    exact holds.set_of_not_readable (sameName ▸ found) denoted still.1 otherwise sameSchema

theorem agrees_of_verified {σ : Type} {path : String} {world : World} {state : σ}
    {listed : List (List String)}
    (numbers : ∀ declaration ∈ store.declarations, ∃ number,
      HoldsNumber store declaration number)
    (found : world.files.read path = .ok text) (cut : rows text = .ok listed)
    (named : ∀ declaration ∈ store.declarations, ∃ text,
      lastValue? listed declaration.name = some text ∧ IsStill text)
    (unobjected : ((verify store path .empty).perform world state).1 = .ok []) :
    ∀ declaration ∈ store.declarations,
      ¬Departs declaration.type (textOf store declaration)
        (lastValue? listed declaration.name) := by
  have holds : ∀ declaration ∈ store.declarations, HoldsStill store declaration := by
    intro declaration declared
    obtain ⟨_, holds⟩ := numbers declaration declared
    exact holds.holdsStill
  have still : ∀ declaration ∈ store.declarations, ∀ text,
      lastValue? listed declaration.name = some text → IsStill text := by
    intro declaration declared text isText
    obtain ⟨_, isNamed, still⟩ := named declaration declared
    cases isText.symm.trans isNamed
    exact still
  obtain ⟨_, _, verified⟩ := perform_verify_of_still holds found cut still state
  rw [verified] at unobjected
  exact departures_eq_nil_iff.mp (Except.ok.inj unobjected)

/-- A file that names every parameter of a store of numbers, and is not objected to, is read
without changing a number, if it has the integers in digits and the real numbers are finite.  It
is refused, and the store stays as it was, if it has another numeral of an integer whose own
text is one of digits. -/
theorem read_of_verified {σ : Type} (store : Store) (path : String) (world : World)
    (text : String) (listed : List (List String)) (state : σ)
    (numbers : ∀ declaration ∈ store.declarations, ∃ number,
      HoldsNumber store declaration number)
    (found : world.files.read path = .ok text) (cut : rows text = .ok listed)
    (named : ∀ declaration ∈ store.declarations, ∃ text,
      lastValue? listed declaration.name = some text ∧ IsStill text)
    (unobjected : ((verify store path .empty).perform world state).1 = .ok []) :
    ((∀ declaration ∈ store.declarations, declaration.type = .integer → ∀ text,
        lastValue? listed declaration.name = some text → Number.InDigits text) →
      (∀ declaration ∈ store.declarations, declaration.type = .real → ∀ number,
        store.entry declaration.name = .literal (.number number) → number.isFinite = true) →
      ∃ noted final, world.Noted noted ∧
        (read path .empty).perform world store = (.ok (), noted, final) ∧
        store.Same final) ∧
    ((∃ declaration ∈ store.declarations,
        store.schema.find? declaration.name = some declaration ∧ declaration.type = .integer ∧
        Number.InDigits (textOf store declaration) ∧
        ∃ text, lastValue? listed declaration.name = some text ∧ ¬Number.InDigits text) →
      ∃ fault noted, world.Noted noted ∧
        (read path .empty).perform world store = (.error (.store (.value fault)), noted, store) ∧
        fault.faultClass = .type) := by
  have readers := fun declaration => @exists_reader store declaration (lastValue? listed) numbers
    named (agrees_of_verified numbers found cut named unobjected)
  have each : ∀ declaration ∈ store.declarations,
      Takes store (lastValue? listed) declaration ∨
        Refuses store (lastValue? listed) declaration := by
    intro declaration declared
    obtain ⟨reader, _, _, number, text, _, _, takes, refuses⟩ := readers declaration declared
    by_cases readable : Readable reader number text
    · exact .inl (takes readable)
    · exact .inr (refuses readable)
  obtain ⟨noted, quiet, outcome⟩ := perform_read_cases found cut each
  constructor
  · intro inDigits finite
    rcases outcome with ⟨final, performed, same, _⟩ | ⟨_, _, _, declaration, declared, refuses⟩
    · exact ⟨noted, final, quiet, performed, same⟩
    · obtain ⟨reader, isDeclared, _, number, text, held, isText, takes, _⟩ :=
        readers declaration declared
      obtain ⟨_, holds⟩ := numbers reader isDeclared
      have readable : Readable reader number text := by
        unfold Readable
        rcases holds.type_cases with isInteger | isReal
        · rw [if_pos isInteger]
          exact inDigits reader isDeclared isInteger text isText
        · rw [if_neg (by simp [isReal])]
          exact finite reader isDeclared isReal number held
      exact absurd refuses (takes readable).not_refuses
  · rintro ⟨declaration, declared, isReader, isInteger, _, text, isText, otherwise⟩
    rcases outcome with ⟨_, _, _, takes⟩ | ⟨fault, performed, isType, _⟩
    · obtain ⟨reader, _, isFound, number, _, _, isNamed, _, refuses⟩ :=
        readers declaration declared
      cases isReader.symm.trans isFound
      cases isText.symm.trans isNamed
      have notReadable : ¬Readable declaration number text := by
        rwa [Readable, if_pos isInteger]
      exact absurd (refuses notReadable) (takes declaration declared).not_refuses
    · exact ⟨fault, noted, quiet, performed, isType⟩

/-- A schema with an integer and a real number. -/
def scales (weight : Number) : Schema :=
  { name := "scales", kind := .parameterFile, executable := none, required := []
    optional := [
      { name := "count", type := .integer, help := "", default := .number (.ofNat 1),
        required := false, mode := "h", constraint := none },
      { name := "weight", type := .real, help := "", default := .number weight,
        required := false, mode := "h", constraint := none }] }

/-- The lines of a file with the given texts. -/
def scalesRows (count weight : String) : List (List String) :=
  [["count", "i", "h", count, "", "", ""], ["weight", "r", "h", weight, "", "", ""]]

def scalesText (count weight : String) : String :=
  "\n".intercalate ((scalesRows count weight).map Columns.join)

def scalesWorld (count weight : String) : World :=
  { World.empty with
    files := FileTree.empty.place ["scales.par"]
      (.file (scalesText count weight) FileTree.fileMode) }

theorem scales_numbers {weight : Number}
    (held : (Store.fresh (scales weight)).entry "weight" = .literal (.number weight)) :
    ∀ declaration ∈ (Store.fresh (scales weight)).declarations, ∃ number,
      HoldsNumber (Store.fresh (scales weight)) declaration number := by
  intro declaration declared
  rcases List.mem_cons.mp declared with rfl | later
  · exact ⟨.ofNat 1, rfl, rfl, rfl⟩
  · cases List.mem_singleton.mp later
    exact ⟨weight, rfl, rfl, held⟩

theorem scales_named {declared : Number} {count weight : String} (countStill : IsStill count)
    (weightStill : IsStill weight) :
    ∀ declaration ∈ (Store.fresh (scales declared)).declarations,
      ∃ text, lastValue? (scalesRows count weight) declaration.name = some text ∧
        IsStill text := by
  intro declaration member
  rcases List.mem_cons.mp member with rfl | later
  · exact ⟨count, rfl, countStill⟩
  · cases List.mem_singleton.mp later
    exact ⟨weight, rfl, weightStill⟩

/-- A sign and zeros in front of an integer, and the digits of a real number in base 16, are
read as the same numbers. -/
theorem read_of_verified_scales :
    ((verify (Store.fresh (scales (.ofNat 2))) "scales.par" .empty).perform
        (scalesWorld "+01" "0x2") ()).1 = .ok [] ∧
      ∃ noted final, (scalesWorld "+01" "0x2").Noted noted ∧
        (read "scales.par" .empty).perform (scalesWorld "+01" "0x2")
          (Store.fresh (scales (.ofNat 2))) = (.ok (), noted, final) ∧
        (Store.fresh (scales (.ofNat 2))).Same final := by
  have unobjected : ((verify (Store.fresh (scales (.ofNat 2))) "scales.par" .empty).perform
      (scalesWorld "+01" "0x2") ()).1 = .ok [] := by
    decide +kernel
  have found : (scalesWorld "+01" "0x2").files.read "scales.par" =
      .ok (scalesText "+01" "0x2") := by
    decide +kernel
  have cut : rows (scalesText "+01" "0x2") = .ok (scalesRows "+01" "0x2") := by
    decide +kernel
  have held : (Store.fresh (scales (.ofNat 2))).entry "weight" =
      .literal (.number (.ofNat 2)) := by
    decide +kernel
  have inDigits : ∀ declaration ∈ (Store.fresh (scales (.ofNat 2))).declarations,
      declaration.type = .integer → ∀ text,
        lastValue? (scalesRows "+01" "0x2") declaration.name = some text →
          Number.InDigits text := by
    intro declaration declared isInteger text isText
    rcases List.mem_cons.mp declared with rfl | later
    · cases isText
      decide +kernel
    · cases List.mem_singleton.mp later
      cases isInteger
  have finite : ∀ declaration ∈ (Store.fresh (scales (.ofNat 2))).declarations,
      declaration.type = .real → ∀ number,
        (Store.fresh (scales (.ofNat 2))).entry declaration.name = .literal (.number number) →
          number.isFinite = true := by
    intro declaration declared isReal number holds
    rcases List.mem_cons.mp declared with rfl | later
    · cases isReal
    · cases List.mem_singleton.mp later
      have isTwo := Scalar.number.inj (Stored.literal.inj (held.symm.trans holds))
      rw [← isTwo]
      decide +kernel
  exact ⟨unobjected, (read_of_verified (Store.fresh (scales (.ofNat 2))) "scales.par" _ _ _ ()
    (scales_numbers held) found cut (scales_named (by decide) (by decide)) unobjected).1
      inDigits finite⟩

/-- A file that names every parameter of a store of numbers, and is not objected to, but is
refused. -/
structure RefusedUnobjected (declared : Number) (count weight : String) : Prop where
  numbers : ∀ declaration ∈ (Store.fresh (scales declared)).declarations, ∃ number,
    HoldsNumber (Store.fresh (scales declared)) declaration number
  found : (scalesWorld count weight).files.read "scales.par" = .ok (scalesText count weight)
  cut : rows (scalesText count weight) = .ok (scalesRows count weight)
  named : ∀ declaration ∈ (Store.fresh (scales declared)).declarations, ∃ text,
    lastValue? (scalesRows count weight) declaration.name = some text ∧ IsStill text
  unobjected : ((verify (Store.fresh (scales declared)) "scales.par" .empty).perform
    (scalesWorld count weight) ()).1 = .ok []
  refused : ∃ fault, ((read "scales.par" .empty).perform (scalesWorld count weight)
      (Store.fresh (scales declared))).1 = .error (.store (.value fault)) ∧
    fault.faultClass = .type

/-- The file may have the integer `1` as `1.0`, or an infinity that is the default of a real
parameter. -/
theorem scales_not_read :
    RefusedUnobjected (.ofNat 2) "1.0" "2" ∧
      RefusedUnobjected (.infinity false) "1" "Infinity" := by
  constructor
  · exact {
      numbers := scales_numbers (by decide +kernel)
      found := by decide +kernel
      cut := by decide +kernel
      named := scales_named (by decide) (by decide)
      unobjected := by decide +kernel
      refused := ⟨.notOfType "scales" "count" "an integer" "1.0", by decide +kernel, rfl⟩ }
  · exact {
      numbers := scales_numbers (by decide +kernel)
      found := by decide +kernel
      cut := by decide +kernel
      named := scales_named (by decide) (by decide)
      unobjected := by decide +kernel
      refused := ⟨.notOfType "scales" "weight" "a number" "Infinity", by decide +kernel, rfl⟩ }

end Reading

end ParameterFile

end ToolParams
