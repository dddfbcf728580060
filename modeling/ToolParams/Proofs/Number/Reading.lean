import ToolParams.Number.Numeral
import ToolParams.Proofs.Number.Shortest
import ToolParams.Proofs.Text.Trimming

/-!
# Reading the text of a number

Every finite number is read back from its text, except that zero loses its sign.  The
text is a sign, digits with a point among them, and perhaps an exponent; whichever of
these forms it takes, its digits and the place of the point say the shortest decimal.
A whole number below `10 ^ 21` is written with digits alone.
-/

namespace ToolParams.Number

/-- A number without the sign of zero. -/
def settled : Number → Number
  | .finite negative magnitude =>
      if magnitude.code = 0 then zero false else .finite negative magnitude
  | other => other

/-- The characters in the texts of finite numbers. -/
def isNumeralChar (character : Char) : Bool :=
  character.isDigit || "+-.e".toList.contains character

section Digits

variable {digits rest : List Char}

theorem digitsValue_eq (digits : List Char) :
    digitsValue digits = Nat.ofDigitChars 10 digits 0 := by
  rw [digitsValue, ofDigits_eq, followedBy, List.foldl_map, Nat.ofDigitChars_eq_foldl]
  congr 1
  funext value digit
  rw [Nat.mul_comm]
  rfl

theorem isDigit_toDigits (value : Nat) : ∀ digit ∈ Nat.toDigits 10 value, digit.isDigit = true :=
  fun _ member => Nat.isDigit_of_mem_toDigits (by decide) (by decide) member

theorem digitsValue_toDigits (value : Nat) : digitsValue (Nat.toDigits 10 value) = value := by
  rw [digitsValue_eq, Nat.ofDigitChars_ten_toDigits]

theorem digitsValue_append_zeros (digits : List Char) (count : Nat) :
    digitsValue (digits ++ List.replicate count '0') = digitsValue digits * 10 ^ count := by
  rw [digitsValue_eq, digitsValue_eq, Nat.ofDigitChars_append, Nat.ofDigitChars_replicate_zero,
    Nat.mul_comm]

theorem digitsValue_zeros_append (count : Nat) (digits : List Char) :
    digitsValue (List.replicate count '0' ++ digits) = digitsValue digits := by
  rw [digitsValue_eq, digitsValue_eq, Nat.ofDigitChars_append, Nat.ofDigitChars_replicate_zero,
    Nat.mul_zero]

theorem spanDigits_append (all : ∀ digit ∈ digits, digit.isDigit = true)
    (ends : ∀ head, rest.head? = some head → head.isDigit = false) :
    spanDigits (digits ++ rest) = (digits, rest) := by
  have stops : rest.takeWhile Char.isDigit = [] ∧ rest.dropWhile Char.isDigit = rest := by
    cases rest with
    | nil => exact ⟨rfl, rfl⟩
    | cons head rest =>
        have other := ends head rfl
        simp [other]
  rw [spanDigits, List.takeWhile_append_of_pos all, List.dropWhile_append_of_pos all, stops.1,
    stops.2, List.append_nil]

theorem spanSign_of_digit {head : Char} (digit : head.isDigit = true) :
    spanSign (head :: rest) = (false, head :: rest) := by
  unfold spanSign
  split
  · rename_i isSign
    cases isSign
    cases digit
  · rename_i isSign
    cases isSign
    cases digit
  · rfl

theorem isDigits_eq_true (filled : digits ≠ [])
    (all : ∀ digit ∈ digits, digit.isDigit = true) : isDigits digits = true := by
  rw [isDigits, Bool.and_eq_true, Bool.not_eq_true', List.isEmpty_eq_false_iff,
    List.all_eq_true]
  exact ⟨filled, all⟩

theorem filled_of_isDigits (all : isDigits digits = true) :
    digits ≠ [] ∧ ∀ digit ∈ digits, digit.isDigit = true := by
  rw [isDigits, Bool.and_eq_true, Bool.not_eq_true', List.isEmpty_eq_false_iff,
    List.all_eq_true] at all
  exact all

theorem integer?_of_digits (filled : digits ≠ [])
    (all : ∀ digit ∈ digits, digit.isDigit = true) (negative : Bool) :
    integer? (if negative then '-' :: digits else digits) =
      some (ofDecimal negative (digitsValue digits) 0) := by
  have allDigits := isDigits_eq_true filled all
  unfold integer?
  cases negative with
  | true => simp only [if_true, spanSign, allDigits]
  | false =>
      cases digits with
      | nil => exact absurd rfl filled
      | cons head rest =>
          simp only [Bool.false_eq_true, if_false, spanSign_of_digit (all head List.mem_cons_self),
            allDigits, if_true]

end Digits

/-- Digits behind a point, which is left out without them. -/
def behindPoint : List Char → List Char
  | [] => []
  | fraction => '.' :: fraction

/-- What may stand behind the digits of a decimal, and the exponent that it says. -/
inductive Tail : List Char → Int → Prop where
  | none : Tail [] 0
  | exponent {negative : Bool} {digits : List Char} :
      digits ≠ [] → (∀ digit ∈ digits, digit.isDigit = true) →
      Tail ('e' :: (if negative then '-' else '+') :: digits)
        (if negative then -(digitsValue digits : Int) else digitsValue digits)

/-- Characters that say digits with an exponent. -/
inductive Spells : List Char → Nat → Int → Prop where
  | parts {whole fraction tail : List Char} {power : Int} :
      whole ≠ [] → (∀ digit ∈ whole ++ fraction, digit.isDigit = true) → Tail tail power →
      Spells (whole ++ (behindPoint fraction ++ tail)) (digitsValue (whole ++ fraction))
        (power - fraction.length)

namespace Tail

variable {tail : List Char} {power : Int}

theorem head (isTail : Tail tail power) {first : Char} (begins : tail.head? = some first) :
    first.isDigit = false ∧ first ≠ '.' := by
  cases isTail with
  | none => cases begins
  | exponent filled all =>
      cases begins
      decide

theorem exponent?_eq (isTail : Tail tail power) : exponent? tail = some power := by
  cases isTail with
  | none => rfl
  | @exponent negative digits filled all =>
      have allDigits := isDigits_eq_true filled all
      cases negative <;> simp [exponent?, spanSign, allDigits]

theorem isNumeralChar (isTail : Tail tail power) :
    ∀ character ∈ tail, isNumeralChar character = true := by
  cases isTail with
  | none => simp
  | @exponent negative digits filled all =>
      intro character member
      rcases List.mem_cons.mp member with rfl | later
      · decide
      · rcases List.mem_cons.mp later with rfl | digit
        · cases negative <;> decide
        · rw [Number.isNumeralChar, all character digit, Bool.true_or]

end Tail

namespace Spells

variable {characters : List Char} {digits : Nat} {exponent : Int}

theorem whole {characters : List Char} (filled : characters ≠ [])
    (all : ∀ digit ∈ characters, digit.isDigit = true) :
    Spells characters (digitsValue characters) 0 := by
  have spells := @Spells.parts characters [] [] 0 filled (by simpa using all) .none
  simpa [behindPoint] using spells

theorem pointed {whole fraction : List Char} (filled : whole ≠ []) (behind : fraction ≠ [])
    (all : ∀ digit ∈ whole ++ fraction, digit.isDigit = true) :
    Spells (whole ++ '.' :: fraction) (digitsValue (whole ++ fraction))
      (-(fraction.length : Int)) := by
  have spells := Spells.parts filled all .none
  cases fraction with
  | nil => exact absurd rfl behind
  | cons digit fraction => simpa [behindPoint] using spells

theorem spanFraction_behindPoint {fraction tail : List Char} {power : Int}
    (all : ∀ digit ∈ fraction, digit.isDigit = true) (isTail : Tail tail power) :
    spanFraction (behindPoint fraction ++ tail) = (fraction, tail) := by
  cases fraction with
  | cons digit fraction => exact spanDigits_append all fun head begins => (isTail.head begins).1
  | nil =>
      cases tail with
      | nil => rfl
      | cons head tail =>
          have noPoint : head ≠ '.' := (isTail.head rfl).2
          rw [behindPoint, List.nil_append, spanFraction]
          rintro rest ⟨⟩
          exact noPoint rfl

theorem decimal?_eq (spells : Spells characters digits exponent) (negative : Bool) :
    decimal? negative characters = some (ofDecimal negative digits exponent) := by
  cases spells with
  | @parts whole fraction tail power filled all isTail =>
      have allWhole : ∀ digit ∈ whole, digit.isDigit = true :=
        fun digit member => all digit (List.mem_append_left _ member)
      have allFraction : ∀ digit ∈ fraction, digit.isDigit = true :=
        fun digit member => all digit (List.mem_append_right _ member)
      have ends : ∀ head, (behindPoint fraction ++ tail).head? = some head →
          head.isDigit = false := by
        intro head begins
        cases fraction with
        | nil => exact (isTail.head begins).1
        | cons digit fraction =>
            cases begins
            decide
      have notEmpty : whole.isEmpty = false := List.isEmpty_eq_false_iff.mpr filled
      unfold decimal?
      simp only [spanDigits_append allWhole ends, spanFraction_behindPoint allFraction isTail,
        notEmpty, Bool.false_and, Bool.false_eq_true, if_false, isTail.exponent?_eq,
        Option.map_some]

theorem head_isDigit (spells : Spells characters digits exponent) :
    ∃ head rest, characters = head :: rest ∧ head.isDigit = true := by
  cases spells with
  | @parts whole fraction tail power filled all isTail =>
      cases whole with
      | nil => exact absurd rfl filled
      | cons head whole => exact ⟨head, _, rfl, all head (by simp)⟩

theorem isNumeralChar (spells : Spells characters digits exponent) :
    ∀ character ∈ characters, isNumeralChar character = true := by
  have ofDigit (character : Char) (digit : character.isDigit = true) :
      Number.isNumeralChar character = true := by
    rw [Number.isNumeralChar, digit, Bool.true_or]
  cases spells with
  | @parts whole fraction tail power filled all isTail =>
      intro character member
      rcases List.mem_append.mp member with inWhole | later
      · exact ofDigit character (all character (List.mem_append_left _ inWhole))
      · rcases List.mem_append.mp later with inPoint | inTail
        · cases fraction with
          | nil => cases inPoint
          | cons digit fraction =>
              rcases List.mem_cons.mp inPoint with rfl | inFraction
              · decide
              · exact ofDigit character (all character (List.mem_append_right _ inFraction))
        · exact isTail.isNumeralChar character inTail

theorem signed?_eq (spells : Spells characters digits exponent) (negative : Bool) :
    signed? (if negative then '-' :: characters else characters) =
      some (ofDecimal negative digits exponent) := by
  obtain ⟨head, rest, begins, digit⟩ := spells.head_isDigit
  have notWord : characters ≠ "Infinity".toList := by
    rintro rfl
    cases begins
    cases digit
  have noSign : spanSign characters = (false, characters) := begins ▸ spanSign_of_digit digit
  unfold signed?
  cases negative with
  | true => simp only [if_true, spanSign, notWord, if_false, spells.decimal?_eq]
  | false =>
      simp only [Bool.false_eq_true, noSign, notWord, if_false, spells.decimal?_eq]

end Spells

theorem base?_of_isNumeralChar {letter : Char} (plain : isNumeralChar letter = true) :
    base? letter = none := by
  unfold base?
  rw [if_neg, if_neg, if_neg]
  all_goals
    rintro (rfl | rfl) <;> cases plain

theorem isBlank_of_isNumeralChar {character : Char} (plain : isNumeralChar character = true) :
    Text.isBlank character = false := by
  rw [isNumeralChar, Bool.or_eq_true] at plain
  rcases plain with digit | mark
  · apply Text.isBlank_of_visible
    simp only [Char.isDigit, Bool.and_eq_true, decide_eq_true_eq, ge_iff_le,
      UInt32.le_iff_toNat_le] at digit
    have code : character.toNat = character.val.toNat := rfl
    rw [code]
    exact ⟨Nat.le_trans (by decide) digit.1, Nat.le_trans digit.2 (by decide)⟩
  · have among : character ∈ ['+', '-', '.', 'e'] := List.contains_iff_mem.mp mark
    simp only [List.mem_cons, List.not_mem_nil, or_false] at among
    rcases among with rfl | rfl | rfl | rfl <;> decide

theorem isNumeralChar_signed {characters : List Char}
    (plain : ∀ character ∈ characters, isNumeralChar character = true) (negative : Bool) :
    ∀ character ∈ (if negative then '-' :: characters else characters),
      isNumeralChar character = true := by
  intro character member
  cases negative with
  | false => exact plain character member
  | true =>
      rcases List.mem_cons.mp member with rfl | later
      · decide
      · exact plain character later

/-- A text that spells a decimal is read as it. -/
theorem read_of_spells {characters : List Char} {digits : Nat} {exponent : Int}
    (spells : Spells characters digits exponent) (negative : Bool) :
    read (String.ofList (if negative then '-' :: characters else characters)) =
      ofDecimal negative digits exponent := by
  have plain := isNumeralChar_signed spells.isNumeralChar negative
  have isSigned : numeral? (if negative then '-' :: characters else characters) =
      signed? (if negative then '-' :: characters else characters) := by
    obtain ⟨head, rest, begins, _⟩ := spells.head_isDigit
    have filled : (if negative then '-' :: characters else characters) ≠ [] := by
      cases negative <;> simp [begins]
    generalize (if negative then '-' :: characters else characters) = all at plain filled
    unfold numeral?
    split
    · exact absurd rfl filled
    · rename_i letter behind
      rw [base?_of_isNumeralChar (plain letter (by simp))]
    · rfl
  rw [read, String.toList_ofList, Text.trimChars_of_nonblank
    fun character member => isBlank_of_isNumeralChar (plain character member), isSigned,
    spells.signed?_eq, Option.getD_some]

theorem ofCode_of_finite {code : Nat} {magnitude : Magnitude}
    (reads : ofCode false code = .finite false magnitude) (negative : Bool) :
    ofCode negative code = .finite negative magnitude :=
  ofCode_eq_finite_iff.mpr ⟨rfl, (ofCode_eq_finite_iff.mp reads).2⟩

/-- A sign in front of a decimal is the sign of what it reads as. -/
theorem ofDecimal_of_finite {digits : Nat} {exponent : Int} {magnitude : Magnitude}
    (reads : ofDecimal false digits exponent = .finite false magnitude) (negative : Bool) :
    ofDecimal negative digits exponent = .finite negative magnitude := by
  unfold ofDecimal at reads ⊢
  split
  · rename_i none
    rw [if_pos none] at reads
    cases reads
    rfl
  · rename_i some
    rw [if_neg some] at reads
    split
    · rename_i large
      rw [if_pos large] at reads
      cases reads
    · rename_i notLarge
      rw [if_neg notLarge] at reads
      split
      · rename_i small
        rw [if_pos small] at reads
        cases reads
        rfl
      · rename_i notSmall
        rw [if_neg notSmall] at reads
        cases exponent with
        | ofNat power => exact ofCode_of_finite reads negative
        | negSucc power => exact ofCode_of_finite reads negative

theorem ofDecimal_mul_pow (negative : Bool) (digits : Nat) {places : Nat}
    (few : places ≤ 400) :
    ofDecimal negative (digits * 10 ^ places) 0 = ofDecimal negative digits places := by
  unfold ofDecimal
  by_cases none : digits = 0
  · rw [if_pos none, if_pos (by rw [none, Nat.zero_mul])]
  · have filled : digits * 10 ^ places ≠ 0 := by
      have positive : 0 < digits * 10 ^ places :=
        Nat.mul_pos (Nat.pos_of_ne_zero none) (Nat.pow_pos (by decide))
      omega
    rw [if_neg none, if_neg filled, if_neg (by omega), if_neg (by omega), if_neg (by omega),
      if_neg (by omega)]
    simp only [Nat.pow_eq, Nat.pow_zero, Nat.mul_one]

theorem ofDecimal_whole (negative : Bool) (value : Nat) :
    ofDecimal negative value 0 = ofCode negative (roundedCode value 1) := by
  unfold ofDecimal
  by_cases none : value = 0
  · have zeroCode : roundedCode 0 1 = 0 := by
      simp [roundedCode]
    rw [if_pos none, none, zeroCode]
    exact (ofCode_code negative .zero).symm
  · have small : ¬(400 : Int) < 0 := by decide
    have near : ¬(0 : Int) < -(value.log2 + 401 : Int) := by omega
    rw [if_neg none, if_neg small, if_neg near]
    change ofCode negative (roundedCode (value * Nat.pow 10 0) 1) = _
    rw [Nat.pow_eq, Nat.pow_zero, Nat.mul_one]

namespace Decimal

variable {decimal : Decimal}

def Said (text : List Char) (decimal : Decimal) : Prop :=
  ∃ digits exponent, Spells text digits exponent ∧
    ∀ negative, ofDecimal negative digits exponent =
      ofDecimal negative decimal.digits decimal.exponent

theorem text_of_whole (natural : 0 ≤ decimal.exponent)
    (short : ((Nat.toDigits 10 decimal.digits).length : Int) + decimal.exponent ≤ 21) :
    decimal.text =
      Nat.toDigits 10 decimal.digits ++ List.replicate decimal.exponent.toNat '0' := by
  have inLayout : layout.fewestPlaces ≤
        ((Nat.toDigits 10 decimal.digits).length : Int) + decimal.exponent ∧
      ((Nat.toDigits 10 decimal.digits).length : Int) + decimal.exponent ≤ layout.mostPlaces := by
    simp only [layout]
    omega
  unfold Decimal.text
  rw [if_pos inLayout, if_pos natural]

theorem isDigit_whole (digits count : Nat) :
    ∀ digit ∈ Nat.toDigits 10 digits ++ List.replicate count '0', digit.isDigit = true := by
  intro digit member
  rcases List.mem_append.mp member with inDigits | zero
  · exact isDigit_toDigits _ digit inDigits
  · rw [List.eq_of_mem_replicate zero]
    rfl

theorem said_whole (natural : 0 ≤ decimal.exponent) (small : decimal.exponent ≤ 400) :
    Said (Nat.toDigits 10 decimal.digits ++ List.replicate decimal.exponent.toNat '0')
      decimal := by
  have spells := Spells.whole
    (List.append_ne_nil_of_left_ne_nil (Nat.toDigits_ne_nil (b := 10)) _)
    (isDigit_whole decimal.digits decimal.exponent.toNat)
  refine ⟨_, _, spells, fun negative => ?_⟩
  have count : (decimal.exponent.toNat : Int) = decimal.exponent := by omega
  rw [digitsValue_append_zeros, digitsValue_toDigits, ofDecimal_mul_pow _ _ (by omega), count]

/-- The point stands among the digits. -/
theorem said_among {places : Nat} (filled : 0 < places)
    (isPlaces : ((Nat.toDigits 10 decimal.digits).length : Int) + decimal.exponent = places)
    (fraction : decimal.exponent < 0) :
    Said ((Nat.toDigits 10 decimal.digits).take places ++
      '.' :: (Nat.toDigits 10 decimal.digits).drop places) decimal := by
  have some : 0 < (Nat.toDigits 10 decimal.digits).length := Nat.length_toDigits_pos
  have front : (Nat.toDigits 10 decimal.digits).take places ≠ [] := by
    apply List.ne_nil_of_length_pos
    rw [List.length_take]
    omega
  have behind : (Nat.toDigits 10 decimal.digits).drop places ≠ [] := by
    apply List.ne_nil_of_length_pos
    rw [List.length_drop]
    omega
  have spells := Spells.pointed front behind (by
    rw [List.take_append_drop]
    exact isDigit_toDigits _)
  refine ⟨_, _, spells, fun negative => ?_⟩
  rw [List.take_append_drop, digitsValue_toDigits, List.length_drop]
  congr 1
  omega

/-- Zeros stand between the point and the digits. -/
theorem said_behind {zeros : Nat}
    (isZeros : ((Nat.toDigits 10 decimal.digits).length : Int) + decimal.exponent = -zeros) :
    Said ('0' :: '.' :: (List.replicate zeros '0' ++ Nat.toDigits 10 decimal.digits))
      decimal := by
  have spells := Spells.pointed (List.cons_ne_nil '0' [])
    (List.append_ne_nil_of_right_ne_nil (List.replicate zeros '0')
      (Nat.toDigits_ne_nil (b := 10) (n := decimal.digits))) (by
    intro digit member
    rcases List.mem_append.mp member with first | later
    · rw [List.mem_singleton.mp first]
      rfl
    · rcases List.mem_append.mp later with zero | inDigits
      · rw [List.eq_of_mem_replicate zero]
        rfl
      · exact isDigit_toDigits _ digit inDigits)
  refine ⟨_, _, spells, fun negative => ?_⟩
  rw [← List.append_assoc, List.singleton_append, ← List.replicate_succ,
    digitsValue_zeros_append, digitsValue_toDigits, List.length_append, List.length_replicate]
  congr 1
  omega

/-- The point stands behind the first digit, and an exponent makes up for it. -/
theorem said_scientific {mantissa : List Char} {power : Int}
    (isMantissa : ∃ first rest, Nat.toDigits 10 decimal.digits = first :: rest ∧
      mantissa = first :: behindPoint rest)
    (isPower : power = ((Nat.toDigits 10 decimal.digits).length : Int) + decimal.exponent - 1) :
    Said (mantissa ++ 'e' :: (if power < 0 then '-' else '+') :: Nat.toDigits 10 power.natAbs)
      decimal := by
  obtain ⟨first, rest, split, rfl⟩ := isMantissa
  have isTail : Tail ('e' :: (if power < 0 then '-' else '+') :: Nat.toDigits 10 power.natAbs)
      power := by
    by_cases below : power < 0
    · have size : -(power.natAbs : Int) = power := by omega
      have tail := @Tail.exponent true _ Nat.toDigits_ne_nil (isDigit_toDigits power.natAbs)
      simpa only [below, if_true, digitsValue_toDigits, size] using tail
    · have size : (power.natAbs : Int) = power := by omega
      have tail := @Tail.exponent false _ Nat.toDigits_ne_nil (isDigit_toDigits power.natAbs)
      simpa only [below, if_false, Bool.false_eq_true, digitsValue_toDigits, size] using tail
  have joined : [first] ++ rest = Nat.toDigits 10 decimal.digits := split.symm
  have spells := @Spells.parts [first] rest _ _ (List.cons_ne_nil _ _)
    (by rw [joined]; exact isDigit_toDigits _) isTail
  have length : (Nat.toDigits 10 decimal.digits).length = rest.length + 1 := by
    rw [split, List.length_cons]
  refine ⟨_, _, by simpa using spells, fun negative => ?_⟩
  rw [← List.singleton_append, joined, digitsValue_toDigits]
  congr 1
  omega

/-- The text of a decimal says it. -/
theorem said_text (decimal : Decimal) : Said decimal.text decimal := by
  have some : 0 < (Nat.toDigits 10 decimal.digits).length := Nat.length_toDigits_pos
  unfold Decimal.text
  simp only
  split
  · rename_i inLayout
    simp only [layout] at inLayout
    split
    · exact said_whole (by assumption) (by omega)
    · split
      · exact said_among (by omega) (by omega) (by omega)
      · exact said_behind (by omega)
  · refine said_scientific ?_ rfl
    cases split : Nat.toDigits 10 decimal.digits with
    | nil => simp [split] at some
    | cons first rest =>
        refine ⟨first, rest, rfl, ?_⟩
        cases rest <;> rfl

end Decimal

section Text

variable {negative : Bool} {magnitude : Magnitude}

theorem text_of_zero (zero : magnitude.code = 0) :
    text (.finite negative magnitude) = "0" := by
  simp only [text, zero, if_true]

theorem text_of_nonzero (nonzero : magnitude.code ≠ 0) :
    text (.finite negative magnitude) =
      String.ofList (if negative then '-' :: (shortest magnitude).text
        else (shortest magnitude).text) := by
  simp only [text, nonzero, if_false]

theorem settled_of_zero (zero : magnitude.code = 0) :
    settled (.finite negative magnitude) = Number.zero false := by
  simp only [settled, zero, if_true]

theorem settled_of_nonzero (nonzero : magnitude.code ≠ 0) :
    settled (.finite negative magnitude) = .finite negative magnitude := by
  simp only [settled, nonzero, if_false]

theorem ofDecimal_shortest (negative : Bool) (nonzero : magnitude.code ≠ 0) :
    ofDecimal negative (shortest magnitude).digits (shortest magnitude).exponent =
      .finite negative magnitude := by
  have reads := readsAs_shortest nonzero
  rw [Decimal.readsAs, decide_eq_true_iff] at reads
  exact ofDecimal_of_finite reads negative

theorem digits_shortest_pos (nonzero : magnitude.code ≠ 0) :
    0 < (shortest magnitude).digits := by
  apply Nat.pos_of_ne_zero
  intro none
  have reads := ofDecimal_shortest false nonzero
  unfold ofDecimal at reads
  rw [if_pos none] at reads
  cases reads
  exact nonzero rfl

theorem digitsValue_zero : digitsValue ['0'] = 0 := by
  rw [digitsValue_eq]
  rfl

theorem spells_zero : Spells ['0'] 0 0 :=
  digitsValue_zero ▸ Spells.whole (List.cons_ne_nil '0' []) (List.forall_mem_singleton.mpr rfl)

end Text

theorem read_text {number : Number} (finite : number.isFinite = true) :
    read number.text = number.settled := by
  cases number with
  | nan => cases finite
  | infinity negative => cases finite
  | finite negative magnitude =>
      by_cases zero : magnitude.code = 0
      · rw [text_of_zero zero, settled_of_zero zero]
        exact read_of_spells spells_zero false
      · obtain ⟨digits, exponent, spells, same⟩ := Decimal.said_text (shortest magnitude)
        rw [text_of_nonzero zero, settled_of_nonzero zero, read_of_spells spells, same,
          ofDecimal_shortest negative zero]

def IsShort (number : Number) : Prop :=
  ∃ negative magnitude, number = .finite negative magnitude ∧
    magnitude.units < 10 ^ 21 * Magnitude.unitsPerOne

instance : (number : Number) → Decidable number.IsShort
  | .nan => .isFalse nofun
  | .infinity _ => .isFalse nofun
  | .finite negative magnitude =>
      decidable_of_iff (magnitude.units < 10 ^ 21 * Magnitude.unitsPerOne)
        ⟨fun below => ⟨negative, magnitude, rfl, below⟩, fun ⟨_, _, same, below⟩ => by
          cases same
          exact below⟩

/-- A whole number below `10 ^ 21` is read back from its digits. -/
theorem integer?_text {number : Number} (whole : number.isInteger = true)
    (short : number.IsShort) : integer? number.text.toList = some number.settled := by
  obtain ⟨negative, magnitude, rfl, below⟩ := short
  by_cases zero : magnitude.code = 0
  · rw [text_of_zero zero, settled_of_zero zero]
    have reads := integer?_of_digits (List.cons_ne_nil '0' [])
      (List.forall_mem_singleton.mpr rfl) false
    rw [digitsValue_zero] at reads
    exact reads
  · have rest : magnitude.units % Magnitude.unitsPerOne = 0 := by
      simpa [isInteger] using whole
    have isWhole := (Nat.div_mul_cancel (Nat.dvd_of_mod_eq_zero rest)).symm
    have positive : 0 < magnitude.units / Magnitude.unitsPerOne :=
      Nat.pos_of_mul_pos_right (isWhole ▸ magnitude.units_pos zero)
    have small : magnitude.units / Magnitude.unitsPerOne < 10 ^ 21 :=
      (Nat.div_lt_iff_lt_mul Magnitude.unitsPerOne_pos).mpr below
    obtain ⟨natural, bound⟩ := shortest_of_whole positive small isWhole
    have filled : 0 < (shortest magnitude).digits := digits_shortest_pos zero
    have length : (Nat.toDigits 10 (shortest magnitude).digits).length +
        (shortest magnitude).exponent.toNat ≤ 21 := by
      rw [← length_toDigits_mul_pow filled,
        Nat.length_toDigits_le_iff (by decide) (by decide)]
      exact bound
    have count : ((shortest magnitude).exponent.toNat : Int) =
        (shortest magnitude).exponent := by omega
    rw [text_of_nonzero zero, settled_of_nonzero zero, String.toList_ofList,
      Decimal.text_of_whole natural (by omega),
      integer?_of_digits (List.append_ne_nil_of_left_ne_nil Nat.toDigits_ne_nil _)
        (Decimal.isDigit_whole _ _),
      digitsValue_append_zeros, digitsValue_toDigits, ofDecimal_mul_pow _ _ (by omega), count,
      ofDecimal_shortest negative zero]

theorem isInteger_iff {negative : Bool} {magnitude : Magnitude} :
    isInteger (.finite negative magnitude) = true ↔
      Magnitude.unitsPerOne ∣ magnitude.units := by
  rw [isInteger, beq_iff_eq, Nat.dvd_iff_mod_eq_zero]

theorem isInteger_zero (negative : Bool) : (zero negative).isInteger = true := by
  have none : Magnitude.zero.units = 0 := Nat.zero_mul _
  rw [zero, isInteger_iff, none]
  exact Nat.dvd_zero _

theorem isFinite_of_isInteger {number : Number} (whole : number.isInteger = true) :
    number.isFinite = true := by
  cases number with
  | finite => rfl
  | nan => cases whole
  | infinity => cases whole

/-- What digits alone are read as is whole, unless it is too large for a number. -/
theorem isInteger_of_integer? {characters : List Char} {number : Number}
    (reads : integer? characters = some number) (finite : number.isFinite = true) :
    number.isInteger = true := by
  unfold integer? at reads
  generalize spanSign characters = parts at reads
  simp only at reads
  split at reads
  · cases reads
    generalize digitsValue parts.2 = value at *
    by_cases none : value = 0
    · have isZero : ofDecimal parts.1 value 0 = zero parts.1 := if_pos none
      rw [isZero]
      exact isInteger_zero _
    · rw [ofDecimal_whole, ofCode] at finite ⊢
      split at finite
      · rename_i inRange
        rw [dif_pos inRange, isInteger_iff]
        exact dvd_units_of_rounded (Nat.pos_of_ne_zero none) rfl
      · cases finite
  · cases reads

theorem isNumeralChar_text {number : Number} (finite : number.isFinite = true) :
    ∀ character ∈ number.text.toList, isNumeralChar character = true := by
  cases number with
  | nan => cases finite
  | infinity negative => cases finite
  | finite negative magnitude =>
      by_cases zero : magnitude.code = 0
      · rw [text_of_zero zero]
        exact List.forall_mem_singleton.mpr rfl
      · obtain ⟨digits, exponent, spells, _⟩ := Decimal.said_text (shortest magnitude)
        rw [text_of_nonzero zero, String.toList_ofList]
        exact isNumeralChar_signed spells.isNumeralChar negative

theorem text_ne_empty {number : Number} (finite : number.isFinite = true) :
    number.text.toList ≠ [] := by
  cases number with
  | nan => cases finite
  | infinity negative => cases finite
  | finite negative magnitude =>
      by_cases zero : magnitude.code = 0
      · rw [text_of_zero zero]
        decide
      · obtain ⟨digits, exponent, spells, _⟩ := Decimal.said_text (shortest magnitude)
        obtain ⟨head, rest, begins, _⟩ := spells.head_isDigit
        rw [text_of_nonzero zero, String.toList_ofList, begins]
        cases negative with
        | false => exact List.cons_ne_nil _ _
        | true => exact List.cons_ne_nil _ _

end ToolParams.Number
