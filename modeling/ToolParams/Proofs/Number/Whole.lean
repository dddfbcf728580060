import ToolParams.Proofs.Number.Ordering
import ToolParams.Proofs.Number.Reading

/-!
# Whole numbers in digits

What is read as a whole number is an optional sign with digits behind it; it is rounded to
infinity from a threshold on.  A number of `10 ^ 21` or more is written with an exponent, and
so its text is not read as a whole number.
-/

namespace ToolParams.Number

/-- Characters that spell a whole number: an optional sign, and digits. -/
inductive SpellsWhole : List Char → Bool → Nat → Prop where
  | unsigned {digits : List Char} :
      digits ≠ [] → (∀ digit ∈ digits, digit.isDigit = true) →
      SpellsWhole digits false (digitsValue digits)
  | signed {digits : List Char} (negative : Bool) :
      digits ≠ [] → (∀ digit ∈ digits, digit.isDigit = true) →
      SpellsWhole ((if negative then '-' else '+') :: digits) negative (digitsValue digits)

theorem spanSign_cases (characters : List Char) :
    (∃ negative rest, characters = (if negative then '-' else '+') :: rest ∧
      spanSign characters = (negative, rest)) ∨ spanSign characters = (false, characters) := by
  unfold spanSign
  split
  · exact .inl ⟨true, _, rfl, rfl⟩
  · exact .inl ⟨false, _, rfl, rfl⟩
  · exact .inr rfl

theorem spanSign_sign (negative : Bool) (rest : List Char) :
    spanSign ((if negative then '-' else '+') :: rest) = (negative, rest) := by
  cases negative <;> rfl

theorem integer?_eq_some_iff {characters : List Char} {number : Number} :
    integer? characters = some number ↔
      ∃ negative value, SpellsWhole characters negative value ∧
        number = ofDecimal negative value 0 := by
  constructor
  · intro reads
    unfold integer? at reads
    rcases spanSign_cases characters with ⟨negative, digits, rfl, parts⟩ | parts
    · simp only [parts] at reads
      split at reads
      · rename_i allDigits
        cases reads
        obtain ⟨filled, all⟩ := filled_of_isDigits allDigits
        exact ⟨_, _, .signed negative filled all, rfl⟩
      · cases reads
    · simp only [parts] at reads
      split at reads
      · rename_i allDigits
        cases reads
        obtain ⟨filled, all⟩ := filled_of_isDigits allDigits
        exact ⟨_, _, .unsigned filled all, rfl⟩
      · cases reads
  · rintro ⟨_, _, spells, rfl⟩
    cases spells with
    | unsigned filled all => exact integer?_of_digits filled all false
    | signed negative filled all =>
        simp only [integer?, spanSign_sign, isDigits_eq_true filled all, if_true]

namespace SpellsWhole

variable {characters : List Char} {negative : Bool} {value : Nat}
  (spells : SpellsWhole characters negative value)

include spells

theorem mem : ∀ character ∈ characters,
    character.isDigit = true ∨ character = '-' ∨ character = '+' := by
  intro character member
  cases spells with
  | unsigned _ all => exact .inl (all character member)
  | signed negative _ all =>
      rcases List.mem_cons.mp member with sign | digit
      · cases negative with
        | true => exact .inr (.inl sign)
        | false => exact .inr (.inr sign)
      · exact .inl (all character digit)

theorem ne_nil : characters ≠ [] := by
  cases spells with
  | unsigned filled => exact filled
  | signed => exact List.cons_ne_nil _ _

theorem not_mem_letter {letter : Char} (other : letter.isDigit = false)
    (unsigned : letter ≠ '-' ∧ letter ≠ '+') : letter ∉ characters := by
  intro member
  rcases spells.mem letter member with digit | minus | plus
  · rw [other] at digit
    cases digit
  · exact unsigned.1 minus
  · exact unsigned.2 plus

theorem ne_word : characters ≠ "INDEF".toList := by
  rintro rfl
  exact spells.not_mem_letter (by decide) (by decide) (show 'I' ∈ "INDEF".toList by decide)

end SpellsWhole

theorem integer?_of_letter {characters : List Char} {letter : Char} (member : letter ∈ characters)
    (other : letter.isDigit = false) (unsigned : letter ≠ '-' ∧ letter ≠ '+') :
    integer? characters = none := by
  cases reads : integer? characters with
  | none => rfl
  | some number =>
      obtain ⟨_, _, spells, _⟩ := integer?_eq_some_iff.mp reads
      exact absurd member (spells.not_mem_letter other unsigned)

section Overflow

variable {negative other : Bool} {value : Nat}

theorem isFinite_ofDecimal_iff :
    (ofDecimal negative value 0).isFinite = true ↔ value < overflow := by
  rw [ofDecimal_whole, ← roundedCode_lt_limit_iff, ofCode]
  split
  · rename_i inRange
    exact iff_of_true rfl inRange
  · rename_i beyond
    exact iff_of_false Bool.false_ne_true beyond

theorem ofDecimal_eq_infinity_iff :
    ofDecimal negative value 0 = .infinity other ↔ negative = other ∧ overflow ≤ value := by
  rw [ofDecimal_whole, ← Nat.not_lt, ← roundedCode_lt_limit_iff, ofCode]
  split
  · rename_i inRange
    exact iff_of_false (by rintro ⟨⟩) fun both => both.2 inRange
  · rename_i beyond
    rw [infinity.injEq]
    exact ⟨fun same => ⟨same, beyond⟩, And.left⟩

end Overflow

section Large

variable {magnitude : Magnitude} {decimal : Decimal}

/-- How many places of a decimal stand before its point. -/
def Decimal.places (decimal : Decimal) : Int :=
  (Nat.toDigits 10 decimal.digits).length + decimal.exponent

/-- The number `10 ^ 21` bounds what decimals with at most 21 places are read as. -/
theorem code_le_large (short : decimal.places ≤ layout.mostPlaces)
    (reads : ofDecimal false decimal.digits decimal.exponent = .finite false magnitude) :
    magnitude.code ≤ large.code := by
  obtain ⟨digits, exponent⟩ := decimal
  have below := lt_pow_length digits
  have largest : roundedCode (10 ^ 21) 1 = large.code := by
    refine roundedCode_of_exact (by decide) Nat.one_pos ?_
    rw [units_large, Nat.mul_one]
  have bound {numerator denominator : Nat} (positive : 0 < denominator)
      (ordered : numerator ≤ 10 ^ 21 * denominator)
      (rounded : ofRatio false numerator denominator = .finite false magnitude) :
      magnitude.code ≤ large.code := by
    rw [← (ofCode_eq_finite_iff.mp rounded).2, ← largest]
    exact roundedCode_mono positive Nat.one_pos (by rwa [Nat.mul_one])
  simp only [Decimal.places, layout] at short reads
  unfold ofDecimal at reads
  split at reads
  · cases reads
    exact Nat.zero_le _
  · rw [if_neg (by omega)] at reads
    split at reads
    · cases reads
      exact Nat.zero_le _
    · cases exponent with
      | ofNat power =>
          refine bound Nat.one_pos ?_ reads
          rw [Int.ofNat_eq_natCast] at short
          calc digits * 10 ^ power ≤ 10 ^ (Nat.toDigits 10 digits).length * 10 ^ power :=
                Nat.mul_le_mul_right _ (Nat.le_of_lt below)
            _ = 10 ^ ((Nat.toDigits 10 digits).length + power) := (Nat.pow_add ..).symm
            _ ≤ 10 ^ 21 := Nat.pow_le_pow_right (by decide) (by omega)
            _ = 10 ^ 21 * 1 := (Nat.mul_one _).symm
      | negSucc power =>
          refine bound (Nat.pow_pos (by decide)) ?_ reads
          calc digits ≤ 10 ^ (Nat.toDigits 10 digits).length := Nat.le_of_lt below
            _ ≤ 10 ^ (21 + (power + 1)) := Nat.pow_le_pow_right (by decide) (by omega)
            _ = 10 ^ 21 * 10 ^ (power + 1) := Nat.pow_add ..

theorem shortest_large : shortest large = ⟨1, 21⟩ := by
  decide +kernel

theorem code_ne_zero_of_large (least : 10 ^ 21 * Magnitude.unitsPerOne ≤ magnitude.units) :
    magnitude.code ≠ 0 := by
  refine Magnitude.code_ne_zero (Nat.lt_of_lt_of_le ?_ least)
  exact Nat.mul_pos (by decide) Magnitude.unitsPerOne_pos

/-- A number of `10 ^ 21` or more has more than 21 places before its point. -/
theorem places_of_large (least : 10 ^ 21 * Magnitude.unitsPerOne ≤ magnitude.units) :
    layout.mostPlaces < (shortest magnitude).places := by
  by_contra short
  have nonzero := code_ne_zero_of_large least
  have most := code_le_large (Int.not_lt.mp short) (ofDecimal_shortest false nonzero)
  rw [← units_large] at least
  have sameCode : magnitude.code = large.code :=
    Nat.le_antisymm most (code_le_of_units_le (by decide) least)
  have isLarge : magnitude = large := by
    rw [Magnitude.mk.injEq]
    exact sameCode
  rw [isLarge, shortest_large] at short
  exact short (by decide)

theorem exponent_mem_text (long : layout.mostPlaces < decimal.places) : 'e' ∈ decimal.text := by
  have beyond : ¬(layout.fewestPlaces ≤ decimal.places ∧ decimal.places ≤ layout.mostPlaces) :=
    fun inLayout => Int.not_le.mpr long inLayout.2
  unfold Decimal.places at beyond
  unfold Decimal.text
  simp only
  rw [if_neg beyond]
  exact List.mem_append_right _ List.mem_cons_self

end Large

/-- The text of a number is not read as a whole number from `10 ^ 21` on. -/
theorem integer?_text_of_large {number : Number} (long : ¬number.IsShort) :
    integer? number.text.toList = none := by
  cases number with
  | nan => exact @integer?_of_letter _ 'N' (by decide) (by decide) (by decide)
  | infinity negative =>
      refine @integer?_of_letter _ 'I' ?_ (by decide) (by decide)
      cases negative <;> decide
  | finite negative magnitude =>
      have least : 10 ^ 21 * Magnitude.unitsPerOne ≤ magnitude.units := by
        by_contra below
        exact long ⟨negative, magnitude, rfl, Nat.lt_of_not_le below⟩
      have nonzero := code_ne_zero_of_large least
      have written := exponent_mem_text (places_of_large least)
      refine @integer?_of_letter _ 'e' ?_ (by decide) (by decide)
      rw [text_of_nonzero nonzero, String.toList_ofList]
      split
      · exact List.mem_cons_of_mem _ written
      · exact written

end ToolParams.Number
