import Mathlib.Data.Nat.Log
import Mathlib.Tactic.Ring
import ToolParams.Proofs.Number.Shortest

/-!
# Rounding keeps the order

A quotient that is not larger is not rounded to a larger magnitude.  So the whole numbers that
are rounded to infinity are those from one threshold on: it is in the middle between the
largest magnitude and the power of two above it, and the tie goes to that power.
-/

namespace ToolParams.Number

/-- A whole number next to a quotient, and an even one where two of them are as near. -/
structure Nearest (numerator denominator rounded : Nat) : Prop where
  below : 2 * (denominator * rounded) ≤ 2 * numerator + denominator
  above : 2 * numerator ≤ 2 * (denominator * rounded) + denominator
  even : 2 * (denominator * rounded) = 2 * numerator + denominator ∨
    2 * numerator = 2 * (denominator * rounded) + denominator → rounded % 2 = 0

section Nearest

variable {numerator denominator rounded otherNumerator otherDenominator otherRounded : Nat}

theorem nearest_half_even (positive : 0 < denominator) :
    Nearest numerator denominator (numerator / denominator +
      if denominator < 2 * (numerator % denominator) ∨
        (denominator = 2 * (numerator % denominator) ∧ numerator / denominator % 2 = 1)
      then 1 else 0) := by
  have whole := Nat.div_add_mod numerator denominator
  have rest := Nat.mod_lt numerator positive
  generalize numerator / denominator = kept at *
  generalize numerator % denominator = left at *
  split
  · constructor <;> rw [Nat.mul_add, Nat.mul_one] <;> omega
  · rw [Nat.add_zero]
    constructor <;> omega

/-- The nearest whole numbers of two quotients are ordered as the quotients are. -/
theorem Nearest.le (nearest : Nearest numerator denominator rounded)
    (otherNearest : Nearest otherNumerator otherDenominator otherRounded)
    (positive : 0 < denominator) (otherPositive : 0 < otherDenominator)
    (ordered : numerator * otherDenominator ≤ otherNumerator * denominator) :
    rounded ≤ otherRounded := by
  by_contra reversed
  have product : 0 < denominator * otherDenominator := Nat.mul_pos positive otherPositive
  have next : denominator * otherDenominator * (otherRounded + 1) ≤
      denominator * otherDenominator * rounded :=
    Nat.mul_le_mul_left _ (Nat.lt_of_not_le reversed)
  rw [Nat.mul_add, Nat.mul_one] at next
  have below : 2 * (denominator * otherDenominator * rounded) ≤
      2 * (numerator * otherDenominator) + denominator * otherDenominator := by
    calc 2 * (denominator * otherDenominator * rounded)
        = 2 * (denominator * rounded) * otherDenominator := by ring
      _ ≤ (2 * numerator + denominator) * otherDenominator :=
          Nat.mul_le_mul_right _ nearest.below
      _ = 2 * (numerator * otherDenominator) + denominator * otherDenominator := by ring
  have above : 2 * (otherNumerator * denominator) ≤
      2 * (denominator * otherDenominator * otherRounded) + denominator * otherDenominator := by
    calc 2 * (otherNumerator * denominator) = 2 * otherNumerator * denominator := by ring
      _ ≤ (2 * (otherDenominator * otherRounded) + otherDenominator) * denominator :=
          Nat.mul_le_mul_right _ otherNearest.above
      _ = 2 * (denominator * otherDenominator * otherRounded) +
          denominator * otherDenominator := by ring
  -- The two are next to each other and each is a tie, but both cannot be even.
  have isNext : rounded = otherRounded + 1 := by
    refine Nat.eq_of_mul_eq_mul_left product ?_
    rw [Nat.mul_add, Nat.mul_one]
    omega
  have even : rounded % 2 = 0 := by
    refine nearest.even (.inl (Nat.eq_of_mul_eq_mul_right otherPositive ?_))
    calc 2 * (denominator * rounded) * otherDenominator
        = 2 * (denominator * otherDenominator * rounded) := by ring
      _ = 2 * (numerator * otherDenominator) + denominator * otherDenominator := by omega
      _ = (2 * numerator + denominator) * otherDenominator := by ring
  have otherEven : otherRounded % 2 = 0 := by
    refine otherNearest.even (.inr (Nat.eq_of_mul_eq_mul_right positive ?_))
    calc 2 * otherNumerator * denominator = 2 * (otherNumerator * denominator) := by ring
      _ = 2 * (denominator * otherDenominator * otherRounded) +
          denominator * otherDenominator := by omega
      _ = (2 * (otherDenominator * otherRounded) + otherDenominator) * denominator := by ring
  omega

end Nearest

section Codes

variable {numerator denominator otherNumerator otherDenominator : Nat}

/-- How many binary places of a quotient are given up. -/
def placesLost (numerator denominator : Nat) : Nat :=
  (numerator * Magnitude.unitsPerOne / denominator).log2 - 52

/-- A code is what is nearest to the quotient in the places that are kept: at most 53, and
exactly 53 where some are given up. -/
theorem exists_nearest (positive : 0 < denominator) :
    ∃ kept, roundedCode numerator denominator =
        placesLost numerator denominator * 2 ^ 52 + kept ∧
      Nearest (numerator * Magnitude.unitsPerOne)
        (denominator * 2 ^ placesLost numerator denominator) kept ∧
      kept ≤ 2 ^ 53 ∧ (0 < placesLost numerator denominator → 2 ^ 52 ≤ kept) := by
  have stepPositive : 0 < denominator * 2 ^ placesLost numerator denominator :=
    Nat.mul_pos positive (Nat.two_pow_pos _)
  refine ⟨_, ?_, nearest_half_even stepPositive, ?_⟩
  · rw [← Nat.add_assoc]
    rfl
  rw [← Nat.div_div_eq_div_mul]
  unfold placesLost
  generalize numerator * Magnitude.unitsPerOne / denominator = quotient
  have most := @Nat.lt_log2_self quotient
  have keptMost : quotient / 2 ^ (quotient.log2 - 52) < 2 ^ 53 := by
    rw [Nat.div_lt_iff_lt_mul (Nat.two_pow_pos _), ← Nat.pow_add]
    exact Nat.lt_of_lt_of_le most (Nat.pow_le_pow_right (by decide) (by omega))
  refine ⟨?_, fun lost => ?_⟩
  · split <;> omega
  · have least : 2 ^ (52 + (quotient.log2 - 52)) ≤ quotient := by
      rw [show 52 + (quotient.log2 - 52) = quotient.log2 by omega]
      refine Nat.log2_self_le ?_
      rintro rfl
      cases lost
    have keptLeast : 2 ^ 52 ≤ quotient / 2 ^ (quotient.log2 - 52) := by
      rwa [Nat.le_div_iff_mul_le (Nat.two_pow_pos _), ← Nat.pow_add]
    omega

theorem placesLost_mono (positive : 0 < denominator) (otherPositive : 0 < otherDenominator)
    (ordered : numerator * otherDenominator ≤ otherNumerator * denominator) :
    placesLost numerator denominator ≤ placesLost otherNumerator otherDenominator := by
  have quotients : numerator * Magnitude.unitsPerOne / denominator ≤
      otherNumerator * Magnitude.unitsPerOne / otherDenominator := by
    rw [Nat.le_div_iff_mul_le otherPositive]
    refine Nat.le_of_mul_le_mul_right ?_ positive
    calc numerator * Magnitude.unitsPerOne / denominator * otherDenominator * denominator
        = numerator * Magnitude.unitsPerOne / denominator * denominator * otherDenominator :=
          Nat.mul_right_comm ..
      _ ≤ numerator * Magnitude.unitsPerOne * otherDenominator :=
          Nat.mul_le_mul_right _ (Nat.div_mul_le_self ..)
      _ = numerator * otherDenominator * Magnitude.unitsPerOne := Nat.mul_right_comm ..
      _ ≤ otherNumerator * denominator * Magnitude.unitsPerOne := Nat.mul_le_mul_right _ ordered
      _ = otherNumerator * Magnitude.unitsPerOne * denominator := Nat.mul_right_comm ..
  unfold placesLost
  rw [Nat.log2_eq_log_two, Nat.log2_eq_log_two]
  have places := Nat.log_mono_right (b := 2) quotients
  omega

/-- A quotient that is not larger is not rounded to a larger code. -/
theorem roundedCode_mono (positive : 0 < denominator) (otherPositive : 0 < otherDenominator)
    (ordered : numerator * otherDenominator ≤ otherNumerator * denominator) :
    roundedCode numerator denominator ≤ roundedCode otherNumerator otherDenominator := by
  obtain ⟨kept, code, nearest, most, _⟩ := @exists_nearest numerator denominator positive
  obtain ⟨otherKept, otherCode, otherNearest, _, least⟩ :=
    @exists_nearest otherNumerator otherDenominator otherPositive
  rw [code, otherCode]
  rcases Nat.lt_or_eq_of_le (placesLost_mono positive otherPositive ordered) with fewer | same
  · -- With more places given up, the code is at least the next multiple of the step.
    have filled := least (Nat.lt_of_le_of_lt (Nat.zero_le _) fewer)
    omega
  · rw [same] at nearest ⊢
    refine Nat.add_le_add_left (nearest.le otherNearest ?_ ?_ ?_) _
    · exact Nat.mul_pos positive (Nat.two_pow_pos _)
    · exact Nat.mul_pos otherPositive (Nat.two_pow_pos _)
    · generalize 2 ^ placesLost otherNumerator otherDenominator = step
      calc numerator * Magnitude.unitsPerOne * (otherDenominator * step)
          = numerator * otherDenominator * (Magnitude.unitsPerOne * step) := by ring
        _ ≤ otherNumerator * denominator * (Magnitude.unitsPerOne * step) :=
            Nat.mul_le_mul_right _ ordered
        _ = otherNumerator * Magnitude.unitsPerOne * (denominator * step) := by ring

end Codes

/-- Codes grow with the magnitudes that they stand for. -/
theorem code_le_of_units_le {magnitude other : Magnitude} (nonzero : magnitude.code ≠ 0)
    (ordered : magnitude.units ≤ other.units) : magnitude.code ≤ other.code := by
  have otherNonzero : other.code ≠ 0 :=
    Magnitude.code_ne_zero (Nat.lt_of_lt_of_le (magnitude.units_pos nonzero) ordered)
  have positive := Magnitude.unitsPerOne_pos
  rw [← roundedCode_of_exact nonzero positive rfl, ← roundedCode_of_exact otherNonzero positive rfl]
  exact roundedCode_mono positive positive (Nat.mul_le_mul_right _ ordered)

/-- The least whole number that is rounded to infinity. -/
def overflow : Nat := 2 ^ 1024 - 2 ^ 970

theorem roundedCode_overflow : roundedCode overflow 1 = Magnitude.limit := by
  decide +kernel

theorem roundedCode_before_overflow : roundedCode (overflow - 1) 1 < Magnitude.limit := by
  decide +kernel

theorem roundedCode_lt_limit_iff {value : Nat} :
    roundedCode value 1 < Magnitude.limit ↔ value < overflow := by
  constructor
  · intro inRange
    by_contra large
    have least := roundedCode_mono Nat.one_pos Nat.one_pos
      (Nat.mul_le_mul_right 1 (Nat.le_of_not_lt large))
    rw [roundedCode_overflow] at least
    exact Nat.not_lt.mpr least inRange
  · intro small
    have most := roundedCode_mono Nat.one_pos Nat.one_pos
      (Nat.mul_le_mul_right 1 (Nat.le_sub_one_of_lt small))
    exact Nat.lt_of_le_of_lt most roundedCode_before_overflow

end ToolParams.Number
