import Mathlib.Algebra.Group.Nat.Defs
import ToolParams.Number.Shortest

/-!
# Decimals that are exactly a magnitude

A quotient that is exactly a magnitude is rounded to it.  So the exact decimal of a
magnitude reads as that magnitude, and so does every decimal of the same value.
-/

namespace ToolParams

namespace Magnitude

theorem unitsPerOne_pos : 0 < unitsPerOne := by
  have positive : ∀ exponent, 0 < Nat.pow 2 exponent := Nat.two_pow_pos
  apply positive

theorem unitsPerOne_eq : ∃ places, places = 1074 ∧ unitsPerOne = 2 ^ places := by
  have same : ∀ exponent, ∃ places, places = exponent ∧ Nat.pow 2 exponent = 2 ^ places :=
    fun exponent => ⟨exponent, rfl, rfl⟩
  unfold unitsPerOne
  exact same 1074

/-- The part of a code that is shifted has 53 binary places, unless nothing is shifted. -/
theorem significand_cases (magnitude : Magnitude) :
    (magnitude.shift = 0 ∧ magnitude.units = magnitude.code ∧ magnitude.code < 2 ^ 52) ∨
      ∃ significand, magnitude.units = significand * 2 ^ magnitude.shift ∧
        magnitude.code = magnitude.shift * 2 ^ 52 + significand ∧
        2 ^ 52 ≤ significand ∧ significand < 2 ^ 53 := by
  have whole := Nat.div_add_mod magnitude.code (2 ^ 52)
  have below := Nat.mod_lt magnitude.code (show 2 ^ 52 > 0 by decide)
  have isShift : magnitude.shift = magnitude.code / 2 ^ 52 - 1 := rfl
  have isUnits : magnitude.units =
      (magnitude.code - magnitude.shift * 2 ^ 52) * 2 ^ magnitude.shift := rfl
  by_cases small : magnitude.code < 2 ^ 52
  · have none : magnitude.shift = 0 := by
      rw [isShift, Nat.div_eq_of_lt small]
    exact .inl ⟨none, by simp [isUnits, none], small⟩
  · have positive : 1 ≤ magnitude.code / 2 ^ 52 := by omega
    refine .inr ⟨magnitude.code - magnitude.shift * 2 ^ 52, isUnits, ?_, ?_, ?_⟩ <;> omega

theorem units_pos {magnitude : Magnitude} (nonzero : magnitude.code ≠ 0) :
    0 < magnitude.units := by
  rcases magnitude.significand_cases with ⟨_, same, _⟩ | ⟨significand, same, _, least, _⟩
  · omega
  · rw [same]
    exact Nat.mul_pos (by omega) (Nat.pow_pos (by decide))

theorem code_ne_zero {magnitude : Magnitude} (positive : 0 < magnitude.units) :
    magnitude.code ≠ 0 := by
  intro zero
  rcases magnitude.significand_cases with ⟨_, same, _⟩ | ⟨significand, _, code, least, _⟩ <;>
    omega

theorem units_lt (magnitude : Magnitude) : magnitude.units < 2 ^ 2098 := by
  have inRange : magnitude.code < 2047 * 2 ^ 52 := magnitude.code_lt
  rcases magnitude.significand_cases with ⟨_, same, small⟩ | ⟨significand, same, code, _, most⟩
  · calc magnitude.units < 2 ^ 52 := same ▸ small
      _ ≤ 2 ^ 2098 := Nat.pow_le_pow_right (by decide) (by decide)
  · have bound : magnitude.shift ≤ 2045 := by omega
    calc magnitude.units = significand * 2 ^ magnitude.shift := same
      _ < 2 ^ 53 * 2 ^ magnitude.shift :=
          Nat.mul_lt_mul_of_pos_right most (Nat.pow_pos (by decide))
      _ = 2 ^ (53 + magnitude.shift) := (Nat.pow_add ..).symm
      _ ≤ 2 ^ 2098 := Nat.pow_le_pow_right (by decide) (by omega)

end Magnitude

namespace Number

/-- A quotient that is exactly a magnitude is rounded to its code. -/
theorem roundedCode_of_exact {magnitude : Magnitude} {numerator denominator : Nat}
    (nonzero : magnitude.code ≠ 0) (positive : 0 < denominator)
    (exact : numerator * Magnitude.unitsPerOne = magnitude.units * denominator) :
    roundedCode numerator denominator = magnitude.code := by
  have somePositive := magnitude.units_pos nonzero
  unfold roundedCode
  simp only [exact, Nat.mul_div_cancel _ positive, Nat.pow_eq]
  rcases magnitude.significand_cases with ⟨_, same, small⟩ | ⟨significand, same, code, least, most⟩
  · have none : magnitude.units.log2 - 52 = 0 := by
      have short := (Nat.log2_lt (k := 52) (by omega)).mpr (same ▸ small)
      omega
    simp only [none, Nat.pow_zero, Nat.mul_one, Nat.mul_div_cancel _ positive, Nat.mul_mod_left]
    have noTie : ¬(denominator < 2 * 0 ∨ denominator = 2 * 0 ∧ magnitude.units % 2 = 1) := by
      omega
    rw [if_neg noTie, same]
    omega
  · have shifted : magnitude.units.log2 - 52 = magnitude.shift := by
      have size : magnitude.units.log2 = magnitude.shift + 52 := by
        rw [Nat.log2_eq_iff (by omega), same]
        constructor
        · rw [Nat.add_comm, Nat.pow_add]
          exact Nat.mul_le_mul_right _ least
        · rw [Nat.add_assoc, Nat.add_comm, Nat.pow_add]
          exact Nat.mul_lt_mul_of_pos_right most (Nat.pow_pos (by decide))
      omega
    have stepPositive : 0 < denominator * 2 ^ magnitude.shift :=
      Nat.mul_pos positive (Nat.pow_pos (by decide))
    have kept : magnitude.units * denominator =
        significand * (denominator * 2 ^ magnitude.shift) := by
      rw [same, Nat.mul_assoc, Nat.mul_comm (2 ^ magnitude.shift)]
    rw [shifted, kept, Nat.mul_div_cancel _ stepPositive, Nat.mul_mod_left]
    have noTie : ¬(denominator * 2 ^ magnitude.shift < 2 * 0 ∨
        denominator * 2 ^ magnitude.shift = 2 * 0 ∧ significand % 2 = 1) := by
      omega
    rw [if_neg noTie]
    omega

theorem ofCode_code (negative : Bool) (magnitude : Magnitude) :
    ofCode negative magnitude.code = .finite negative magnitude := by
  rw [ofCode, dif_pos magnitude.code_lt]

theorem ofCode_eq_finite_iff {negative other : Bool} {code : Nat} {magnitude : Magnitude} :
    ofCode negative code = .finite other magnitude ↔ negative = other ∧ code = magnitude.code := by
  unfold ofCode
  split
  · rw [finite.injEq]
    refine and_congr_right fun _ => ⟨fun same => same ▸ rfl, fun same => ?_⟩
    cases magnitude
    simp only at same
    simp only [same]
  · rename_i beyond
    refine iff_of_false nofun fun both => beyond ?_
    rw [both.2]
    exact magnitude.code_lt

/-- A whole number is rounded to a whole number: its last binary places are given up only
if they lie before the point. -/
theorem dvd_units_of_rounded {value : Nat} {magnitude : Magnitude} (positive : 0 < value)
    (rounded : magnitude.code = roundedCode value 1) :
    Magnitude.unitsPerOne ∣ magnitude.units := by
  obtain ⟨places, isPlaces, one⟩ := Magnitude.unitsPerOne_eq
  have isUnits : magnitude.units =
      (magnitude.code - magnitude.shift * 2 ^ 52) * 2 ^ magnitude.shift := rfl
  have isShift : magnitude.shift = magnitude.code / 2 ^ 52 - 1 := rfl
  have least := Nat.log2_self_le (Nat.ne_of_gt positive)
  have most := @Nat.lt_log2_self value
  have size : (value * 2 ^ places).log2 = value.log2 + places := by
    rw [Nat.log2_eq_iff (Nat.ne_of_gt (Nat.mul_pos positive (Nat.two_pow_pos _)))]
    constructor
    · rw [Nat.pow_add]
      exact Nat.mul_le_mul_right _ least
    · rw [Nat.add_right_comm, Nat.pow_add]
      exact Nat.mul_lt_mul_of_pos_right most (Nat.two_pow_pos _)
  rw [one, isUnits]
  unfold roundedCode at rounded
  simp only [one, Nat.div_one, Nat.one_mul, Nat.pow_eq, size] at rounded
  generalize given : value.log2 + places - 52 = lost at rounded
  have stepPositive : 0 < 2 ^ lost := Nat.two_pow_pos _
  have keptLeast : 2 ^ 52 ≤ value * 2 ^ places / 2 ^ lost := by
    rw [Nat.le_div_iff_mul_le stepPositive, ← Nat.pow_add,
      show 52 + lost = value.log2 + places by omega, Nat.pow_add]
    exact Nat.mul_le_mul_right _ least
  rcases Nat.lt_or_ge lost places with before | behind
  · have exact : 2 ^ lost ∣ value * 2 ^ places :=
      Nat.dvd_mul_left_of_dvd (Nat.pow_dvd_pow 2 (Nat.le_of_lt before)) value
    have noTie : ¬(2 ^ lost < 2 * 0 ∨
        2 ^ lost = 2 * 0 ∧ value * 2 ^ places / 2 ^ lost % 2 = 1) := by
      omega
    have keptMost : value * 2 ^ places / 2 ^ lost < 2 ^ 53 := by
      rw [Nat.div_lt_iff_lt_mul stepPositive, ← Nat.pow_add,
        show 53 + lost = value.log2 + 1 + places by omega, Nat.pow_add]
      exact Nat.mul_lt_mul_of_pos_right most (Nat.two_pow_pos _)
    rw [Nat.mod_eq_zero_of_dvd exact, if_neg noTie] at rounded
    have same : magnitude.shift = lost := by omega
    have kept : magnitude.code - magnitude.shift * 2 ^ 52 = value * 2 ^ places / 2 ^ lost := by
      omega
    rw [kept, same, Nat.div_mul_cancel exact]
    exact Nat.dvd_mul_left _ _
  · have enough : places ≤ magnitude.shift := by omega
    exact Nat.dvd_mul_left_of_dvd (Nat.pow_dvd_pow 2 enough) _

def Decimal.Exact (decimal : Decimal) (magnitude : Magnitude) : Prop :=
  decimal.digits * (scaledRatio magnitude decimal.exponent).2 =
    (scaledRatio magnitude decimal.exponent).1

namespace Decimal

variable {magnitude : Magnitude} {digits : Nat} {exponent : Int}

theorem exact_ofNat_iff {power : Nat} :
    Exact ⟨digits, .ofNat power⟩ magnitude ↔
      digits * (Magnitude.unitsPerOne * 10 ^ power) = magnitude.units := by
  simp only [Exact, scaledRatio, Nat.pow_eq]

theorem exact_negSucc_iff {power : Nat} :
    Exact ⟨digits, .negSucc power⟩ magnitude ↔
      digits * Magnitude.unitsPerOne = magnitude.units * 10 ^ (power + 1) := by
  simp only [Exact, scaledRatio, Nat.pow_eq]

/-- A zero at the end of the digits makes no difference to the value. -/
theorem exact_drop_zero (exact : Exact ⟨digits * 10, exponent⟩ magnitude) :
    Exact ⟨digits, exponent + 1⟩ magnitude := by
  cases exponent with
  | ofNat power =>
      rw [exact_ofNat_iff] at exact
      have next : Int.ofNat power + 1 = .ofNat (power + 1) := rfl
      rw [next, exact_ofNat_iff, ← exact, Nat.pow_succ]
      generalize Magnitude.unitsPerOne = one
      ac_rfl
  | negSucc power =>
      rw [exact_negSucc_iff, Nat.mul_right_comm, Nat.pow_succ, ← Nat.mul_assoc] at exact
      have fewer := Nat.eq_of_mul_eq_mul_right (show 0 < 10 by decide) exact
      cases power with
      | zero =>
          have next : Int.negSucc 0 + 1 = .ofNat 0 := rfl
          rw [next, exact_ofNat_iff, Nat.pow_zero, Nat.mul_one, fewer, Nat.pow_zero, Nat.mul_one]
      | succ power =>
          have next : Int.negSucc (power + 1) + 1 = .negSucc power := rfl
          rw [next, exact_negSucc_iff, fewer]

theorem exact_strip (exact : Exact ⟨digits, exponent⟩ magnitude) :
    Exact (strip digits exponent) magnitude := by
  induction digits, exponent using strip.induct with
  | case1 digits exponent zero induction =>
      rw [strip, if_pos zero]
      have tens : digits / 10 * 10 = digits := by omega
      rw [← tens] at exact
      exact induction (exact_drop_zero exact)
  | case2 digits exponent done =>
      rw [strip, if_neg done]
      exact exact

theorem digits_pos_of_exact (nonzero : magnitude.code ≠ 0)
    (exact : Exact ⟨digits, exponent⟩ magnitude) : 0 < digits := by
  have positive := magnitude.units_pos nonzero
  rcases Nat.eq_zero_or_pos digits with rfl | some
  · cases exponent with
    | ofNat power =>
        rw [exact_ofNat_iff, Nat.zero_mul] at exact
        omega
    | negSucc power =>
        rw [exact_negSucc_iff, Nat.zero_mul] at exact
        have above : 0 < magnitude.units * 10 ^ (power + 1) :=
          Nat.mul_pos positive (Nat.pow_pos (by decide))
        omega
  · exact some

theorem pow_eight_le (exponent : Nat) : 2 ^ (3 * exponent) ≤ 10 ^ exponent := by
  rw [Nat.pow_mul]
  exact Nat.pow_le_pow_left (by decide) exponent

theorem power_le_of_exact {power : Nat} (nonzero : magnitude.code ≠ 0)
    (exact : Exact ⟨digits, .ofNat power⟩ magnitude) : power ≤ 400 := by
  have some := digits_pos_of_exact nonzero exact
  obtain ⟨places, isPlaces, one⟩ := Magnitude.unitsPerOne_eq
  rw [exact_ofNat_iff, one] at exact
  rcases Nat.lt_or_ge 400 power with large | small
  case inr => exact small
  have bound : 2 ^ 2098 ≤ magnitude.units := by
    calc 2 ^ 2098 ≤ 2 ^ (places + 3 * power) := Nat.pow_le_pow_right (by decide) (by omega)
      _ = 2 ^ places * 2 ^ (3 * power) := by rw [Nat.pow_add]
      _ ≤ 2 ^ places * 10 ^ power := Nat.mul_le_mul_left _ (pow_eight_le power)
      _ ≤ digits * (2 ^ places * 10 ^ power) := Nat.le_mul_of_pos_left _ some
      _ = magnitude.units := exact
  exact absurd magnitude.units_lt (Nat.not_lt.mpr bound)

/-- A magnitude is not below the negative powers that are taken for zero. -/
theorem power_lt_of_exact {power : Nat} (nonzero : magnitude.code ≠ 0)
    (exact : Exact ⟨digits, .negSucc power⟩ magnitude) : power < digits.log2 + 401 := by
  have positive := magnitude.units_pos nonzero
  obtain ⟨places, isPlaces, one⟩ := Magnitude.unitsPerOne_eq
  rw [exact_negSucc_iff, one] at exact
  rcases Nat.lt_or_ge power (digits.log2 + 401) with small | large
  case inl => exact small
  have bound : digits * 2 ^ places < magnitude.units * 10 ^ (power + 1) := by
    calc digits * 2 ^ places < 2 ^ (digits.log2 + 1) * 2 ^ places :=
          Nat.mul_lt_mul_of_pos_right Nat.lt_log2_self (Nat.pow_pos (by decide))
      _ = 2 ^ (digits.log2 + 1 + places) := (Nat.pow_add ..).symm
      _ ≤ 2 ^ (3 * (power + 1)) := Nat.pow_le_pow_right (by decide) (by omega)
      _ ≤ 10 ^ (power + 1) := pow_eight_le _
      _ ≤ magnitude.units * 10 ^ (power + 1) := Nat.le_mul_of_pos_left _ positive
  omega

/-- A decimal that is exactly a magnitude reads as it. -/
theorem ofDecimal_of_exact (negative : Bool) (nonzero : magnitude.code ≠ 0)
    (exact : Exact ⟨digits, exponent⟩ magnitude) :
    ofDecimal negative digits exponent = .finite negative magnitude := by
  have some := digits_pos_of_exact nonzero exact
  unfold ofDecimal
  rw [if_neg (Nat.ne_of_gt some)]
  cases exponent with
  | ofNat power =>
      have small := power_le_of_exact nonzero exact
      rw [exact_ofNat_iff] at exact
      have notLarge : ¬(400 : Int) < .ofNat power := by
        simp only [Int.ofNat_eq_natCast]
        omega
      have notSmall : ¬Int.ofNat power < -(digits.log2 + 401 : Int) := by
        simp only [Int.ofNat_eq_natCast]
        omega
      rw [if_neg notLarge, if_neg notSmall]
      simp only [ofRatio, Nat.pow_eq]
      rw [roundedCode_of_exact nonzero Nat.one_pos, ofCode_code]
      rw [Nat.mul_one, ← exact, Nat.mul_assoc, Nat.mul_comm (10 ^ power)]
  | negSucc power =>
      have least := power_lt_of_exact nonzero exact
      rw [exact_negSucc_iff] at exact
      have notLarge : ¬(400 : Int) < .negSucc power := by omega
      have notSmall : ¬Int.negSucc power < -(digits.log2 + 401 : Int) := by omega
      rw [if_neg notLarge, if_neg notSmall]
      simp only [ofRatio, Nat.pow_eq]
      rw [roundedCode_of_exact nonzero (Nat.pow_pos (by decide)) exact, ofCode_code]

end Decimal

end Number

end ToolParams
