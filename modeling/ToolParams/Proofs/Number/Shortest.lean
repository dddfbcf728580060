import ToolParams.Proofs.Number.Rounding

/-!
# Shortest decimals

The shortest decimal of a magnitude reads as it, whichever of its neighbours is taken.
A whole number below `10 ^ 21` has a shortest decimal without places behind the point
and with at most 21 before it.
-/

namespace ToolParams.Number

theorem exact_exact (magnitude : Magnitude) : (exact magnitude).Exact magnitude := by
  apply Decimal.exact_strip
  obtain ⟨places, isPlaces, one⟩ := Magnitude.unitsPerOne_eq
  have below : (-1074 : Int) = .negSucc 1073 := rfl
  have count : 1073 + 1 = places := isPlaces.symm
  rw [below, Decimal.exact_negSucc_iff, one, count, ← isPlaces, Nat.pow_eq, Nat.mul_assoc,
    ← Nat.mul_pow]

theorem Decimal.readsAs_of_exact {magnitude : Magnitude} {decimal : Decimal}
    (nonzero : magnitude.code ≠ 0) (isExact : decimal.Exact magnitude) :
    decimal.readsAs magnitude = true := by
  rw [Decimal.readsAs, decide_eq_true_iff]
  exact Decimal.ofDecimal_of_exact false nonzero isExact

theorem readsAs_of_onGrid? {magnitude : Magnitude} {exponent : Int} {decimal : Decimal}
    (found : onGrid? magnitude exponent = some decimal) :
    decimal.readsAs magnitude = true := by
  unfold onGrid? at found
  simp only at found
  split at found
  · rename_i lower upper
    split at found
    · cases found
      exact lower
    · cases found
      exact upper
  · rename_i lower _
    cases found
    exact lower
  · rename_i _ upper
    cases found
    exact upper
  · cases found

theorem readsAs_shortest {magnitude : Magnitude} (nonzero : magnitude.code ≠ 0) :
    (shortest magnitude).readsAs magnitude = true := by
  unfold shortest
  cases found : (List.range 17).findSome? fun (count : Nat) =>
      onGrid? magnitude (leadingPlaces magnitude - (count + 1 : Nat)) with
  | none =>
      rw [Option.getD_none]
      exact Decimal.readsAs_of_exact nonzero (exact_exact magnitude)
  | some decimal =>
      obtain ⟨count, _, onGrid⟩ := List.exists_of_findSome?_eq_some found
      exact readsAs_of_onGrid? onGrid

section Length

variable {value places : Nat}

theorem lt_pow_length (value : Nat) : value < 10 ^ (Nat.toDigits 10 value).length :=
  (Nat.length_toDigits_le_iff (by decide) Nat.length_toDigits_pos).mp (Nat.le_refl _)

theorem pow_le_of_length_gt (positive : 0 < value)
    (long : places < (Nat.toDigits 10 value).length) : 10 ^ places ≤ value := by
  cases places with
  | zero => exact positive
  | succ places =>
      rcases Nat.lt_or_ge value (10 ^ (places + 1)) with small | large
      · have short := (Nat.length_toDigits_le_iff (show 1 < 10 by decide)
          (Nat.succ_pos places)).mpr small
        omega
      · exact large

/-- Zeros behind a number are more digits. -/
theorem length_toDigits_mul_pow (positive : 0 < value) (places : Nat) :
    (Nat.toDigits 10 (value * 10 ^ places)).length = (Nat.toDigits 10 value).length + places := by
  have some : 0 < (Nat.toDigits 10 value).length := Nat.length_toDigits_pos
  have powerPositive : 0 < 10 ^ places := Nat.pow_pos (by decide)
  apply Nat.le_antisymm
  · rw [Nat.length_toDigits_le_iff (by decide) (by omega), Nat.pow_add]
    exact Nat.mul_lt_mul_of_pos_right (lt_pow_length value) powerPositive
  · apply Nat.le_of_not_lt
    intro short
    have least := pow_le_of_length_gt positive
      (show (Nat.toDigits 10 value).length - 1 < (Nat.toDigits 10 value).length by omega)
    have bound : (Nat.toDigits 10 (value * 10 ^ places)).length ≤
        (Nat.toDigits 10 value).length - 1 + places := by omega
    rcases Nat.eq_zero_or_pos ((Nat.toDigits 10 value).length - 1 + places) with none | further
    · have anyDigit : 0 < (Nat.toDigits 10 (value * 10 ^ places)).length :=
        Nat.length_toDigits_pos
      omega
    · rw [Nat.length_toDigits_le_iff (by decide) further, Nat.pow_add] at bound
      exact Nat.not_le_of_gt bound (Nat.mul_le_mul_right _ least)

end Length

namespace Decimal

theorem le_exponent_strip (digits : Nat) (exponent : Int) :
    exponent ≤ (strip digits exponent).exponent := by
  induction digits, exponent using strip.induct with
  | case1 digits exponent zero induction =>
      rw [strip, if_pos zero]
      omega
  | case2 digits exponent done =>
      have stripped : (strip digits exponent).exponent = exponent := by
        rw [strip, if_neg done]
      exact Int.le_of_eq stripped.symm

theorem digits_strip (digits : Nat) (exponent : Int) :
    (strip digits exponent).digits *
      10 ^ ((strip digits exponent).exponent - exponent).toNat = digits := by
  induction digits, exponent using strip.induct with
  | case1 digits exponent zero induction =>
      have further := le_exponent_strip (digits / 10) (exponent + 1)
      rw [strip, if_pos zero]
      have count : ((strip (digits / 10) (exponent + 1)).exponent - exponent).toNat =
          ((strip (digits / 10) (exponent + 1)).exponent - (exponent + 1)).toNat + 1 := by omega
      rw [count, Nat.pow_succ, ← Nat.mul_assoc, induction]
      omega
  | case2 digits exponent done =>
      rw [strip, if_neg done]
      simp

/-- Zeros at the end are dropped one after another. -/
theorem strip_mul_pow {digits : Nat} (positive : 0 < digits) (places : Nat)
    (exponent : Int) :
    strip (digits * 10 ^ places) exponent = strip digits (exponent + places) := by
  induction places generalizing exponent with
  | zero => simp
  | succ places induction =>
      have ends : 0 < digits * 10 ^ (places + 1) ∧ digits * 10 ^ (places + 1) % 10 = 0 := by
        refine ⟨Nat.mul_pos positive (Nat.pow_pos (by decide)), ?_⟩
        rw [Nat.pow_succ, ← Nat.mul_assoc]
        exact Nat.mul_mod_left _ 10
      have fewer : digits * 10 ^ (places + 1) / 10 = digits * 10 ^ places := by
        rw [Nat.pow_succ, ← Nat.mul_assoc]
        exact Nat.mul_div_cancel _ (by decide)
      rw [strip, if_pos ends, fewer, induction]
      congr 1
      push_cast
      omega

end Decimal

section Whole

variable {magnitude : Magnitude} {value : Nat}

theorem leadingPlaces_of_whole (positive : 0 < value)
    (whole : magnitude.units = value * Magnitude.unitsPerOne) :
    leadingPlaces magnitude = (Nat.toDigits 10 value).length := by
  have below : (-343 : Int) = .negSucc 342 := rfl
  unfold leadingPlaces
  rw [below]
  simp only [scaledRatio, Nat.pow_eq, whole]
  generalize isCount : 342 + 1 = count
  rw [Nat.mul_right_comm value, Nat.mul_div_cancel _ Magnitude.unitsPerOne_pos,
    length_toDigits_mul_pow positive]
  omega

theorem isSome_onGrid? {exponent : Int}
    (lower : (Decimal.strip ((scaledRatio magnitude exponent).1 /
      (scaledRatio magnitude exponent).2) exponent).readsAs magnitude = true) :
    (onGrid? magnitude exponent).isSome = true := by
  unfold onGrid?
  simp only [lower]
  split
  · split <;> rfl
  · rfl
  · rename_i impossible _
    cases impossible
  · rename_i impossible _
    cases impossible

theorem scaledRatio_zero (magnitude : Magnitude) :
    scaledRatio magnitude 0 = (magnitude.units, Magnitude.unitsPerOne) := by
  have zero : (0 : Int) = .ofNat 0 := rfl
  rw [zero]
  simp only [scaledRatio, Nat.pow_eq, Nat.pow_zero, Nat.mul_one]

theorem isSome_onGrid?_zero (nonzero : magnitude.code ≠ 0)
    (whole : magnitude.units = value * Magnitude.unitsPerOne) :
    (onGrid? magnitude 0).isSome = true := by
  apply isSome_onGrid?
  have isExact : Decimal.Exact ⟨value, 0⟩ magnitude := by
    unfold Decimal.Exact
    rw [scaledRatio_zero, whole]
  rw [scaledRatio_zero, whole, Nat.mul_div_cancel _ Magnitude.unitsPerOne_pos]
  exact Decimal.readsAs_of_exact nonzero (Decimal.exact_strip isExact)

/-- The number `10 ^ 21`. -/
def large : Magnitude := ⟨1091 * 2 ^ 52 + 16 * 5 ^ 21, by decide⟩

theorem units_large : large.units = 10 ^ 21 * Magnitude.unitsPerOne := by
  decide +kernel

/-- Only the number `10 ^ 21` reads as that number. -/
theorem ofDecimal_large {digits : Nat} {exponent : Int} (natural : 0 ≤ exponent)
    (value : digits * 10 ^ exponent.toNat = 10 ^ 21) :
    ofDecimal false digits exponent = .finite false large := by
  apply Decimal.ofDecimal_of_exact false (by decide)
  obtain ⟨power, rfl⟩ := Int.eq_ofNat_of_zero_le natural
  have same : ((power : Nat) : Int) = .ofNat power := rfl
  rw [same, Decimal.exact_ofNat_iff, units_large, ← value]
  generalize Magnitude.unitsPerOne = one
  rw [Int.toNat_natCast]
  ac_rfl

theorem strip_of_onGrid? {exponent : Int} {decimal : Decimal}
    (found : onGrid? magnitude exponent = some decimal) :
    ∃ digits, decimal = Decimal.strip digits exponent ∧
      (digits = (scaledRatio magnitude exponent).1 / (scaledRatio magnitude exponent).2 ∨
        digits = (scaledRatio magnitude exponent).1 / (scaledRatio magnitude exponent).2 + 1) := by
  unfold onGrid? at found
  simp only at found
  split at found
  · split at found
    · cases found
      exact ⟨_, rfl, .inl rfl⟩
    · cases found
      exact ⟨_, rfl, .inr rfl⟩
  · cases found
    exact ⟨_, rfl, .inl rfl⟩
  · cases found
    exact ⟨_, rfl, .inr rfl⟩
  · cases found

theorem value_strip (digits places : Nat) :
    0 ≤ (Decimal.strip digits places).exponent ∧
      (Decimal.strip digits places).digits *
        10 ^ (Decimal.strip digits places).exponent.toNat = digits * 10 ^ places := by
  have further := Decimal.le_exponent_strip digits places
  have same := Decimal.digits_strip digits places
  refine ⟨by omega, ?_⟩
  have count : (Decimal.strip digits places).exponent.toNat =
      ((Decimal.strip digits places).exponent - places).toNat + places := by omega
  rw [count, Nat.pow_add, ← Nat.mul_assoc, same]

/-- A decimal on the grid of a number below `10 ^ 21` is below it too, as that number
itself reads as another magnitude. -/
theorem value_of_onGrid? {places : Nat} {decimal : Decimal} (small : value < 10 ^ 21)
    (whole : magnitude.units = value * Magnitude.unitsPerOne)
    (shorter : places < (Nat.toDigits 10 value).length)
    (found : onGrid? magnitude places = some decimal) :
    0 ≤ decimal.exponent ∧ decimal.digits * 10 ^ decimal.exponent.toNat < 10 ^ 21 := by
  obtain ⟨digits, stripped, neighbours⟩ := strip_of_onGrid? found
  obtain ⟨natural, same⟩ := value_strip digits places
  rw [← stripped] at natural same
  refine ⟨natural, ?_⟩
  have below : (scaledRatio magnitude places).1 / (scaledRatio magnitude places).2 =
      value / 10 ^ places := by
    have ratio : scaledRatio magnitude places =
        (magnitude.units, Magnitude.unitsPerOne * 10 ^ places) := by
      have natural : (places : Int) = .ofNat places := rfl
      rw [natural]
      simp only [scaledRatio, Nat.pow_eq]
    rw [ratio, whole, Nat.mul_comm value,
      Nat.mul_div_mul_left _ _ Magnitude.unitsPerOne_pos]
  rw [below] at neighbours
  rw [same]
  have powerPositive : 0 < 10 ^ places := Nat.pow_pos (by decide)
  rcases neighbours with rfl | rfl
  · exact Nat.lt_of_le_of_lt (Nat.div_mul_le_self value (10 ^ places)) small
  · have length : (Nat.toDigits 10 value).length ≤ 21 :=
      (Nat.length_toDigits_le_iff (by decide) (by decide)).mpr small
    have split : 10 ^ (Nat.toDigits 10 value).length =
        10 ^ ((Nat.toDigits 10 value).length - places) * 10 ^ places := by
      rw [← Nat.pow_add]
      congr 1
      omega
    have least : value / 10 ^ places < 10 ^ ((Nat.toDigits 10 value).length - places) := by
      rw [Nat.div_lt_iff_lt_mul powerPositive, ← split]
      exact lt_pow_length value
    have most : (value / 10 ^ places + 1) * 10 ^ places ≤ 10 ^ 21 := by
      calc (value / 10 ^ places + 1) * 10 ^ places
          ≤ 10 ^ ((Nat.toDigits 10 value).length - places) * 10 ^ places :=
            Nat.mul_le_mul_right _ least
        _ = 10 ^ (Nat.toDigits 10 value).length := split.symm
        _ ≤ 10 ^ 21 := Nat.pow_le_pow_right (by decide) length
    rcases Nat.lt_or_eq_of_le most with less | reached
    · exact less
    · have reads := readsAs_of_onGrid? found
      rw [Decimal.readsAs, decide_eq_true_iff, ofDecimal_large natural (same.trans reached)]
        at reads
      cases reads
      rw [units_large] at whole
      have equal := Nat.eq_of_mul_eq_mul_right Magnitude.unitsPerOne_pos whole
      omega

theorem exact_of_whole (positive : 0 < value)
    (whole : magnitude.units = value * Magnitude.unitsPerOne) :
    exact magnitude = Decimal.strip value 0 := by
  obtain ⟨places, isPlaces, one⟩ := Magnitude.unitsPerOne_eq
  have below : (-1074 : Int) = -(places : Int) := by omega
  have zero : -(places : Int) + places = 0 := by omega
  unfold exact
  rw [below, ← isPlaces, whole, one, Nat.pow_eq, Nat.mul_assoc, ← Nat.mul_pow,
    Decimal.strip_mul_pow positive, zero]

/-- The search for the shortest decimal ends at the place of ones at the latest. -/
theorem exponent_of_found (positive : 0 < value)
    (whole : magnitude.units = value * Magnitude.unitsPerOne) {decimal : Decimal}
    (found : ((List.range 17).findSome? fun (count : Nat) =>
      onGrid? magnitude (leadingPlaces magnitude - (count + 1 : Nat))) = some decimal) :
    ∃ places : Nat, places < (Nat.toDigits 10 value).length ∧
      onGrid? magnitude places = some decimal := by
  rw [leadingPlaces_of_whole positive whole] at found
  have some : 0 < (Nat.toDigits 10 value).length := Nat.length_toDigits_pos
  obtain ⟨before, count, after, split, onGrid, noneBefore⟩ :=
    List.findSome?_eq_some_iff.mp found
  have early : count < (Nat.toDigits 10 value).length := by
    rcases Nat.lt_or_ge count (Nat.toDigits 10 value).length with early | late
    · exact early
    · have inRange : count ∈ List.range 17 := by
        rw [split]
        simp
      have ordered : List.Pairwise (· < ·) (before ++ count :: after) :=
        split ▸ List.pairwise_lt_range
      have ones : (Nat.toDigits 10 value).length - 1 ∈ before ++ count :: after := by
        rw [← split, List.mem_range]
        rw [List.mem_range] at inRange
        omega
      have isBefore : (Nat.toDigits 10 value).length - 1 ∈ before := by
        rcases List.mem_append.mp ones with isBefore | later
        · exact isBefore
        · rcases List.mem_cons.mp later with here | further
          · omega
          · have above := List.rel_of_pairwise_cons (List.pairwise_append.mp ordered).2.1 further
            omega
      have nothing := noneBefore _ isBefore
      have zero : ((Nat.toDigits 10 value).length : Int) -
          (((Nat.toDigits 10 value).length - 1 + 1 : Nat) : Int) = 0 := by omega
      have something := isSome_onGrid?_zero (Magnitude.code_ne_zero (by
        rw [whole]
        exact Nat.mul_pos positive Magnitude.unitsPerOne_pos)) whole
      rw [zero] at nothing
      rw [nothing] at something
      cases something
  refine ⟨(Nat.toDigits 10 value).length - (count + 1), by omega, ?_⟩
  rw [← onGrid]
  congr 1
  omega

/-- The shortest decimal of a whole number below `10 ^ 21` is a whole number below
`10 ^ 21`. -/
theorem shortest_of_whole (positive : 0 < value) (small : value < 10 ^ 21)
    (whole : magnitude.units = value * Magnitude.unitsPerOne) :
    0 ≤ (shortest magnitude).exponent ∧
      (shortest magnitude).digits * 10 ^ (shortest magnitude).exponent.toNat < 10 ^ 21 := by
  unfold shortest
  cases found : (List.range 17).findSome? fun (count : Nat) =>
      onGrid? magnitude (leadingPlaces magnitude - (count + 1 : Nat)) with
  | none =>
      rw [Option.getD_none, exact_of_whole positive whole]
      obtain ⟨natural, same⟩ := value_strip value 0
      rw [Nat.pow_zero, Nat.mul_one] at same
      exact ⟨natural, Nat.lt_of_le_of_lt (Nat.le_of_eq same) small⟩
  | some decimal =>
      obtain ⟨places, shorter, onGrid⟩ := exponent_of_found positive whole found
      rw [Option.getD_some]
      exact value_of_onGrid? small whole shorter onGrid

end Whole

end ToolParams.Number
