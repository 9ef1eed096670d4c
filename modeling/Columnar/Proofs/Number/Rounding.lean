import Mathlib.Algebra.Order.Field.Power
import Mathlib.Data.Rat.Cast.Order
import Mathlib.Tactic.Positivity
import Columnar.Number.Rounding
/-!
# Rounding by value

Rounding a ratio depends on its value alone. It gives a member of the format in the one form that the
format has for it (`holds_of_round`), and it gives each member back (`round_of_value_eq`).
-/

set_option autoImplicit false

namespace Columnar.Number

/-- The value of a ratio. -/
def Ratio.value (r : Ratio) : ℚ := r.num / r.den

/-- The value of a dyadic number. -/
def Dyadic.value (d : Dyadic) : ℚ := d.significand * 2 ^ d.unit

/-- A power of two with an integer exponent is a quotient of two powers, of which one is one. -/
theorem zpow_eq_div (power : Int) : (2 : ℚ) ^ power = 2 ^ power.toNat / 2 ^ (-power).toNat := by
  obtain up | down := Int.le_total 0 power
  · rw [Int.toNat_eq_zero.mpr (Int.neg_nonpos_of_nonneg up), pow_zero, div_one, ← zpow_natCast,
      Int.toNat_of_nonneg up]
  · rw [Int.toNat_eq_zero.mpr down, pow_zero, ← zpow_natCast,
      Int.toNat_of_nonneg (Int.neg_nonneg_of_nonpos down), zpow_neg, one_div, inv_inv]

namespace Ratio

variable {r : Ratio}

/-- A ratio stays a ratio when it is scaled. -/
theorem den_scale_pos (positive : 0 < r.den) (power : Int) : 0 < (r.scale power).den :=
  Nat.mul_pos positive (Nat.pow_pos Nat.two_pos)

/-- Scaling a ratio by a power of two scales its value. -/
theorem value_scale (r : Ratio) (power : Int) : (r.scale power).value = r.value * 2 ^ power := by
  have num : ((r.scale power).num : ℚ) = r.num * 2 ^ power.toNat := by
    push_cast [scale, Nat.pow_eq]
    rfl
  have den : ((r.scale power).den : ℚ) = r.den * 2 ^ (-power).toNat := by
    push_cast [scale, Nat.pow_eq]
    rfl
  rw [value, num, den, value, zpow_eq_div, mul_div_mul_comm]

/-- An integer below a ratio is below what the ratio is rounded to. -/
theorem le_nearest (positive : 0 < r.den) {n : Nat} (least : (n : ℚ) ≤ r.value) : n ≤ r.nearest := by
  have whole : n ≤ r.num / r.den := by
    rw [Nat.le_div_iff_mul_le positive]
    rw [value, le_div_iff₀ (by exact_mod_cast positive)] at least
    exact_mod_cast least
  unfold nearest
  dsimp only
  split
  · exact whole
  · split <;> omega

/-- An integer above a ratio is above what the ratio is rounded to. -/
theorem nearest_le (positive : 0 < r.den) {n : Nat} (most : r.value ≤ n) : r.nearest ≤ n := by
  have product : r.num ≤ n * r.den := by
    rw [value, div_le_iff₀ (by exact_mod_cast positive)] at most
    exact_mod_cast most
  unfold nearest
  dsimp only
  obtain whole | less := Nat.eq_or_lt_of_le product
  · have none : 2 * (r.num % r.den) < r.den := by
      rw [whole, Nat.mul_mod_left, Nat.mul_zero]
      exact positive
    rw [if_pos none, whole, Nat.mul_div_cancel n positive]
  · have below : r.num / r.den < n := (Nat.div_lt_iff_lt_mul positive).mpr less
    split
    · omega
    · split <;> omega

/-- An integer is rounded to itself. -/
theorem nearest_eq (positive : 0 < r.den) {n : Nat} (whole : r.value = n) : r.nearest = n :=
  Nat.le_antisymm (nearest_le positive (le_of_eq whole)) (le_nearest positive (le_of_eq whole.symm))

/-- A ratio is at least a power of two if it is at least one once it is divided by that power. -/
theorem den_le_num_scale_iff (positive : 0 < r.den) (power : Int) :
    (r.scale (-power)).den ≤ (r.scale (-power)).num ↔ (2 : ℚ) ^ power ≤ r.value := by
  have den : (0 : ℚ) < (r.scale (-power)).den := by exact_mod_cast den_scale_pos positive _
  have scaled := value_scale r (-power)
  rw [zpow_neg, ← div_eq_mul_inv] at scaled
  rw [← one_le_div₀ (by positivity : (0 : ℚ) < 2 ^ power), ← scaled, value, one_le_div₀ den]
  exact_mod_cast Iff.rfl

/-- A number lies between the powers of two that its logarithm names, also among the rationals. -/
theorem log2_cast_spec {n : Nat} (some : 0 < n) :
    (2 : ℚ) ^ (n.log2 : Int) ≤ n ∧ (n : ℚ) < 2 ^ ((n.log2 : Int) + 1) := by
  have low := Nat.log2_self_le (Nat.pos_iff_ne_zero.mp some)
  have high : n < 2 ^ (n.log2 + 1) := Nat.lt_log2_self
  constructor
  · rw [zpow_natCast]
    exact_mod_cast low
  · exact_mod_cast high

/-- The difference of the logarithms of the two parts is the logarithm of a ratio or one more. -/
theorem log2_sub_spec (some : 0 < r.num) (positive : 0 < r.den) :
    (2 : ℚ) ^ ((r.num.log2 : Int) - r.den.log2 - 1) ≤ r.value ∧
      r.value < 2 ^ ((r.num.log2 : Int) - r.den.log2 + 1) := by
  have den : (0 : ℚ) < r.den := by exact_mod_cast positive
  obtain ⟨numLow, numHigh⟩ := log2_cast_spec some
  obtain ⟨denLow, denHigh⟩ := log2_cast_spec positive
  have product : ∀ power other : Int, (2 : ℚ) ^ power * 2 ^ other = 2 ^ (power + other) :=
    fun power other => (zpow_add₀ two_ne_zero power other).symm
  -- Each bound takes the numerator from one side and the denominator from the other.
  constructor
  · rw [value, le_div_iff₀ den]
    calc (2 : ℚ) ^ ((r.num.log2 : Int) - r.den.log2 - 1) * r.den
        ≤ 2 ^ ((r.num.log2 : Int) - r.den.log2 - 1) * 2 ^ ((r.den.log2 : Int) + 1) :=
        mul_le_mul_of_nonneg_left denHigh.le (by positivity)
      _ = 2 ^ (r.num.log2 : Int) := by
        rw [product]
        congr 1
        omega
      _ ≤ r.num := numLow
  · rw [value, div_lt_iff₀ den]
    calc (r.num : ℚ) < 2 ^ ((r.num.log2 : Int) + 1) := numHigh
      _ = 2 ^ ((r.num.log2 : Int) - r.den.log2 + 1) * 2 ^ (r.den.log2 : Int) := by
        rw [product]
        congr 1
        omega
      _ ≤ 2 ^ ((r.num.log2 : Int) - r.den.log2 + 1) * r.den :=
        mul_le_mul_of_nonneg_left denLow (by positivity)

/-- The logarithm of a positive ratio is that of its value. -/
theorem log2_spec (some : 0 < r.num) (positive : 0 < r.den) :
    (2 : ℚ) ^ r.log2 ≤ r.value ∧ r.value < 2 ^ (r.log2 + 1) := by
  obtain ⟨low, high⟩ := log2_sub_spec some positive
  have test := den_le_num_scale_iff positive ((r.num.log2 : Int) - r.den.log2)
  unfold log2
  dsimp only
  split
  · next enough => exact ⟨test.mp enough, high⟩
  · next short =>
    refine ⟨low, ?_⟩
    rw [Int.sub_add_cancel]
    exact lt_of_not_ge fun enough => short (test.mpr enough)

/-- A power of two above a ratio is not exceeded when the ratio is rounded to a multiple of a unit. -/
theorem nearest_scale_le (positive : 0 < r.den) {width : Nat} {unit : Int}
    (most : r.value ≤ (2 : ℚ) ^ ((width : Int) + unit)) : (r.scale (-unit)).nearest ≤ 2 ^ width := by
  refine nearest_le (den_scale_pos positive _) ?_
  calc (r.scale (-unit)).value = r.value * 2 ^ (-unit) := value_scale r _
    _ ≤ 2 ^ ((width : Int) + unit) * 2 ^ (-unit) :=
      mul_le_mul_of_nonneg_right most (by positivity)
    _ = ((2 ^ width : Nat) : ℚ) := by
      rw [← zpow_add₀ two_ne_zero, Int.add_neg_cancel_right, zpow_natCast]
      norm_cast

/-- A power of two below a ratio is reached when the ratio is rounded to a multiple of a unit. -/
theorem le_nearest_scale (positive : 0 < r.den) {width : Nat} {unit : Int}
    (least : (2 : ℚ) ^ ((width : Int) + unit) ≤ r.value) : 2 ^ width ≤ (r.scale (-unit)).nearest := by
  refine le_nearest (den_scale_pos positive _) ?_
  calc ((2 ^ width : Nat) : ℚ)
      = 2 ^ ((width : Int) + unit) * 2 ^ (-unit) := by
        rw [← zpow_add₀ two_ne_zero, Int.add_neg_cancel_right, zpow_natCast]
        norm_cast
    _ ≤ r.value * 2 ^ (-unit) := mul_le_mul_of_nonneg_right least (by positivity)
    _ = (r.scale (-unit)).value := (value_scale r _).symm

end Ratio

/-- A member of a format is a ratio. -/
theorem Dyadic.den_ratio_pos (d : Dyadic) : 0 < d.ratio.den := Nat.pow_pos Nat.two_pos

/-- As a ratio a member of a format has the same value. -/
theorem Dyadic.value_ratio (d : Dyadic) : d.ratio.value = d.value := by
  have num : (d.ratio.num : ℚ) = d.significand * 2 ^ d.unit.toNat := by
    push_cast [Dyadic.ratio, Nat.pow_eq]
    rfl
  have den : (d.ratio.den : ℚ) = 2 ^ (-d.unit).toNat := by
    push_cast [Dyadic.ratio, Nat.pow_eq]
    rfl
  rw [Ratio.value, num, den, Dyadic.value, zpow_eq_div, mul_div_assoc]

namespace BinaryFormat

/-- A number in the form that a format has for it: its significand is as wide as the format allows,
unless its unit is the least. -/
structure Holds (format : BinaryFormat) (d : Dyadic) : Prop where
  significand_lt : d.significand < 2 ^ format.width
  wide : d.unit = format.minUnit ∨ 2 ^ (format.width - 1) ≤ d.significand
  minUnit_le : format.minUnit ≤ d.unit
  unit_le : d.unit ≤ format.maxUnit

/-- A format with at least one bit and one unit. -/
structure Sound (format : BinaryFormat) : Prop where
  width_pos : 0 < format.width
  units : format.minUnit ≤ format.maxUnit

/-- The 64-bit format is sound. -/
theorem sound_double : double.Sound := ⟨by decide, by decide⟩

/-- The 32-bit format is sound. -/
theorem sound_single : single.Sound := ⟨by decide, by decide⟩

variable {format : BinaryFormat} {r : Ratio} {d : Dyadic}

/-- The unit that a member of a format is rounded with is its own. -/
theorem max_log2_eq_unit (sound : format.Sound) (holds : format.Holds d) (some : 0 < r.num)
    (positive : 0 < r.den) (same : r.value = d.value) :
    max format.minUnit (r.log2 - (format.width - 1)) = d.unit := by
  have width := sound.width_pos
  have power : (0 : ℚ) < 2 ^ d.unit := by positivity
  have high : r.value < 2 ^ ((format.width : Int) + d.unit) := by
    rw [same, Dyadic.value, zpow_add₀ two_ne_zero, zpow_natCast]
    exact mul_lt_mul_of_pos_right (by exact_mod_cast holds.significand_lt) power
  obtain ⟨low', high'⟩ := Ratio.log2_spec some positive
  have below := (zpow_lt_zpow_iff_right₀ one_lt_two).mp (lt_of_le_of_lt low' high)
  have least := holds.minUnit_le
  obtain lowest | wide := holds.wide
  · omega
  · have low : (2 : ℚ) ^ ((format.width : Int) - 1 + d.unit) ≤ r.value := by
      rw [same, Dyadic.value, zpow_add₀ two_ne_zero, ← Nat.cast_pred width, zpow_natCast]
      exact mul_le_mul_of_nonneg_right (by exact_mod_cast wide) power.le
    have above := (zpow_lt_zpow_iff_right₀ one_lt_two).mp (lt_of_le_of_lt low high')
    omega

/-- A ratio that is a member of a format is rounded to that member. -/
theorem round_of_value_eq (sound : format.Sound) (holds : format.Holds d) (positive : 0 < r.den)
    (same : r.value = d.value) : format.round r = some d := by
  have power : (2 : ℚ) ^ d.unit ≠ 0 := zpow_ne_zero _ two_ne_zero
  unfold round
  by_cases zero : r.num = 0
  · have none : d.significand = 0 := by
      rw [Ratio.value, zero, Nat.cast_zero, zero_div, Dyadic.value, eq_comm, mul_eq_zero] at same
      exact_mod_cast same.resolve_right power
    have lowest : d.unit = format.minUnit := by
      obtain lowest | wide := holds.wide
      · exact lowest
      · rw [none] at wide
        exact absurd wide (Nat.not_le.mpr (Nat.pow_pos Nat.two_pos))
    rw [if_pos zero, ← none, ← lowest]
  · have some : 0 < r.num := Nat.pos_of_ne_zero zero
    have scaled : (r.scale (-d.unit)).value = d.significand := by
      rw [Ratio.value_scale, same, Dyadic.value, zpow_neg, mul_inv_cancel_right₀ power]
    have exact : (r.scale (-d.unit)).nearest = d.significand :=
      Ratio.nearest_eq (Ratio.den_scale_pos positive _) scaled
    have notAll : d.significand ≠ Nat.pow 2 format.width := Nat.ne_of_lt holds.significand_lt
    rw [if_neg zero]
    simp only [max_log2_eq_unit sound holds some positive same, exact, if_neg notAll,
      if_neg (Int.not_lt.mpr holds.unit_le)]

/-- What a ratio is rounded to is a member of the format. -/
theorem holds_of_round (sound : format.Sound) (positive : 0 < r.den)
    (rounded : format.round r = some d) : format.Holds d := by
  have width := sound.width_pos
  have one : (1 : Nat) ≤ 2 ^ (format.width - 1) := Nat.one_le_two_pow
  unfold round at rounded
  by_cases zero : r.num = 0
  · rw [if_pos zero] at rounded
    cases rounded
    exact ⟨Nat.pow_pos Nat.two_pos, .inl rfl, Int.le_refl _, sound.units⟩
  · obtain ⟨low, high⟩ := Ratio.log2_spec (Nat.pos_of_ne_zero zero) positive
    rw [if_neg zero] at rounded
    dsimp only at rounded
    generalize chosen : max format.minUnit (r.log2 - (format.width - 1)) = unit at rounded
    -- The unit is chosen so that the mantissa fills the width, or is that of the least members.
    -- Rounding up may bring it to the next power of two, and then it is carried.
    have most : (r.scale (-unit)).nearest ≤ 2 ^ format.width :=
      Ratio.nearest_scale_le positive
        (high.le.trans (zpow_le_zpow_right₀ one_le_two (by omega)))
    have least : unit = format.minUnit ∨ 2 ^ (format.width - 1) ≤ (r.scale (-unit)).nearest := by
      by_cases lowest : unit = format.minUnit
      · exact .inl lowest
      · have exponent : ((format.width - 1 : Nat) : Int) + unit = r.log2 := by omega
        exact .inr (Ratio.le_nearest_scale positive (exponent ▸ low))
    split at rounded
    · next carried =>
      split at rounded
      · cases rounded
      · next inside =>
        cases rounded
        exact ⟨Nat.pow_lt_pow_right (by decide) (by omega), .inr (Nat.le_refl _),
          by dsimp only; omega, Int.not_lt.mp inside⟩
    · next kept =>
      split at rounded
      · cases rounded
      · next inside =>
        cases rounded
        exact ⟨lt_of_le_of_ne most kept, least, by dsimp only; omega, Int.not_lt.mp inside⟩

end BinaryFormat

end Columnar.Number
