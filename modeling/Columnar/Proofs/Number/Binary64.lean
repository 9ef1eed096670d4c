import Mathlib.Tactic.FieldSimp
import Columnar.Number.Binary64
import Columnar.Proofs.Number.Rounding
/-!
# Rounding to single width twice

A member of the 64-bit format keeps its sign and its magnitude in its bits. Every member of the 32-bit
format has the value of one of them, so a number that was rounded to single width is its own rounding
(`toSingle_toSingle`).
-/

set_option autoImplicit false

namespace Columnar.Number.Binary64

/-! ### Fields -/

section

variable {negative : Bool} {exponent fraction : Nat}

/-- Sign, exponent and fraction stand side by side in the word; none reaches into the next. -/
theorem toNat_bits_ofFields (small : exponent < 2 ^ 11) (less : fraction < 2 ^ 52) :
    (ofFields negative exponent fraction).bits.toNat =
      (if negative then 2 ^ 63 else 0) + exponent * 2 ^ 52 + fraction := by
  unfold ofFields
  rw [UInt64.toNat_ofNat']
  simp only [Nat.pow_eq]
  refine Nat.mod_eq_of_lt ?_
  split <;> omega

/-- The sign is read back from the word. -/
theorem isNegative_ofFields (small : exponent < 2 ^ 11) (less : fraction < 2 ^ 52) :
    (ofFields negative exponent fraction).isNegative = negative := by
  rw [isNegative, toNat_bits_ofFields small less, Nat.pow_eq]
  cases negative <;> simp <;> omega

/-- The exponent is read back from the word. -/
theorem exponentField_ofFields (small : exponent < 2 ^ 11) (less : fraction < 2 ^ 52) :
    (ofFields negative exponent fraction).exponentField = exponent := by
  rw [exponentField, toNat_bits_ofFields small less, Nat.pow_eq, Nat.pow_eq]
  split <;> omega

/-- The fraction is read back from the word. -/
theorem fractionField_ofFields (small : exponent < 2 ^ 11) (less : fraction < 2 ^ 52) :
    (ofFields negative exponent fraction).fractionField = fraction := by
  rw [fractionField, toNat_bits_ofFields small less, Nat.pow_eq]
  split <;> omega

end

/-- Infinity is not finite, whichever its sign. -/
theorem isFinite_infinity (negative : Bool) : (infinity negative).isFinite = false := by
  cases negative <;> decide

/-! ### Members of the format -/

section

variable {d : Dyadic}

/-- A member keeps its sign and its magnitude. -/
theorem ofDyadic_spec (holds : BinaryFormat.double.Holds d) (negative : Bool) :
    (ofDyadic negative d).isNegative = negative ∧ (ofDyadic negative d).magnitude = d := by
  obtain ⟨significand, unit⟩ := d
  obtain ⟨less, wide, least, most⟩ := holds
  simp only [BinaryFormat.double] at less wide least most
  unfold ofDyadic
  simp only [Nat.pow_eq]
  by_cases subnormal : significand < 2 ^ 52
  · have lowest : unit = -1074 := by omega
    rw [if_pos subnormal]
    refine ⟨isNegative_ofFields (by decide) subnormal, ?_⟩
    rw [magnitude, if_pos (exponentField_ofFields (by decide) subnormal),
      fractionField_ofFields (by decide) subnormal, lowest]
  · have exponent : (unit + 1075).toNat < 2 ^ 11 := by omega
    have fraction : significand - 2 ^ 52 < 2 ^ 52 := by omega
    have normal : (unit + 1075).toNat ≠ 0 := by omega
    have unitBack : ((unit + 1075).toNat : Int) - 1075 = unit := by omega
    have significandBack : 2 ^ 52 + (significand - 2 ^ 52) = significand := by omega
    rw [if_neg subnormal]
    refine ⟨isNegative_ofFields exponent fraction, ?_⟩
    rw [magnitude, exponentField_ofFields exponent fraction, if_neg normal,
      fractionField_ofFields exponent fraction, Nat.pow_eq, unitBack, significandBack]

/-- A number of single width is one of double width. -/
theorem exists_double_of_single (holds : BinaryFormat.single.Holds d) :
    ∃ wide, BinaryFormat.double.Holds wide ∧ wide.value = d.value := by
  obtain ⟨significand, unit⟩ := d
  obtain ⟨less, -, least, most⟩ := holds
  simp only [BinaryFormat.single] at less least most
  by_cases zero : significand = 0
  · refine ⟨⟨0, -1074⟩, ⟨by decide, .inl rfl, by decide, by decide⟩, ?_⟩
    simp [Dyadic.value, zero]
  -- The significand moves up until it is 53 bits wide.
  · have places : significand.log2 < 24 := (Nat.log2_lt zero).mpr less
    have low := Nat.log2_self_le zero
    have high : significand < 2 ^ (significand.log2 + 1) := Nat.lt_log2_self
    have up : 2 ^ significand.log2 * 2 ^ (52 - significand.log2) = 2 ^ 52 := by
      rw [← Nat.pow_add]
      congr 1
      omega
    refine ⟨⟨significand * 2 ^ (52 - significand.log2), unit - (52 - significand.log2 : Nat)⟩,
      ⟨?_, .inr ?_, ?_, ?_⟩, ?_⟩
    · dsimp only [BinaryFormat.double]
      calc significand * 2 ^ (52 - significand.log2)
          < 2 ^ (significand.log2 + 1) * 2 ^ (52 - significand.log2) :=
            Nat.mul_lt_mul_of_pos_right high (Nat.pow_pos Nat.two_pos)
        _ = 2 ^ 53 := by
            rw [← Nat.pow_add]
            congr 1
            omega
    · dsimp only [BinaryFormat.double]
      exact up ▸ Nat.mul_le_mul_right _ low
    · dsimp only [BinaryFormat.double]
      omega
    · dsimp only [BinaryFormat.double]
      omega
    · rw [Dyadic.value, Dyadic.value]
      dsimp only
      rw [zpow_sub₀ two_ne_zero, zpow_natCast]
      push_cast
      field_simp

end

/-! ### Rounding to single width -/

/-- A ratio with the value of a member of the format is rounded to this member. -/
theorem ofRatio_of_holds {d wide : Dyadic} (holds : BinaryFormat.double.Holds wide)
    (same : wide.value = d.value) (negative : Bool) :
    ofRatio negative d.ratio = ofDyadic negative wide := by
  have value : d.ratio.value = wide.value := by rw [Dyadic.value_ratio, same]
  rw [ofRatio, BinaryFormat.round_of_value_eq BinaryFormat.sound_double holds d.den_ratio_pos value]

/-- A number of single width is its own rounding, and any other is rounded to an infinity. -/
theorem toSingle_toSingle {x : Binary64} (finite : x.toSingle.isFinite = true) :
    x.toSingle.toSingle = x.toSingle := by
  cases rounded : BinaryFormat.single.round x.magnitude.ratio with
  | none =>
    rw [toSingle, rounded] at finite
    exact absurd finite (by rw [isFinite_infinity]; exact Bool.false_ne_true)
  | some d =>
    have holds := BinaryFormat.holds_of_round BinaryFormat.sound_single x.magnitude.den_ratio_pos
      rounded
    obtain ⟨wide, holdsWide, same⟩ := exists_double_of_single holds
    have first : x.toSingle = ofDyadic x.isNegative wide := by
      rw [toSingle, rounded]
      exact ofRatio_of_holds holdsWide same _
    obtain ⟨sign, magnitude⟩ := ofDyadic_spec holdsWide x.isNegative
    have value : wide.ratio.value = d.value := by rw [Dyadic.value_ratio, same]
    have again := BinaryFormat.round_of_value_eq BinaryFormat.sound_single holds wide.den_ratio_pos
      value
    rw [first, toSingle, sign, magnitude, again]
    exact ofRatio_of_holds holdsWide same _

end Columnar.Number.Binary64
