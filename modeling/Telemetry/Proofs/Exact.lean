/-
This file says which exact numbers the bits of a floating point number stand for.

A number is a significand of at most fifty-three bits times a power of two. The power tells how
fine the numbers are there: a number with a smaller power than another one is a good deal smaller,
so from some size on all numbers are whole multiples of one power of two, and different bits stand
for different numbers. The two zeros are the only exception.
-/

import Mathlib.Algebra.Order.Field.Power
import Mathlib.Algebra.Order.Field.Rat
import Mathlib.Tactic.Linarith
import Mathlib.Tactic.NormNum
import Mathlib.Tactic.Positivity
import Mathlib.Tactic.Ring
import Telemetry.Proofs.Finite

namespace Telemetry

namespace Binary64

/-- The exact number that the bits of a finite number stand for. -/
def exact (number : Binary64) : ℚ :=
  (if number.isNegative then -1 else 1) * (number.significand * 2 ^ number.scale)

theorem abs_exact (number : Binary64) :
    |number.exact| = number.significand * 2 ^ number.scale := by
  have magnitude : (0 : ℚ) ≤ number.significand * 2 ^ number.scale := by positivity
  unfold exact
  split
  · rw [neg_one_mul, abs_neg, abs_of_nonneg magnitude]
  · rw [one_mul, abs_of_nonneg magnitude]

/-! ### Size and power -/

theorem fractionField_lt (number : Binary64) : number.fractionField < powerOfTwo 52 :=
  Nat.mod_lt _ (powerOfTwo_positive 52)

theorem significand_lt (number : Binary64) : number.significand < 2 * powerOfTwo 52 := by
  have fraction := number.fractionField_lt
  unfold significand
  split <;> omega

/-- A number with a smaller power than another one has fewer than fifty-three bits before it. -/
theorem abs_exact_lt {number : Binary64} {power : ℤ} (fine : number.scale < power) :
    |number.exact| < powerOfTwo 52 * 2 ^ power := by
  have shorter : (number.significand : ℚ) < 2 * powerOfTwo 52 := by
    exact_mod_cast number.significand_lt
  have lower : (2 : ℚ) ^ number.scale ≤ 2 ^ (power - 1) :=
    zpow_le_zpow_right₀ one_le_two (Int.le_sub_one_of_lt fine)
  have whole : (2 : ℚ) ^ power = 2 * 2 ^ (power - 1) := by
    rw [← zpow_one_add₀ two_ne_zero]
    congr 1
    ring
  calc |number.exact|
      = number.significand * 2 ^ number.scale := number.abs_exact
    _ ≤ number.significand * 2 ^ (power - 1) := by gcongr
    _ < 2 * powerOfTwo 52 * 2 ^ (power - 1) := by gcongr
    _ = powerOfTwo 52 * 2 ^ power := by rw [whole]; ring

/-- Every power but the least one comes with fifty-three bits. -/
theorem le_abs_exact {number : Binary64} (normal : leastExponent < number.scale) :
    powerOfTwo 52 * 2 ^ number.scale ≤ |number.exact| := by
  have exponent : number.exponentField ≠ 0 := fun least => by
    rw [scale, if_pos least] at normal
    exact Int.lt_irrefl _ normal
  have long : (powerOfTwo 52 : ℚ) ≤ number.significand := by
    rw [significand, if_neg exponent]
    exact_mod_cast Nat.le_add_right _ _
  rw [abs_exact]
  gcongr

theorem leastExponent_le_scale (number : Binary64) : leastExponent ≤ number.scale := by
  have least : leastExponent = -1074 := rfl
  unfold scale
  split <;> omega

/-- From fifty-three bits on only whole multiples of a power of two are representable, and the last
bit of the significand is one only where the multiple is odd. -/
theorem exact_multiple_or_lt (number : Binary64) (power : ℤ) :
    (∃ whole : ℤ, number.exact = whole * 2 ^ power ∧
        (number.significand % 2 = 0 → whole % 2 = 0)) ∨
      |number.exact| < powerOfTwo 52 * 2 ^ power := by
  rcases le_or_gt power number.scale with coarse | fine
  · obtain ⟨difference, scale⟩ := Int.le.dest coarse
    refine .inl ⟨(if number.isNegative then -1 else 1) * (number.significand * 2 ^ difference),
      ?_, fun even => ?_⟩
    · rw [exact, ← scale, zpow_add₀ two_ne_zero, zpow_natCast]
      push_cast
      ring
    · have half : (2 : ℤ) ∣ number.significand := by omega
      exact Int.emod_eq_zero_of_dvd ((half.mul_right _).mul_left _)
  · exact .inr (abs_exact_lt fine)

/-! ### Bits and numbers -/

theorem scale_le_of_abs_exact_eq {first second : Binary64}
    (same : |first.exact| = |second.exact|) : first.scale ≤ second.scale := by
  by_contra finer
  have below := abs_exact_lt (Int.not_le.mp finer)
  have long := le_abs_exact (second.leastExponent_le_scale.trans_lt (Int.not_le.mp finer))
  exact absurd (same ▸ long) (not_le.mpr below)

theorem isNegative_iff {number : Binary64} (nonzero : number.exact ≠ 0) :
    number.isNegative = true ↔ number.exact < 0 := by
  have positive : (0 : ℚ) < number.significand * 2 ^ number.scale :=
    number.abs_exact ▸ abs_pos.mpr nonzero
  unfold exact
  cases number.isNegative with
  | true => simpa using positive
  | false => simpa using positive.le

/-- The two parts of a number tell its exponent and its fraction. -/
theorem fields_eq {first second : Binary64} (power : first.scale = second.scale)
    (digits : first.significand = second.significand) :
    first.exponentField = second.exponentField ∧ first.fractionField = second.fractionField := by
  have fraction := first.fractionField_lt
  have otherFraction := second.fractionField_lt
  have least : leastExponent = -1074 := rfl
  unfold scale at power
  unfold significand at digits
  by_cases subnormal : first.exponentField = 0 <;>
    by_cases otherSubnormal : second.exponentField = 0 <;>
      simp only [subnormal, otherSubnormal, if_true, if_false] at power digits <;>
      omega

/-- The bits are the sign, the exponent and the fraction. -/
theorem bits_eq {first second : Binary64} (sign : first.isNegative = second.isNegative)
    (exponent : first.exponentField = second.exponentField)
    (fraction : first.fractionField = second.fractionField) : first = second := by
  have width : powerOfTwo 52 = 4503599627370496 := by decide
  have eleven : powerOfTwo 11 = 2048 := by decide
  have half : powerOfTwo 63 = 9223372036854775808 := by decide
  have small := first.bits.toNat_lt
  have otherSmall := second.bits.toNat_lt
  unfold isNegative at sign
  unfold exponentField at exponent
  unfold fractionField at fraction
  rw [half, decide_eq_decide] at sign
  rw [width, eleven] at exponent
  rw [width] at fraction
  have bits : first.bits = second.bits := UInt64.toNat_inj.mp (by omega)
  exact congrArg mk bits

/-- Numbers but zero that stand for the same have the same bits. -/
theorem eq_of_exact_eq {first second : Binary64} (same : first.exact = second.exact)
    (nonzero : first.exact ≠ 0) : first = second := by
  have size : |first.exact| = |second.exact| := congrArg _ same
  have power : first.scale = second.scale :=
    le_antisymm (scale_le_of_abs_exact_eq size) (scale_le_of_abs_exact_eq size.symm)
  have digits : first.significand = second.significand := by
    rw [abs_exact, abs_exact, power] at size
    exact_mod_cast mul_right_cancel₀ (zpow_ne_zero _ two_ne_zero) size
  have sign : first.isNegative = second.isNegative :=
    Bool.eq_iff_iff.mpr <| (isNegative_iff nonzero).trans <|
      same ▸ (isNegative_iff (same ▸ nonzero)).symm
  obtain ⟨exponent, fraction⟩ := fields_eq power digits
  exact bits_eq sign exponent fraction

/-- The exponent and the fraction of a positive number are the two parts of its bits. -/
theorem fields_ofMagnitude {biased fraction : Nat} (normal : 0 < biased) (finite : biased < 2047)
    (short : fraction < powerOfTwo 52) :
    (ofMagnitude false (biased * powerOfTwo 52 + fraction)).significand = powerOfTwo 52 + fraction ∧
      (ofMagnitude false (biased * powerOfTwo 52 + fraction)).exact =
        (powerOfTwo 52 + fraction : ℕ) * 2 ^ ((biased : ℤ) - 1075) := by
  have width : powerOfTwo 52 = 4503599627370496 := by decide
  have eleven : powerOfTwo 11 = 2048 := by decide
  have half : powerOfTwo 63 = 9223372036854775808 := by decide
  rw [width] at short ⊢
  have bits := toNat_bits_ofMagnitude
    (show biased * 4503599627370496 + fraction < 2047 * powerOfTwo 52 by omega)
  generalize ofMagnitude false (biased * 4503599627370496 + fraction) = number at bits ⊢
  have exponent : number.exponentField = biased := by
    rw [exponentField, bits, width, eleven]
    omega
  have rest : number.fractionField = fraction := by
    rw [fractionField, bits, width]
    omega
  have sign : number.isNegative = false := by
    rw [isNegative, bits, half]
    exact decide_eq_false (by omega)
  have digits : number.significand = 4503599627370496 + fraction := by
    rw [significand, exponent, rest, if_neg (by omega), width]
  have power : number.scale = biased - 1075 := by
    rw [scale, exponent, if_neg (by omega)]
  refine ⟨digits, ?_⟩
  rw [exact, digits, sign, power, if_neg Bool.false_ne_true, one_mul]

/-- The number with a given significand and exponent is their product. A significand of fifty-four
bits carries: the exponent grows by one and the significand is halved. -/
theorem exact_magnitudeBits {multiple : Nat} {power : ℤ} (least : powerOfTwo 52 ≤ multiple)
    (greatest : multiple ≤ 2 * powerOfTwo 52) (normal : leastExponent ≤ power)
    (finite : power < 971) :
    (ofMagnitude false (magnitudeBits multiple power)).exact = multiple * 2 ^ power ∧
      (multiple % 2 = 0 →
        (ofMagnitude false (magnitudeBits multiple power)).significand % 2 = 0) := by
  have width : powerOfTwo 52 = 4503599627370496 := by decide
  have lowest : leastExponent = -1074 := rfl
  have biased : ((power + 1075).toNat : ℤ) = power + 1075 := by omega
  have below : (power + 1075).toNat * powerOfTwo 52 + (multiple - powerOfTwo 52) <
      2047 * powerOfTwo 52 := by
    rw [width] at greatest ⊢
    omega
  rw [magnitudeBits, if_neg (by omega)]
  dsimp only
  rw [if_neg (by omega)]
  rcases greatest.lt_or_eq with short | carries
  · have fields := fields_ofMagnitude (show 0 < (power + 1075).toNat by omega)
      (show (power + 1075).toNat < 2047 by omega)
      (show multiple - powerOfTwo 52 < powerOfTwo 52 by omega)
    rw [Nat.add_sub_cancel' least, biased, add_sub_cancel_right] at fields
    exact ⟨fields.2, fun even => fields.1.symm ▸ even⟩
  · have fields := fields_ofMagnitude (show 0 < (power + 1075).toNat + 1 by omega)
      (show (power + 1075).toNat + 1 < 2047 by omega) (powerOfTwo_positive 52)
    have sum : (power + 1075).toNat * powerOfTwo 52 + (multiple - powerOfTwo 52) =
        ((power + 1075).toNat + 1) * powerOfTwo 52 + 0 := by
      rw [Nat.succ_mul]
      omega
    have raised : (((power + 1075).toNat + 1 : ℕ) : ℤ) - 1075 = power + 1 := by omega
    rw [raised, Nat.add_zero, Nat.add_zero] at fields
    rw [sum, Nat.add_zero]
    refine ⟨?_, fun _ => ?_⟩
    · rw [fields.2, carries, zpow_add_one₀ two_ne_zero]
      push_cast
      ring
    · rw [fields.1, width]

end Binary64

end Telemetry
