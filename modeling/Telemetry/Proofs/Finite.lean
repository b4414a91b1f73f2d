/-
This file says which values are finite.

A value that is read from text is finite, and so is a count that sixty-four bits hold without a
sign. Such a count has a logarithm of at most sixty-three, so rounding it to fifty-three bits leaves
the exponent far below the one that infinities have.
-/

import Telemetry.Point.Value

namespace Telemetry

namespace Binary64

/-- Rounding a quotient gives one of its two whole neighbours. -/
theorem roundedQuotient_neighbour (numerator denominator : Nat) :
    roundedQuotient numerator denominator = numerator / denominator ∨
      roundedQuotient numerator denominator = numerator / denominator + 1 := by
  unfold roundedQuotient
  dsimp only
  split
  · exact .inl rfl
  · split
    · exact .inr rfl
    · split
      · exact .inl rfl
      · exact .inr rfl

theorem roundedQuotient_le (numerator denominator : Nat) :
    roundedQuotient numerator denominator ≤ numerator / denominator + 1 := by
  obtain below | above := roundedQuotient_neighbour numerator denominator <;> omega

theorem le_roundedQuotient (numerator denominator : Nat) :
    numerator / denominator ≤ roundedQuotient numerator denominator := by
  obtain below | above := roundedQuotient_neighbour numerator denominator <;> omega

/-- A number of sixty-four bits is scaled down by eleven of them. -/
theorem scaleOf_of_lt {number : Nat} (large : powerOfTwo 63 ≤ number)
    (small : number < powerOfTwo 64) : scaleOf number 1 = 11 := by
  have positive : number ≠ 0 := Nat.ne_of_gt (Nat.lt_of_lt_of_le (powerOfTwo_positive 63) large)
  have logarithm : number.log2 = 63 := by
    have below : number.log2 < 64 := (Nat.log2_lt positive).mpr small
    have above : 63 ≤ number.log2 := (Nat.le_log2 positive).mpr large
    omega
  have one : Nat.log2 1 = 0 := by decide
  have reached : reaches number 1 63 = true := by
    rw [reaches, if_pos (by decide), Nat.one_mul]
    exact decide_eq_true large
  rw [scaleOf, logarithm, one]
  show max ((if reaches number 1 63 = true then (63 : Int) else 63 - 1) - 52) leastExponent = 11
  rw [if_pos reached]
  decide

/-- The bits of a positive number whose exponent is small enough are the ones it is built from. -/
theorem toNat_bits_ofMagnitude {magnitude : Nat} (small : magnitude < 2047 * powerOfTwo 52) :
    (ofMagnitude false magnitude).bits.toNat = magnitude := by
  have largest : 2047 * powerOfTwo 52 < UInt64.size := by decide
  rw [ofMagnitude]
  simp only [Bool.false_eq_true, if_false, Nat.zero_add]
  exact UInt64.toNat_ofNat'.trans (Nat.mod_eq_of_lt (Nat.lt_trans small largest))

/-- The bits of a number whose exponent is small enough are not those of an infinity. -/
theorem isFinite_of_bits {magnitude : Nat} (small : magnitude < 2047 * powerOfTwo 52) :
    (ofMagnitude false magnitude).isFinite = true := by
  have exponent : (ofMagnitude false magnitude).exponentField < 2047 := by
    have quotient : magnitude / powerOfTwo 52 < 2047 :=
      (Nat.div_lt_iff_lt_mul (powerOfTwo_positive 52)).mpr small
    rw [exponentField, toNat_bits_ofMagnitude small]
    exact Nat.lt_of_le_of_lt (Nat.mod_le _ _) quotient
  exact bne_iff_ne.mpr (Nat.ne_of_lt exponent)

/-- Scaled down by eleven bits, a significand stays far below the bits of an infinity. -/
theorem magnitudeBits_lt {significand : Nat} (rounded : significand ≤ 2 * powerOfTwo 52) :
    magnitudeBits significand 11 < 2047 * powerOfTwo 52 := by
  have positive := powerOfTwo_positive 52
  have biased : (11 + 1075 : Int).toNat = 1086 := by decide
  rw [magnitudeBits, biased]
  dsimp only
  split
  · omega
  · split
    · omega
    · omega

theorem isFinite_ofNat {number : Nat} (large : powerOfTwo 63 ≤ number)
    (small : number < powerOfTwo 64) : (ofNat number).isFinite = true := by
  have positive : number ≠ 0 := Nat.ne_of_gt (Nat.lt_of_lt_of_le (powerOfTwo_positive 63) large)
  have rounded : roundedAt number 1 11 ≤ 2 * powerOfTwo 52 := by
    have product : 2 * powerOfTwo 52 * powerOfTwo 11 = powerOfTwo 64 := by decide
    have quotient : number / powerOfTwo 11 < 2 * powerOfTwo 52 :=
      (Nat.div_lt_iff_lt_mul (powerOfTwo_positive 11)).mpr (product ▸ small)
    have neighbour := roundedQuotient_le number (powerOfTwo 11)
    rw [roundedAt, if_pos (by decide), Nat.one_mul]
    exact Nat.le_trans neighbour quotient
  rw [ofNat, ofQuotient, if_neg positive, scaleOf_of_lt large small]
  exact isFinite_of_bits (magnitudeBits_lt rounded)

end Binary64

namespace Value

/-- A count of sixty-four bits is finite. -/
theorem isFinite_ofNat {number : Nat} (small : number < UInt64.size) :
    (ofNat number).isFinite = true := by
  rw [ofNat]
  split
  · rfl
  · rename_i large
    have half : powerOfTwo 63 = 9223372036854775808 := by decide
    refine Binary64.isFinite_ofNat (Nat.le_of_not_lt fun below => large ?_) small
    have least : Int64.minValue.toInt = -9223372036854775808 := rfl
    have greatest : Int64.maxValue.toInt = 9223372036854775807 := rfl
    rw [fitsInt64, least, greatest, Bool.and_eq_true]
    exact ⟨decide_eq_true (by omega), decide_eq_true (by omega)⟩

/-- A value that is read from text is finite. -/
theorem isFinite_ofText {text : String} {value : Value} (success : ofText text = .ok value) :
    value.isFinite = true := by
  unfold ofText at success
  split at success
  · rw [← Except.ok.inj success]
    rfl
  · split at success
    · cases success
    · split at success
      · rename_i finite
        rw [← Except.ok.inj success]
        exact finite
      · cases success

end Value

end Telemetry
