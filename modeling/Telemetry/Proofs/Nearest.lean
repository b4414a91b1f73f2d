/-
This file says that rounding takes the nearest representable number, and of two equally near ones
the one whose last bit is zero.

The representable numbers near a target are the whole multiples of one power of two, and below them
lie only smaller ones. So a multiple that is nearest among the multiples is nearest among all
representable numbers. Rounding a quotient to a whole number is nearest among the whole numbers,
and the bits of the result are put together from that whole number and the power.

No other number is nearest in this sense: of two multiples that are equally near one is odd.
-/

import Telemetry.Proofs.Exact

namespace Telemetry

namespace Binary64

/-- No finite number is nearer to the target, and none that is equally near unless the last bit of
this one is zero. -/
structure IsNearest (target : ℚ) (number : Binary64) : Prop where
  finite : number.isFinite = true
  nearest : ∀ other : Binary64, other.isFinite = true →
    |target - number.exact| ≤ |target - other.exact|
  even : ∀ other : Binary64, other.isFinite = true →
    |target - other.exact| = |target - number.exact| →
      other.exact = number.exact ∨ number.significand % 2 = 0

/-- The same of a multiple of a power of two among all its multiples. One that is equally near is
the neighbour, so it is odd. -/
structure IsNearestMultiple (target : ℚ) (power : ℤ) (multiple : ℕ) : Prop where
  nearest : ∀ whole : ℤ, |target - multiple * 2 ^ power| ≤ |target - whole * 2 ^ power|
  even : ∀ whole : ℤ, |target - whole * 2 ^ power| = |target - multiple * 2 ^ power| →
    whole = multiple ∨ multiple % 2 = 0 ∧ whole % 2 = 1

/-! ### Rounding to a whole number -/

/-- Rounding a quotient leaves at most half a unit, and half a unit only at an even number. -/
theorem twice_rest_roundedQuotient (numerator : Nat) {denominator : Nat}
    (positive : 0 < denominator) :
    let rest : ℤ := numerator - roundedQuotient numerator denominator * denominator
    2 * |rest| ≤ denominator ∧
      (2 * |rest| = denominator → roundedQuotient numerator denominator % 2 = 0) := by
  have split := Nat.div_add_mod numerator denominator
  have small := Nat.mod_lt numerator positive
  have whole : (numerator : ℤ) =
      (numerator / denominator : ℕ) * denominator + (numerator % denominator : ℕ) := by
    rw [mul_comm]
    exact_mod_cast split.symm
  have below : (numerator : ℤ) - (numerator / denominator : ℕ) * denominator =
      (numerator % denominator : ℕ) := by rw [whole]; ring
  have above : (numerator : ℤ) - (numerator / denominator + 1 : ℕ) * denominator =
      (numerator % denominator : ℕ) - denominator := by rw [whole]; push_cast; ring
  have down : |((numerator % denominator : ℕ) : ℤ)| = (numerator % denominator : ℕ) :=
    Nat.abs_cast _
  have up : |((numerator % denominator : ℕ) : ℤ) - denominator| =
      denominator - (numerator % denominator : ℕ) := by
    rw [abs_of_nonpos (by omega)]
    ring
  intro rest
  unfold rest roundedQuotient
  dsimp only
  split
  · rw [below, down]
    omega
  · split
    · rw [above, up]
      omega
    · split
      · rw [below, down]
        omega
      · rw [above, up]
        omega

/-- Another whole number leaves at least the rest of a unit. -/
theorem le_rest_add_rest (numerator quotient whole : ℤ) (denominator : ℕ) :
    |whole - quotient| * denominator ≤
      |numerator - quotient * denominator| + |numerator - whole * denominator| := by
  have split : (whole - quotient) * denominator =
      (numerator - quotient * denominator) - (numerator - whole * denominator) := by ring
  calc |whole - quotient| * denominator
      = |(whole - quotient) * denominator| := by rw [abs_mul, Nat.abs_cast]
    _ = |(numerator - quotient * denominator) - (numerator - whole * denominator)| := by rw [split]
    _ ≤ _ := abs_sub _ _

/-- The rounded quotient is nearest among the whole numbers, and even where another is as near. -/
theorem isNearestMultiple_roundedQuotient (numerator power : ℕ) :
    IsNearestMultiple numerator power (roundedQuotient numerator (powerOfTwo power)) := by
  have unit : (2 : ℚ) ^ (power : ℤ) = (powerOfTwo power : ℕ) := by
    rw [zpow_natCast]
    exact_mod_cast rfl
  have positive := powerOfTwo_positive power
  obtain ⟨half, tie⟩ := twice_rest_roundedQuotient numerator positive
  generalize powerOfTwo power = denominator at unit positive half tie ⊢
  generalize roundedQuotient numerator denominator = quotient at half tie ⊢
  have apart (whole : ℤ) := le_rest_add_rest numerator quotient whole denominator
  have unitApart (whole : ℤ) (different : whole ≠ quotient) : (denominator : ℤ) ≤
      |(numerator : ℤ) - quotient * denominator| + |(numerator : ℤ) - whole * denominator| :=
    (le_mul_of_one_le_left (Int.natCast_nonneg _)
      (Int.one_le_abs (sub_ne_zero.mpr different))).trans (apart whole)
  have rest (whole : ℤ) : |(numerator : ℚ) - whole * 2 ^ (power : ℤ)| =
      (|(numerator : ℤ) - whole * denominator| : ℤ) := by
    rw [unit]
    push_cast
    rfl
  have ownRest := rest quotient
  rw [Int.cast_natCast] at ownRest
  refine ⟨fun whole => ?_, fun whole equal => ?_⟩
  · rw [ownRest, rest, Int.cast_le]
    by_cases same : whole = quotient
    · rw [same]
    · linarith [unitApart whole same]
  · rw [ownRest, rest, Int.cast_inj] at equal
    by_cases same : whole = quotient
    · exact .inl same
    · refine .inr ?_
      have even := tie (by linarith [unitApart whole same])
      have neighbour : |whole - quotient| ≤ 1 := by
        refine le_of_mul_le_mul_right ?_ (Int.natCast_pos.mpr positive)
        linarith [apart whole]
      have bounds := abs_le.mp neighbour
      omega

/-! ### From multiples to numbers -/

/-- A number that is at least as near to the target as a multiple with fifty-three bits is a
multiple itself. Below the multiples all numbers are farther away. -/
theorem exists_multiple {target : ℚ} {power : ℤ} {multiple : ℕ} {other : Binary64}
    (large : powerOfTwo 52 * 2 ^ power ≤ target)
    (rounded : IsNearestMultiple target power multiple)
    (near : |target - other.exact| ≤ |target - multiple * 2 ^ power|) :
    ∃ whole : ℤ, other.exact = whole * 2 ^ power ∧
      (other.significand % 2 = 0 → whole % 2 = 0) := by
  refine (other.exact_multiple_or_lt power).resolve_right fun below => ?_
  have least := rounded.nearest (powerOfTwo 52)
  have smaller := (abs_lt.mp below).2
  rw [Int.cast_natCast, abs_of_nonneg (sub_nonneg.mpr large)] at least
  rw [abs_of_nonneg (sub_nonneg.mpr (smaller.le.trans large))] at near
  linarith

/-- A multiple of a power of two that is nearest among the multiples is nearest among all numbers,
where the target has fifty-three bits before that power. -/
theorem isNearest_of_multiple {target : ℚ} {number : Binary64} {multiple : ℕ} {power : ℤ}
    (finite : number.isFinite = true) (isExact : number.exact = multiple * 2 ^ power)
    (parity : multiple % 2 = 0 → number.significand % 2 = 0)
    (large : powerOfTwo 52 * 2 ^ power ≤ target)
    (rounded : IsNearestMultiple target power multiple) : IsNearest target number := by
  refine ⟨finite, fun other _ => ?_, fun other _ equal => ?_⟩
  · rw [isExact]
    by_contra nearer
    obtain ⟨whole, same, _⟩ := exists_multiple large rounded (not_le.mp nearer).le
    exact nearer (same ▸ rounded.nearest whole)
  · rw [isExact] at equal ⊢
    obtain ⟨whole, same, _⟩ := exists_multiple large rounded equal.le
    rw [same] at equal ⊢
    obtain one | ⟨even, _⟩ := rounded.even whole equal
    · exact .inl (by rw [one, Int.cast_natCast])
    · exact .inr (parity even)

/-- There is no other nearest number. -/
theorem IsNearest.exact_eq {target : ℚ} {number : Binary64} {multiple : ℕ} {power : ℤ}
    (finite : number.isFinite = true) (isExact : number.exact = multiple * 2 ^ power)
    (large : powerOfTwo 52 * 2 ^ power ≤ target)
    (rounded : IsNearestMultiple target power multiple) {other : Binary64}
    (nearest : IsNearest target other) : other.exact = number.exact := by
  have near := nearest.nearest number finite
  rw [isExact] at near
  obtain ⟨whole, same, parity⟩ := exists_multiple large rounded near
  have equal : |target - whole * 2 ^ power| = |target - multiple * 2 ^ power| :=
    le_antisymm (same ▸ near) (rounded.nearest whole)
  obtain one | ⟨_, odd⟩ := rounded.even whole equal
  · rw [same, isExact, one, Int.cast_natCast]
  -- The other one is the odd neighbour, so its last bit is one.
  · refine ((nearest.even number finite ?_).resolve_right fun even => ?_).symm
    · rw [same, isExact, equal]
    · exact absurd (parity even) (by omega)

/-- A number of sixty-four bits is rounded to a multiple of two to the power eleven. -/
theorem exact_ofNat {number : Nat} (large : powerOfTwo 63 ≤ number)
    (small : number < powerOfTwo 64) :
    (ofNat number).exact = (roundedQuotient number (powerOfTwo 11) : ℕ) * 2 ^ (11 : ℤ) ∧
      (roundedQuotient number (powerOfTwo 11) % 2 = 0 → (ofNat number).significand % 2 = 0) ∧
      (ofNat number).exact ≠ 0 := by
  have width : powerOfTwo 52 * powerOfTwo 11 = powerOfTwo 63 := by decide
  have twice : 2 * powerOfTwo 52 * powerOfTwo 11 = powerOfTwo 64 := by decide
  have positive := powerOfTwo_positive 11
  have nonzero : number ≠ 0 := Nat.ne_of_gt (Nat.lt_of_lt_of_le (powerOfTwo_positive 63) large)
  have least : powerOfTwo 52 ≤ roundedQuotient number (powerOfTwo 11) :=
    ((Nat.le_div_iff_mul_le positive).mpr (width ▸ large)).trans (le_roundedQuotient _ _)
  have greatest : roundedQuotient number (powerOfTwo 11) ≤ 2 * powerOfTwo 52 :=
    (roundedQuotient_le _ _).trans ((Nat.div_lt_iff_lt_mul positive).mpr (twice ▸ small))
  have built : ofNat number =
      ofMagnitude false (magnitudeBits (roundedQuotient number (powerOfTwo 11)) 11) := by
    rw [ofNat, ofQuotient, if_neg nonzero, scaleOf_of_lt large small]
    dsimp only
    rw [roundedAt, if_pos (by decide), Nat.one_mul]
    rfl
  obtain ⟨isExact, parity⟩ := exact_magnitudeBits least greatest
    (show leastExponent ≤ 11 by decide) (by decide)
  rw [← built] at isExact parity
  refine ⟨isExact, parity, isExact ▸ mul_ne_zero ?_ (zpow_ne_zero _ two_ne_zero)⟩
  exact Nat.cast_ne_zero.mpr ((powerOfTwo_positive 52).trans_le least).ne'

/-- The nearest number to a number of sixty-four bits is the one that it is rounded to, and no
other one. -/
theorem isNearest_iff_eq_ofNat {number : Nat} (large : powerOfTwo 63 ≤ number)
    (small : number < powerOfTwo 64) {other : Binary64} :
    IsNearest number other ↔ other = ofNat number := by
  have finite := isFinite_ofNat large small
  have rounded : IsNearestMultiple number 11 (roundedQuotient number (powerOfTwo 11)) :=
    isNearestMultiple_roundedQuotient number 11
  have reached : (powerOfTwo 52 : ℚ) * 2 ^ (11 : ℤ) ≤ number := by
    have width : powerOfTwo 52 * powerOfTwo 11 = powerOfTwo 63 := by decide
    have eleven : (2 : ℚ) ^ (11 : ℤ) = (powerOfTwo 11 : ℕ) := by norm_num [powerOfTwo]
    rw [eleven]
    exact_mod_cast width ▸ large
  obtain ⟨isExact, parity, nonzero⟩ := exact_ofNat large small
  constructor
  · intro nearest
    have same := nearest.exact_eq finite isExact reached rounded
    exact eq_of_exact_eq same (same ▸ nonzero)
  · rintro rfl
    exact isNearest_of_multiple finite isExact parity reached rounded

end Binary64

end Telemetry
