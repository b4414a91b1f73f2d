/-
This file says that a count has one meaning, however it arrives and however it is spelled.

A spelling is the digits of the count behind any number of zeros, with or without a plus sign. Both
readers, the one of whole numbers and the one of floating point numbers, take the digits from the
left and come to the same natural number, so a text that does not fit the signed numbers is rounded
from the very number that a conversion is rounded from.
-/

import Telemetry.Proofs.Nearest
import Telemetry.Proofs.Numerals

namespace Telemetry

/-! ### Spellings -/

/-- The digits of a number behind some zeros. -/
def padded (zeros number : Nat) : List Char := List.replicate zeros '0' ++ Nat.toDigits 10 number

/-- A number in decimal behind some zeros and, where one is wanted, a plus sign. -/
def spelled (plus : Bool) (zeros number : Nat) : String :=
  String.ofList (if plus then '+' :: padded zeros number else padded zeros number)

theorem isDigit_of_mem_padded {zeros number : Nat} {character : Char}
    (member : character ∈ padded zeros number) : character.isDigit = true := by
  rcases List.mem_append.mp member with zero | digit
  · rw [List.eq_of_mem_replicate zero]
    rfl
  · exact isDigit_of_mem_toDigits digit

/-- Zeros in front do not change the number that is read. -/
theorem naturalFrom_padded (zeros number : Nat) :
    naturalFrom 0 (padded zeros number) = some number := by
  induction zeros with
  | zero => exact naturalFrom_toDigits number
  | succ zeros inductionHypothesis => exact inductionHypothesis

theorem padded_ne_nil (zeros number : Nat) : padded zeros number ≠ [] := fun empty =>
  Nat.toDigits_ne_nil (List.append_eq_nil_iff.mp empty).2

/-! ### Reading a whole number -/

theorem integerOf?_spelled (plus : Bool) (zeros number : Nat) :
    integerOf? (spelled plus zeros number).toList = some (number : Int) := by
  have read : naturalOf? (padded zeros number) = some number := by
    rw [naturalOf?_of_ne_nil (padded_ne_nil zeros number), naturalFrom_padded]
  rw [spelled, String.toList_ofList]
  cases plus with
  | true =>
    show integerOf? ('+' :: padded zeros number) = some (number : Int)
    rw [integerOf?, read]
    rfl
  | false =>
    show integerOf? (padded zeros number) = some (number : Int)
    rw [integerOf?_of_isDigit fun _ member => isDigit_of_mem_padded member, read]
    rfl

namespace Binary64

/-! ### Reading a floating point number -/

/-- Where a text is digits and nothing else, both readers take the same number from it. -/
theorem takeDigits_of_naturalFrom {text : List Char} :
    ∀ {start count number : Nat}, naturalFrom start text = some number →
      takeDigits start count text = (number, count + text.length, []) := by
  induction text with
  | nil =>
    intro start count number read
    rw [takeDigits, Option.some.inj read]
    rfl
  | cons character rest inductionHypothesis =>
    intro start count number read
    rw [naturalFrom] at read
    rw [takeDigits]
    cases digit : digitValue? character with
    | none =>
      rw [digit] at read
      cases read
    | some value =>
      rw [digit] at read
      dsimp only at read ⊢
      rw [inductionHypothesis read, List.length_cons, Nat.add_assoc, Nat.add_comm 1]

theorem toLower_of_isDigit {character : Char} (digit : character.isDigit = true) :
    character.toLower = character := by
  have small : character.val ≤ '9'.val := of_decide_eq_true (Bool.and_eq_true_iff.mp digit).2
  have digitsFirst : '9'.val < 'A'.val := by decide
  refine dif_neg fun upper => ?_
  have below := UInt32.lt_of_lt_of_le digitsFirst (UInt32.le_trans upper.1 small)
  exact UInt32.lt_irrefl _ below

theorem lowered_of_isDigit {text : List Char}
    (digits : ∀ character ∈ text, character.isDigit = true) : lowered text = text := by
  rw [lowered]
  exact (List.map_congr_left fun character member => toLower_of_isDigit (digits character member)
    ).trans (List.map_id _)

/-- A natural number behind which no exponent stands is rounded as it is. -/
theorem ofDecimal_zero {number : Nat} (small : number < UInt64.size) :
    ofDecimal false number 0 = ofNat number := by
  have twenty : UInt64.size < powerOfTen 20 := by decide
  have length : (Nat.toDigits 10 number).length ≤ 20 :=
    (Nat.length_toDigits_le_iff (by decide) (by decide)).mpr (Nat.lt_trans small twenty)
  unfold ofDecimal
  dsimp only
  by_cases zero : number = 0
  · rw [if_pos zero, ofNat, ofQuotient, if_pos zero]
  · rw [if_neg zero, if_neg (by omega), if_neg (by omega), if_pos (Int.le_refl 0), ofNat]
    exact congrArg (ofQuotient false · 1) (Nat.mul_one number)

/-- A text with another character than digits is no spelling without a sign. -/
theorem padded_ne_of_mem {zeros number : Nat} {text : List Char} {character : Char}
    (member : character ∈ text) (other : character.isDigit = false) :
    padded zeros number ≠ text := by
  rintro rfl
  rw [isDigit_of_mem_padded member] at other
  cases other

theorem magnitudeOf?_padded (zeros : Nat) {number : Nat} (small : number < UInt64.size) :
    magnitudeOf? false (padded zeros number) = some (ofNat number) := by
  have read : takeDigits 0 0 (padded zeros number) =
      (number, 0 + (padded zeros number).length, []) :=
    takeDigits_of_naturalFrom (naturalFrom_padded zeros number)
  have length := List.length_pos_iff.mpr (padded_ne_nil zeros number)
  have infinity : padded zeros number ≠ "inf".toList :=
    padded_ne_of_mem (show 'i' ∈ "inf".toList by decide) rfl
  have longInfinity : padded zeros number ≠ "infinity".toList :=
    padded_ne_of_mem (show 'i' ∈ "infinity".toList by decide) rfl
  have noNumber : padded zeros number ≠ "nan".toList :=
    padded_ne_of_mem (show 'n' ∈ "nan".toList by decide) rfl
  unfold magnitudeOf?
  rw [lowered_of_isDigit fun _ member => isDigit_of_mem_padded member]
  dsimp only
  rw [if_neg (not_or.mpr ⟨infinity, longInfinity⟩), if_neg noNumber, read]
  dsimp only
  rw [if_neg (by omega)]
  exact congrArg some (ofDecimal_zero small)

theorem ofText?_spelled (plus : Bool) (zeros : Nat) {number : Nat}
    (small : number < UInt64.size) :
    ofText? (spelled plus zeros number) = some (ofNat number) := by
  have read := magnitudeOf?_padded zeros small
  rw [ofText?, spelled, String.toList_ofList]
  cases plus with
  | true => exact read
  | false =>
    rw [if_neg Bool.false_ne_true]
    split
    · rename_i sign
      exact absurd sign (padded_ne_of_mem List.mem_cons_self rfl)
    · rename_i sign
      exact absurd sign (padded_ne_of_mem List.mem_cons_self rfl)
    · exact read

end Binary64

namespace Value

/-- What a count is, whether it comes as a number or as a text. -/
structure OneMeaning (number : UInt64) (text : String) : Prop where
  /-- The text is read as the value of the number. -/
  read : ofText text = .ok (ofNat number.toNat)
  /-- That is the number itself, where a signed number can hold it. -/
  exact : (number.toNat : Int) ≤ Int64.maxValue.toInt →
    ∃ whole : Int64, ofNat number.toNat = .integer whole ∧ whole.toInt = number.toNat
  /-- Otherwise it is the nearest floating point number, of two equally near ones the even one. -/
  rounded : Int64.maxValue.toInt < number.toNat →
    ∃ real : Binary64, ofNat number.toNat = .real real ∧
      ∀ other : Binary64, other.IsNearest number.toNat ↔ other = real

theorem ofText_spelled (plus : Bool) (zeros : Nat) {number : Nat} (small : number < UInt64.size) :
    ofText (spelled plus zeros number) = .ok (ofNat number) := by
  have finite := isFinite_ofNat small
  rw [ofText, int64?, integerOf?_spelled]
  dsimp only
  cases fits : fitsInt64 number with
  | true => rw [if_pos rfl, ofNat, if_pos fits]
  | false =>
    -- The text is read a second time, and the number it is rounded from is the same.
    have real : ofNat number = .real (Binary64.ofNat number) := by
      rw [ofNat, fits, if_neg Bool.false_ne_true]
    rw [real] at finite
    rw [if_neg Bool.false_ne_true, Binary64.ofText?_spelled plus zeros small, real]
    dsimp only
    exact if_pos finite

theorem fitsInt64_natCast (number : Nat) :
    fitsInt64 number = decide ((number : Int) ≤ Int64.maxValue.toInt) := by
  have least : Int64.minValue.toInt ≤ number :=
    Int.le_trans (show Int64.minValue.toInt ≤ 0 by decide) (Int.natCast_nonneg number)
  rw [fitsInt64, decide_eq_true least, Bool.true_and]

/-- A count has one meaning in every spelling. -/
theorem oneMeaning_spelled (number : UInt64) (plus : Bool) (zeros : Nat) :
    OneMeaning number (spelled plus zeros number.toNat) := by
  have greatest : Int64.maxValue.toInt = 9223372036854775807 := rfl
  have half : powerOfTwo 63 = 9223372036854775808 := by decide
  refine ⟨ofText_spelled plus zeros number.toNat_lt, fun small => ?_, fun large => ?_⟩
  · refine ⟨Int64.ofInt number.toNat, ?_, Int64.toInt_ofInt_of_le (by omega) (by omega)⟩
    rw [ofNat, fitsInt64_natCast, if_pos (decide_eq_true small)]
  · refine ⟨Binary64.ofNat number.toNat, ?_, fun other =>
      Binary64.isNearest_iff_eq_ofNat (by omega) number.toNat_lt⟩
    rw [ofNat, fitsInt64_natCast, if_neg (by simpa using large)]

/-- The largest count is rounded up to two to the power sixty-four. -/
example : ofText "+0018446744073709551615" = .ok (.real ⟨0x43F0000000000000⟩) := by
  decide +kernel

end Value

end Telemetry
