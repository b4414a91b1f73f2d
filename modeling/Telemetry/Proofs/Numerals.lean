/-
This file says that numbers in decimal are read back as they were written.

Reading takes the digits from the left and keeps the number they make so far. A number is written as
all its digits but the last one, and then the last one, so reading it back is an induction on the
number itself. A sign in front is told apart from the digits, and a number of sixty-four bits fits
again.
-/

import Telemetry.Text.Integer

namespace Telemetry

/-- Reading goes on behind the first digits with the number they make. -/
theorem naturalFrom_append (start : Nat) (first rest : List Char) :
    naturalFrom start (first ++ rest) =
      (naturalFrom start first).bind fun number => naturalFrom number rest := by
  induction first generalizing start with
  | nil => rfl
  | cons character others inductionHypothesis =>
    rw [List.cons_append, naturalFrom, naturalFrom]
    cases digitValue? character with
    | none => rfl
    | some digit => exact inductionHypothesis (10 * start + digit)

theorem digitValue?_digitChar : ∀ digit < 10, digitValue? (Nat.digitChar digit) = some digit := by
  decide

/-- The digits of a number are read as the number. -/
theorem naturalFrom_toDigits (number : Nat) :
    naturalFrom 0 (Nat.toDigits 10 number) = some number := by
  induction number using Nat.strongRecOn with
  | ind number inductionHypothesis =>
    by_cases small : number < 10
    · rw [Nat.toDigits_of_lt_base small, naturalFrom, digitValue?_digitChar number small]
      simp [naturalFrom]
    · have fewer : number / 10 < number := by omega
      have digit : number % 10 < 10 := Nat.mod_lt number (by decide)
      rw [Nat.toDigits_of_base_le (by decide) (by omega), naturalFrom_append,
        inductionHypothesis (number / 10) fewer, Option.bind_some, naturalFrom,
        digitValue?_digitChar _ digit]
      show naturalFrom (10 * (number / 10) + number % 10) [] = some number
      rw [Nat.div_add_mod]
      rfl

theorem naturalOf?_of_ne_nil {digits : List Char} (nonempty : digits ≠ []) :
    naturalOf? digits = naturalFrom 0 digits := by
  cases digits with
  | nil => exact absurd rfl nonempty
  | cons first rest => rfl

theorem naturalOf?_toDigits (number : Nat) :
    naturalOf? (Nat.toDigits 10 number) = some number := by
  rw [naturalOf?_of_ne_nil Nat.toDigits_ne_nil, naturalFrom_toDigits]

/-- Every character of a number without a sign is a digit. -/
theorem isDigit_of_mem_toDigits {number : Nat} {character : Char}
    (member : character ∈ Nat.toDigits 10 number) : character.isDigit = true :=
  Nat.isDigit_of_mem_toDigits (by decide) (by decide) member

/-- A text of digits has no sign. -/
theorem integerOf?_of_isDigit {text : List Char}
    (digits : ∀ character ∈ text, character.isDigit = true) :
    integerOf? text = (naturalOf? text).map fun magnitude => (magnitude : Int) := by
  unfold integerOf?
  split
  · have sign := digits '-' List.mem_cons_self
    cases sign
  · have sign := digits '+' List.mem_cons_self
    cases sign
  · rfl

/-- Digits without a sign are read as a number that is not negative. -/
theorem integerOf?_toDigits (number : Nat) :
    integerOf? (Nat.toDigits 10 number) = some (number : Int) := by
  rw [integerOf?_of_isDigit fun _ member => isDigit_of_mem_toDigits member, naturalOf?_toDigits]
  rfl

theorem toList_decimal (number : Nat) : (decimal number).toList = Nat.toDigits 10 number :=
  String.toList_ofList

/-- Different numbers are written differently. -/
theorem decimal_injective : Function.Injective decimal := by
  intro number other same
  have digits : Nat.toDigits 10 number = Nat.toDigits 10 other := by
    rw [← toList_decimal, ← toList_decimal, same]
  have read := naturalOf?_toDigits number
  rw [digits, naturalOf?_toDigits other] at read
  exact (Option.some.inj read).symm

/-- A number with a sign is read back. -/
theorem integerOf?_signedDecimal (number : Int) :
    integerOf? (signedDecimal number).toList = some number := by
  unfold signedDecimal
  by_cases negative : number < 0
  · rw [if_pos negative, String.toList_append, toList_decimal]
    have magnitude : -(number.natAbs : Int) = number := by omega
    show integerOf? ('-' :: Nat.toDigits 10 number.natAbs) = some number
    rw [integerOf?, naturalOf?_toDigits]
    exact congrArg some magnitude
  · rw [if_neg negative, toList_decimal, integerOf?_toDigits]
    exact congrArg some (by omega)

theorem fitsInt64_toInt (number : Int64) : fitsInt64 number.toInt = true := by
  have least := number.minValue_le_toInt
  have greatest := number.toInt_le
  simp only [fitsInt64, Bool.and_eq_true, decide_eq_true_eq]
  exact ⟨least, greatest⟩

/-- A number of sixty-four bits is read back. -/
theorem int64?_signedDecimal (number : Int64) :
    int64? (signedDecimal number.toInt) = some number := by
  rw [int64?, integerOf?_signedDecimal]
  dsimp only
  rw [if_pos (fitsInt64_toInt number), Int64.ofInt_toInt]

end Telemetry
