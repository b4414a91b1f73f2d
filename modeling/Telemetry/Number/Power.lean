/-
This file holds the powers that the formats of numbers are built on.

The layout of binary numbers is in powers of two, the text of numbers in powers of ten. The exponent
is a natural number, so both are whole and at least one.
-/

namespace Telemetry

/-- Two to a power. -/
def powerOfTwo (exponent : Nat) : Nat := Nat.pow 2 exponent

/-- Ten to a power. -/
def powerOfTen (exponent : Nat) : Nat := Nat.pow 10 exponent

@[simp] theorem powerOfTwo_zero : powerOfTwo 0 = 1 := rfl

theorem powerOfTwo_positive (exponent : Nat) : 0 < powerOfTwo exponent :=
  Nat.pow_pos (Nat.zero_lt_succ 1)

@[simp] theorem powerOfTen_zero : powerOfTen 0 = 1 := rfl

end Telemetry
