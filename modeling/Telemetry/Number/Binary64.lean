/-
This file holds binary floating point numbers of sixty-four bits.

A number is its bits: a sign, eleven bits of exponent and fifty-two bits of fraction. The passage
from exact numbers is one rounding: the quotient of two natural numbers becomes the nearest
representable number, and of two equally near ones the one whose last bit is zero. Whole numbers,
decimal texts, the shorter format of thirty-two bits and sums all pass through it.
-/

import Telemetry.Number.Power

namespace Telemetry

/-- A binary floating point number of sixty-four bits. -/
structure Binary64 where
  bits : UInt64
  deriving DecidableEq, Repr, Inhabited

namespace Binary64

/-- The least exponent: every finite number is a whole multiple of two to this power. -/
def leastExponent : Int := -1074

/-- The biased exponent, from zero for zero and the smallest numbers to 2047. -/
def exponentField (number : Binary64) : Nat := number.bits.toNat / powerOfTwo 52 % powerOfTwo 11

/-- The fraction behind the leading bit. -/
def fractionField (number : Binary64) : Nat := number.bits.toNat % powerOfTwo 52

/-- Whether the sign bit is set. Zero and the numbers that are none have a sign as well. -/
def isNegative (number : Binary64) : Bool := powerOfTwo 63 ≤ number.bits.toNat

/-- Neither an infinity nor a value that is no number. -/
def isFinite (number : Binary64) : Bool := number.exponentField != 2047

/-- A value that is no number. -/
def isNaN (number : Binary64) : Bool := number.exponentField == 2047 && number.fractionField != 0

/-- The whole number `m` for which the absolute value of a finite number is `m` times two to the
power `scale`. -/
def significand (number : Binary64) : Nat :=
  if number.exponentField = 0 then number.fractionField
  else powerOfTwo 52 + number.fractionField

/-- The exponent that belongs to `significand`. -/
def scale (number : Binary64) : Int :=
  if number.exponentField = 0 then leastExponent
  else (number.exponentField : Int) - 1075

/-! ### Building numbers -/

/-- The number with a given sign whose other bits are `magnitude`. -/
def ofMagnitude (negative : Bool) (magnitude : Nat) : Binary64 :=
  ⟨UInt64.ofNat ((if negative then powerOfTwo 63 else 0) + magnitude)⟩

/-- Zero, which has a sign. -/
def zero (negative : Bool) : Binary64 := ofMagnitude negative 0

/-- The infinity of a given sign. -/
def infinity (negative : Bool) : Binary64 := ofMagnitude negative (2047 * powerOfTwo 52)

/-- The value that is no number. -/
def nan : Binary64 := ofMagnitude false (2047 * powerOfTwo 52 + powerOfTwo 51)

/-- The quotient of two natural numbers rounded to a whole number, a half to the even one. -/
def roundedQuotient (numerator denominator : Nat) : Nat :=
  let quotient := numerator / denominator
  let twiceRest := 2 * (numerator % denominator)
  if twiceRest < denominator then quotient
  else if denominator < twiceRest then quotient + 1
  else if quotient % 2 = 0 then quotient else quotient + 1

/-- A quotient divided by two to the power `power` and rounded to a whole number. -/
def roundedAt (numerator denominator : Nat) (power : Int) : Nat :=
  if 0 ≤ power then roundedQuotient numerator (denominator * powerOfTwo power.toNat)
  else roundedQuotient (numerator * powerOfTwo (-power).toNat) denominator

/-- Whether a quotient is at least two to the power `power`. -/
def reaches (numerator denominator : Nat) (power : Int) : Bool :=
  if 0 ≤ power then decide (denominator * powerOfTwo power.toNat ≤ numerator)
  else decide (denominator ≤ numerator * powerOfTwo (-power).toNat)

/-- The exponent at which a positive quotient has fifty-three bits, but never below the least one.
The difference of the two logarithms is the quotient's own logarithm or one more than that. -/
def scaleOf (numerator denominator : Nat) : Int :=
  let estimate : Int := (numerator.log2 : Int) - denominator.log2
  let logarithm := if reaches numerator denominator estimate then estimate else estimate - 1
  max (logarithm - 52) leastExponent

/-- The bits below the sign of the number with a given significand and exponent. A significand of
fifty-four bits, which rounding up may give, carries into the exponent by the sum alone. -/
def magnitudeBits (significand : Nat) (scale : Int) : Nat :=
  if significand < powerOfTwo 52 then significand
  else
    let biased := (scale + 1075).toNat
    let sum := biased * powerOfTwo 52 + (significand - powerOfTwo 52)
    if 2047 * powerOfTwo 52 ≤ sum then 2047 * powerOfTwo 52 else sum

/-- The nearest number to a quotient of natural numbers. The denominator is not zero. -/
def ofQuotient (negative : Bool) (numerator denominator : Nat) : Binary64 :=
  if numerator = 0 then zero negative
  else
    let scale := scaleOf numerator denominator
    ofMagnitude negative (magnitudeBits (roundedAt numerator denominator scale) scale)

/-- The nearest number to a natural number. -/
def ofNat (number : Nat) : Binary64 := ofQuotient false number 1

/-- The nearest number to a whole number. -/
def ofInt (number : Int) : Binary64 := ofQuotient (decide (number < 0)) number.natAbs 1

/-- The nearest number to `digits` times ten to the power `exponent`. Far outside the range of the
format the answer is known from the count of digits, so no large power is built. -/
def ofDecimal (negative : Bool) (digits : Nat) (exponent : Int) : Binary64 :=
  let length : Int := ((Nat.toDigits 10 digits).length : Int)
  if digits = 0 then zero negative
  else if 400 < length + exponent then infinity negative
  else if length + exponent < -400 then zero negative
  else if 0 ≤ exponent then ofQuotient negative (digits * powerOfTen exponent.toNat) 1
  else ofQuotient negative digits (powerOfTen (-exponent).toNat)

/-- The number that thirty-two bits of the shorter format stand for. Every such number is
representable, so nothing is rounded. -/
def ofBinary32 (bits : UInt32) : Binary64 :=
  let word := bits.toNat
  let negative := decide (powerOfTwo 31 ≤ word)
  let exponent := word / powerOfTwo 23 % powerOfTwo 8
  let fraction := word % powerOfTwo 23
  if exponent = 255 then
    if fraction = 0 then infinity negative
    else
      ofMagnitude negative
        (2047 * powerOfTwo 52 + powerOfTwo 51 + fraction % powerOfTwo 22 * powerOfTwo 29)
  else if exponent = 0 then ofQuotient negative fraction (powerOfTwo 149)
  else if 150 ≤ exponent then
    ofQuotient negative ((powerOfTwo 23 + fraction) * powerOfTwo (exponent - 150)) 1
  else ofQuotient negative (powerOfTwo 23 + fraction) (powerOfTwo (150 - exponent))

/-! ### Sum and order -/

/-- A finite number as a whole multiple of two to a power, which is at most its own scale. -/
def wholeAt (number : Binary64) (power : Int) : Int :=
  let magnitude := number.significand * powerOfTwo (number.scale - power).toNat
  if number.isNegative then -(magnitude : Int) else magnitude

/-- The nearest number to a whole multiple of two to a power. -/
def ofWhole (whole : Int) (power : Int) : Binary64 :=
  if 0 ≤ power then ofQuotient (decide (whole < 0)) (whole.natAbs * powerOfTwo power.toNat) 1
  else ofQuotient (decide (whole < 0)) whole.natAbs (powerOfTwo (-power).toNat)

/-- The sum of two numbers, rounded. Opposite infinities have none. A sum of zero has a sign only
when both numbers have it. -/
def add (left right : Binary64) : Binary64 :=
  if left.isNaN || right.isNaN then nan
  else if !left.isFinite then (if right.isFinite || left = right then left else nan)
  else if !right.isFinite then right
  else
    let power := min left.scale right.scale
    let sum := left.wholeAt power + right.wholeAt power
    if sum = 0 then zero (left.isNegative && right.isNegative) else ofWhole sum power

/-- Whether a number is at most as large as another one. -/
def le (left right : Binary64) : Bool :=
  if left.isNaN || right.isNaN then false
  else if !left.isFinite then left.isNegative || left = right
  else if !right.isFinite then !right.isNegative
  else
    let power := min left.scale right.scale
    left.wholeAt power ≤ right.wholeAt power

/-- A negative number is one with the sign bit; the rest of the bits is the absolute value. -/
example : ofInt (-1) = ⟨0xBFF0000000000000⟩ ∧ ofNat 0 = zero false := by decide +kernel

/-- Halfway between two representable numbers the even one is taken. -/
example : ofNat (powerOfTwo 53 + 1) = ofNat (powerOfTwo 53) ∧
    ofNat (powerOfTwo 53 + 3) = ofNat (powerOfTwo 53 + 4) := by
  decide +kernel

/-- One tenth and two tenths give a little more than three tenths. -/
example : (ofDecimal false 1 (-1)).add (ofDecimal false 2 (-1)) = ⟨0x3FD3333333333334⟩ := by
  decide +kernel

end Binary64

end Telemetry
