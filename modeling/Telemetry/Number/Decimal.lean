/-
This file writes binary floating point numbers in decimal and reads them.

Writing takes the fewest digits that read back as the same number, and of those the nearest. A
grid of decimal numbers with a given count of digits has a point that reads back exactly when one
of the two neighbours of the number on that grid does, so looking at the neighbours on finer and
finer grids finds the shortest text. Seventeen digits are always enough.

Two forms are written: a plain one without an exponent, for messages and for the page of counters,
and one for JSON, which has a point or an exponent always. A number halfway between two points of
its grid goes up in the plain form, and to the even one of them in JSON.
-/

import Telemetry.Number.Binary64
import Telemetry.Text.Integer

namespace Telemetry

namespace Binary64

/-! ### The shortest digits -/

/-- An exact positive number: a quotient of natural numbers. -/
structure Quotient where
  numerator : Nat
  denominator : Nat

/-- A natural number times two to a power. -/
def Quotient.ofBinary (digits : Nat) (power : Int) : Quotient :=
  if 0 ≤ power then ⟨digits * powerOfTwo power.toNat, 1⟩ else ⟨digits, powerOfTwo (-power).toNat⟩

/-- A quotient divided by ten to a power. -/
def Quotient.overPowerOfTen (value : Quotient) (power : Int) : Quotient :=
  if 0 ≤ power then ⟨value.numerator, value.denominator * powerOfTen power.toNat⟩
  else ⟨value.numerator * powerOfTen (-power).toNat, value.denominator⟩

/-- Whether a quotient is below one. -/
def Quotient.belowOne (value : Quotient) : Bool := value.numerator < value.denominator

/-- The power of ten just above a positive quotient. The logarithm to base two tells it but for a
few steps, and those are tried in turn. -/
def Quotient.powerOfTenAbove (value : Quotient) : Int :=
  let logarithm : Int := (value.numerator.log2 : Int) - value.denominator.log2
  let estimate := logarithm * 30103 / 100000
  let candidates := [estimate - 1, estimate, estimate + 1, estimate + 2]
  (candidates.find? fun power => (value.overPowerOfTen power).belowOne).getD (estimate + 3)

/-- The interval of the numbers that round to a positive finite number, in quarters of its last
place: four times the significand, the distance down and the distance up. The distance down is half
as long at a power of two. -/
def margins (number : Binary64) : Nat × Nat × Nat :=
  let atPowerOfTwo := number.fractionField = 0 ∧ 1 < number.exponentField
  (4 * number.significand, if atPowerOfTwo then 1 else 2, 2)

/-- Decimal digits and the power of ten they are multiplied by. -/
structure Digits where
  digits : Nat
  exponent : Int
  deriving DecidableEq, Repr

/-- Which one is taken of two points of a grid that are equally near. -/
inductive Halfway where
  | up
  | toEven
  deriving DecidableEq, Repr

/-- Whether the point above a quotient of natural numbers is taken, where `floor` is the one
below. -/
def Halfway.takesAbove (halfway : Halfway) (floor : Nat) (value : Quotient) : Bool :=
  let twice := 2 * (value.numerator % value.denominator)
  if twice = value.denominator then halfway == .up || floor % 2 == 1
  else decide (value.denominator < twice)

/-- The point of the decimal grid with `count` digits that is nearest to a positive finite number
and reads back as it, if there is one. -/
def onGrid (halfway : Halfway) (number : Binary64) (count : Nat) : Option Digits :=
  let (middle, down, up) := number.margins
  let quarter := number.scale - 2
  let exponent := (Quotient.ofBinary middle quarter).powerOfTenAbove - count
  let place (quarters : Nat) : Quotient :=
    (Quotient.ofBinary quarters quarter).overPowerOfTen exponent
  let value := place middle
  let least := place (middle - down)
  let greatest := place (middle + up)
  let closed := number.significand % 2 == 0
  let floor := value.numerator / value.denominator
  let inside (candidate : Nat) : Bool :=
    if closed then
      decide (least.numerator ≤ candidate * least.denominator) &&
        decide (candidate * greatest.denominator ≤ greatest.numerator)
    else
      decide (least.numerator < candidate * least.denominator) &&
        decide (candidate * greatest.denominator < greatest.numerator)
  match inside floor, inside (floor + 1) with
  | true, true => some ⟨if halfway.takesAbove floor value then floor + 1 else floor, exponent⟩
  | true, false => some ⟨floor, exponent⟩
  | false, true => some ⟨floor + 1, exponent⟩
  | false, false => none

/-- Digits without zeros at their end. The count of digits bounds the count of zeros. -/
def Digits.withoutFinalZeros (fuel : Nat) (text : Digits) : Digits :=
  match fuel with
  | 0 => text
  | fuel + 1 =>
    if text.digits % 10 = 0 ∧ text.digits ≠ 0 then
      Digits.withoutFinalZeros fuel ⟨text.digits / 10, text.exponent + 1⟩
    else text

/-- The fewest digits that read back as a positive finite number. -/
def shortest (halfway : Halfway) (number : Binary64) : Digits :=
  let found := (List.range 17).findSome? fun count => onGrid halfway number (count + 1)
  (found.getD ⟨number.significand, 0⟩).withoutFinalZeros 17

/-! ### The plain form -/

/-- Digits with the point where the exponent puts it, filled up with zeros. -/
def Digits.positional (text : Digits) : List Char :=
  let digits := Nat.toDigits 10 text.digits
  if 0 ≤ text.exponent then digits ++ List.replicate text.exponent.toNat '0'
  else
    let places := (-text.exponent).toNat
    if places < digits.length then
      digits.take (digits.length - places) ++ '.' :: digits.drop (digits.length - places)
    else '0' :: '.' :: List.replicate (places - digits.length) '0' ++ digits

/-- A number in plain form: no exponent, no point behind a whole number. -/
def plain (number : Binary64) : String :=
  if number.isNaN then "NaN"
  else
    let sign := if number.isNegative then "-" else ""
    if !number.isFinite then sign ++ "inf"
    else if number.significand = 0 then sign ++ "0"
    else sign ++ String.ofList (number.shortest .up).positional

/-! ### The form for JSON -/

/-- Digits with one digit before the point and an exponent with its sign. -/
def Digits.scientific (text : Digits) : List Char :=
  let digits := Nat.toDigits 10 text.digits
  let exponent := text.exponent + digits.length - 1
  let mantissa := match digits with
    | [] => []
    | [only] => [only]
    | first :: rest => first :: '.' :: rest
  let sign := if exponent < 0 then '-' else '+'
  mantissa ++ 'e' :: sign :: Nat.toDigits 10 exponent.natAbs

/-- A number in JSON. A whole number keeps a point and a zero, very large and very small ones have
an exponent, and what is no finite number is null. -/
def json (number : Binary64) : String :=
  if !number.isFinite then "null"
  else
    let sign := if number.isNegative then "-" else ""
    if number.significand = 0 then sign ++ "0.0"
    else
      let text := number.shortest .toEven
      let exponent := text.exponent + (Nat.toDigits 10 text.digits).length - 1
      if -5 ≤ exponent ∧ exponent < 16 then
        let whole := if 0 ≤ text.exponent then ".0" else ""
        sign ++ String.ofList text.positional ++ whole
      else sign ++ String.ofList text.scientific

/-! ### Reading -/

/-- A text in lower case, where only ASCII letters have one. -/
def lowered (text : List Char) : List Char := text.map Char.toLower

/-- The digits at the start of a text, as a number that continues `start`, with their count and the
rest of the text. -/
def takeDigits (start count : Nat) : List Char → Nat × Nat × List Char
  | [] => (start, count, [])
  | character :: rest =>
    match digitValue? character with
    | some digit => takeDigits (10 * start + digit) (count + 1) rest
    | none => (start, count, character :: rest)

/-- Reads the exponent that follows the digits, zero where nothing follows. -/
def exponentOf? : List Char → Option Int
  | [] => some 0
  | mark :: rest => if mark == 'e' || mark == 'E' then integerOf? rest else none

/-- Reads a number without a sign. -/
def magnitudeOf? (negative : Bool) (text : List Char) : Option Binary64 :=
  let word := lowered text
  if word = "inf".toList ∨ word = "infinity".toList then some (infinity negative)
  else if word = "nan".toList then some nan
  else
    let (whole, wholeCount, afterWhole) := takeDigits 0 0 text
    let (digits, fractionCount, rest) := match afterWhole with
      | '.' :: afterPoint => takeDigits whole 0 afterPoint
      | other => (whole, 0, other)
    if wholeCount + fractionCount = 0 then none
    else (exponentOf? rest).map fun exponent =>
      ofDecimal negative digits (exponent - fractionCount)

/-- Reads a number: digits with or without a point and an exponent, or one of the words for an
infinity and for no number, in any case. At least one digit stands before or behind the point. -/
def ofText? (text : String) : Option Binary64 :=
  match text.toList with
  | '-' :: rest => magnitudeOf? true rest
  | '+' :: rest => magnitudeOf? false rest
  | whole => magnitudeOf? false whole

end Binary64

end Telemetry
