/-
This file reads and writes whole numbers in decimal, and the digits of other bases.

A number is written with ASCII digits and, when it is negative, a minus sign. Reading accepts one
sign, plus or minus, and any number of leading zeros; nothing else may stand in the text.
-/

namespace Telemetry

/-- The value of an ASCII digit. -/
def digitValue? (character : Char) : Option Nat :=
  if '0' ≤ character ∧ character ≤ '9' then some (character.toNat - '0'.toNat) else none

/-- The value of a hexadecimal digit. -/
def hexValue? (character : Char) : Option Nat :=
  if '0' ≤ character ∧ character ≤ '9' then some (character.toNat - 48)
  else if 'a' ≤ character ∧ character ≤ 'f' then some (character.toNat - 87)
  else if 'A' ≤ character ∧ character ≤ 'F' then some (character.toNat - 55)
  else none

/-- The character with a code point, if that is the code point of a character. -/
def characterOf? (code : Nat) : Option Char :=
  if h : code.isValidChar then some (Char.ofNatAux code h) else none

/-- The number whose digits in a base of at most sixteen are given. At least one is needed. -/
def numberIn? (base : Nat) (digits : List Char) : Option Nat :=
  if digits.isEmpty then none
  else digits.foldlM
    (fun number character => do
      let digit ← hexValue? character
      if digit < base then some (base * number + digit) else none)
    0

/-- The number whose decimal digits continue those of `start`. -/
def naturalFrom (start : Nat) : List Char → Option Nat
  | [] => some start
  | character :: rest =>
    match digitValue? character with
    | some digit => naturalFrom (10 * start + digit) rest
    | none => none

/-- Reads a number without a sign. At least one digit is needed. -/
def naturalOf? : List Char → Option Nat
  | [] => none
  | digits => naturalFrom 0 digits

/-- Reads a number with an optional sign. -/
def integerOf? : List Char → Option Int
  | '-' :: digits => (naturalOf? digits).map fun magnitude => -(magnitude : Int)
  | '+' :: digits => (naturalOf? digits).map fun magnitude => (magnitude : Int)
  | digits => (naturalOf? digits).map fun magnitude => (magnitude : Int)

/-- The whole numbers that sixty-four bits hold with a sign. -/
def fitsInt64 (number : Int) : Bool :=
  Int64.minValue.toInt ≤ number && number ≤ Int64.maxValue.toInt

/-- A number, if sixty-four bits hold it without a sign. -/
def fittingUInt64? (number : Nat) : Option Nat := if number < UInt64.size then some number else none

/-- Reads a signed number of sixty-four bits. -/
def int64? (text : String) : Option Int64 :=
  match integerOf? text.toList with
  | some number => if fitsInt64 number then some (Int64.ofInt number) else none
  | none => none

/-- Reads an unsigned number of sixty-four bits. A plus sign is accepted, a minus sign is not. -/
def uint64? (text : String) : Option Nat :=
  let digits := match text.toList with
    | '+' :: rest => rest
    | whole => whole
  (naturalOf? digits).bind fittingUInt64?

/-- The decimal digits of a number. -/
def decimal (number : Nat) : String := String.ofList (Nat.toDigits 10 number)

/-- A number with a sign, in decimal. -/
def signedDecimal (number : Int) : String :=
  if number < 0 then "-" ++ decimal number.natAbs else decimal number.natAbs

end Telemetry
