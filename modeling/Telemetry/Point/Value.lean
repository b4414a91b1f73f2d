/-
This file holds the value of a point: a signed whole number of sixty-four bits, or a binary floating
point number.

A text is read as a whole number first and as a floating point number after that. A count without
a sign that is too large for a signed number becomes the nearest floating point number, whether it
comes as a number or as text.
-/

import Telemetry.Refusal

namespace Telemetry

/-- The value of a point. -/
inductive Value where
  | integer (number : Int64)
  | real (number : Binary64)
  deriving DecidableEq, Repr

namespace Value

/-- The value of a natural number: a whole number where it fits, else the nearest real one. -/
def ofNat (number : Nat) : Value :=
  if fitsInt64 number then .integer (Int64.ofInt number) else .real (Binary64.ofNat number)

/-- Neither an infinity nor a value that is no number. -/
def isFinite : Value → Bool
  | .integer _ => true
  | .real number => number.isFinite

/-- The value as a floating point number, rounded where that is needed. -/
def toReal : Value → Binary64
  | .integer number => Binary64.ofInt number.toInt
  | .real number => number

/-- The text of a value in messages. -/
def text : Value → String
  | .integer number => signedDecimal number.toInt
  | .real number => number.plain

/-- The text of a value in JSON. -/
def json : Value → String
  | .integer number => signedDecimal number.toInt
  | .real number => number.json

/-- Reads a finite value. -/
def ofText (text : String) : Except Refusal Value :=
  match int64? text with
  | some number => .ok (.integer number)
  | none =>
    match Binary64.ofText? text with
    | none => .error (.unparseable text)
    | some number => if number.isFinite then .ok (.real number) else .error (.unparseable text)

end Value

end Telemetry
