/-
This file reads durations, such as one hour and thirty minutes or one and a half seconds.

A duration is written as amounts with units, one after the other, and it is their sum. An amount
may have a fraction. Its whole part is counted in one grain and its fraction in another: up to
minutes a fraction is counted in nanoseconds, from hours on in seconds, and what is less than a
grain is lost. All these counts have to fit sixty-four bits.
-/

import Telemetry.Text.Integer
import Telemetry.Text.Words

namespace Telemetry

/-- Nanoseconds in a second. All durations and moments of this project are in nanoseconds. -/
def second : Nat := 1000000000

namespace Duration

/-! ### Units -/

/-- A unit: how it may be written, how many seconds or nanoseconds it has, and how many of the grain
in which its fractions are counted. -/
structure TimeUnit where
  names : List String
  /-- The duration of the grain in which the whole part is counted. -/
  grain : Nat
  size : Nat
  /-- The duration of the grain in which the fraction is counted. -/
  fineGrain : Nat
  fineSize : Nat
  deriving DecidableEq, Repr

/-- A unit of which all is counted in nanoseconds. -/
def fineUnit (names : List String) (size : Nat) : TimeUnit := ⟨names, 1, size, 1, size⟩

/-- A unit of whole seconds with fractions in nanoseconds. -/
def middleUnit (names : List String) (seconds : Nat) : TimeUnit :=
  ⟨names, second, seconds, 1, seconds * second⟩

/-- A unit of which all is counted in seconds. -/
def coarseUnit (names : List String) (seconds : Nat) : TimeUnit :=
  ⟨names, second, seconds, second, seconds⟩

/-- The units. A month has 30.44 days and a year 365.25 days. -/
def units : List TimeUnit :=
  [fineUnit ["nanos", "nsec", "ns"] 1,
   fineUnit ["usec", "us", "µs"] 1000,
   fineUnit ["millis", "msec", "ms"] 1000000,
   middleUnit ["seconds", "second", "secs", "sec", "s"] 1,
   middleUnit ["minutes", "minute", "min", "mins", "m"] 60,
   coarseUnit ["hours", "hour", "hr", "hrs", "h"] 3600,
   coarseUnit ["days", "day", "d"] 86400,
   coarseUnit ["weeks", "week", "wk", "wks", "w"] 604800,
   coarseUnit ["months", "month", "M"] 2630016,
   coarseUnit ["years", "year", "yr", "yrs", "y"] 31557600]

/-- The unit with a name. -/
def unit? (name : String) : Option TimeUnit := units.find? fun unit => unit.names.contains name

/-! ### Sums -/

/-- A duration extended by a count of grains. The nanoseconds beyond whole seconds have to fit
sixty-four bits together with the count of nanoseconds, and so have the seconds of the sum. -/
def extended (total count grain : Nat) : Option Nat := do
  if grain = 1 then
    let _ ← fittingUInt64? (total % second + count)
  let sum := total + count * grain
  let _ ← fittingUInt64? (sum / second)
  return sum

/-- A number with a fraction. Without one the denominator is one. -/
structure Amount where
  whole : Nat
  numerator : Nat
  denominator : Nat
  deriving DecidableEq, Repr

/-- A duration extended by an amount of a unit. -/
def add (total : Nat) (amount : Amount) (unit : TimeUnit) : Option Nat := do
  let sum ← extended total (← fittingUInt64? (amount.whole * unit.size)) unit.grain
  if amount.numerator = 0 then return sum
  let fine ← fittingUInt64? (amount.numerator * unit.fineSize)
  extended sum (fine / amount.denominator) unit.fineGrain

/-! ### Reading -/

/-- What was read of the amount that is not complete yet. -/
inductive Stage where
  /-- No amount is begun. -/
  | outside
  | whole (number : Nat)
  | fraction (amount : Amount)
  /-- The amount is complete and its unit is begun; the letters come latest first. -/
  | unit (amount : Amount) (letters : List Char)
  deriving DecidableEq, Repr

/-- The sum of the complete amounts, if there are any, and what was read of the next one. -/
structure State where
  sum : Option Nat
  stage : Stage
  deriving DecidableEq, Repr

/-- Whether a character may stand in the name of a unit. -/
def isUnitLetter (character : Char) : Bool :=
  ('a' ≤ character && character ≤ 'z') || ('A' ≤ character && character ≤ 'Z') || character == 'µ'

/-- Adds the complete amount, if its unit is known. -/
def close (sum : Option Nat) (amount : Amount) (letters : List Char) : Option Nat := do
  add (sum.getD 0) amount (← unit? (String.ofList letters.reverse))

/-- A fraction with one more digit. -/
def withDigit (amount : Amount) (digit : Nat) : Option Amount := do
  let denominator ← fittingUInt64? (10 * amount.denominator)
  let numerator ← fittingUInt64? (10 * amount.numerator + digit)
  return { amount with numerator := numerator, denominator := denominator }

/-- Reads one more character. Blanks may stand between the digits of a number and before its
unit. -/
def step (state : State) (character : Char) : Option State :=
  match state.stage, digitValue? character with
  | .outside, some digit => some { state with stage := .whole digit }
  | .whole number, some digit => do
    return { state with stage := .whole (← fittingUInt64? (10 * number + digit)) }
  | .fraction amount, some digit => do
    return { state with stage := .fraction (← withDigit amount digit) }
  | .unit amount letters, some digit => do
    return ⟨some (← close state.sum amount letters), .whole digit⟩
  | .unit amount letters, none =>
    if isBlank character then do return ⟨some (← close state.sum amount letters), .outside⟩
    else if isUnitLetter character then
      some { state with stage := .unit amount (character :: letters) }
    else none
  | .outside, none => if isBlank character then some state else none
  | .whole number, none =>
    if isBlank character then some state
    else if isUnitLetter character then
      some { state with stage := .unit ⟨number, 0, 1⟩ [character] }
    else if character = '.' then some { state with stage := .fraction ⟨number, 0, 1⟩ }
    else none
  | .fraction amount, none =>
    if isBlank character then some state
    else if isUnitLetter character && amount.denominator != 1 then
      some { state with stage := .unit amount [character] }
    else none

/-- What the whole text stands for. The last amount needs its unit as well. -/
def finish (state : State) : Option Nat :=
  match state.stage with
  | .outside => state.sum
  | .unit amount letters => close state.sum amount letters
  | _ => none

/-- Reads a duration. Zero alone needs no unit. -/
def ofText? (text : String) : Option Nat :=
  if text = "0" then some 0
  else do finish (← text.toList.foldlM step ⟨none, .outside⟩)

end Duration

end Telemetry
