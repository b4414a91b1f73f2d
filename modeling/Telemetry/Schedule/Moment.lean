/-
This file holds what the jobs on the clock have in common: what they share, the moment at which they
work, how they heed an order to stop, and the order in which their progress is measured.
-/

import Telemetry.Collector.Source
import Telemetry.Dispatcher
import Telemetry.Number.Power

namespace Telemetry

/-- What all jobs share. -/
structure Shared where
  context : Context
  dispatcher : Dispatcher

/-- A moment at which jobs work: the clock, whether they are told to stop, and what the system
shows. -/
structure Moment where
  now : Nat
  cancelled : Bool
  surroundings : Surroundings

/-- The clock shows no moment from this one on: its seconds are a signed number of 64 bits. -/
def Moment.limit : Nat := powerOfTwo 63 * second

/-- A moment at which nobody looks for an order to stop. -/
def Moment.untold (moment : Moment) : Moment := { moment with cancelled := false }

/-- How a job heeds the order to stop in a step in which it may find it. Where something else is
ready as well, either may be taken. -/
inductive Heed where
  /-- It takes the order before anything else. -/
  | atOnce
  /-- It takes what else is ready, and then the order before it acts on that. -/
  | late
  /-- It takes what else is ready. -/
  | notYet
  deriving DecidableEq, Repr

/-- The seconds on the clock. -/
def Moment.timestamp (moment : Moment) : Int64 := Int64.ofNat (moment.now / second)

/-- Whether one pair of numbers is before another one in the order by the first and then by the
second. -/
def before (left right : Nat × Nat) : Prop :=
  left.1 < right.1 ∨ left.1 = right.1 ∧ left.2 < right.2

end Telemetry
