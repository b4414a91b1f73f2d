/-
This file holds the rhythm of a collector.

A tick is due a period after the one before was due. When it is taken much later than it was due,
the next one is due a period after the moment it was taken, so ticks that were missed are not made
up for.
-/

import Telemetry.Context

namespace Telemetry

/-- A rhythm: when the next tick is due, and the time between two ticks. -/
structure Ticker where
  due : Nat
  period : Nat
  positive : 0 < period

namespace Ticker

/-- How late a tick may be taken without a change of the rhythm: five milliseconds. -/
def slack : Nat := 5000000

/-- The first tick is due after a delay. There is no rhythm without a period. -/
def after? (delay period now : Nat) : Option Ticker :=
  if positive : 0 < period then some ⟨now + delay, period, positive⟩ else none

/-- The rhythm of a collector that starts now. -/
def start? (interval : Option Nat) (frequency now : Nat) : Option Ticker :=
  match interval with
  | none => after? frequency frequency now
  | some 0 => after? 0 frequency now
  | some period => after? period period now

/-- The rhythm after a tick that is taken now. -/
def taken (ticker : Ticker) (now : Nat) : Ticker :=
  if ticker.due + slack < now then { ticker with due := now + ticker.period }
  else { ticker with due := ticker.due + ticker.period }

theorem due_lt_taken (ticker : Ticker) (now : Nat) : ticker.due < (ticker.taken now).due := by
  have positive := ticker.positive
  unfold taken
  split
  · simp only
    omega
  · simp only
    omega

theorem taken_period (ticker : Ticker) (now : Nat) : (ticker.taken now).period = ticker.period := by
  unfold taken
  split <;> rfl

end Ticker

end Telemetry
