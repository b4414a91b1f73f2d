/-
This file holds what the agent counts about itself.

Six counters only grow; the two gauges, the watched processes of an entry and the length of the
queue, show the last value that was set. A counter with a label has a series for every label it was
ever counted under.
-/

import Telemetry.Table

namespace Telemetry

/-- What the agent has counted about itself. -/
structure Health where
  /-- Points handed to the output stream, by collector. -/
  emitted : Table Nat
  /-- Points dropped because they could not be made canonical. -/
  rejected : Nat
  /-- Failed runs, by collector. -/
  failures : Table Nat
  /-- Runs whose duration was observed, by collector. -/
  observed : Table Nat
  /-- Restarts, by program. -/
  restarts : Table Nat
  /-- Lines of programs that could not be read. -/
  unreadable : Nat
  /-- Live processes, by entry of the watch list. -/
  watched : Table Nat
  /-- Points in the queue when the last point was put into it. -/
  queueLength : Nat
  deriving DecidableEq

namespace Health

/-- Nothing counted yet. -/
def fresh : Health :=
  { emitted := ∅, rejected := 0, failures := ∅, observed := ∅, restarts := ∅, unreadable := 0,
    watched := ∅, queueLength := 0 }

/-- One more point was dropped. -/
def reject (health : Health) : Health := { health with rejected := health.rejected + 1 }

/-- One more line could not be read. -/
def countUnreadable (health : Health) : Health :=
  { health with unreadable := health.unreadable + 1 }

/-- One more point of a collector is in the output stream, whose queue now has `length` points. -/
def countEmitted (health : Health) (collector : String) (length : Nat) : Health :=
  { health with emitted := health.emitted.increase collector 1, queueLength := length }

/-- One more run of a collector is over. -/
def countRun (health : Health) (collector : String) (failed : Bool) : Health :=
  { health with
    observed := health.observed.increase collector 1
    failures := if failed then health.failures.increase collector 1 else health.failures }

/-- One more restart of a program. -/
def countRestart (health : Health) (program : String) : Health :=
  { health with restarts := health.restarts.increase program 1 }

/-- An entry of the watch list has `count` live processes. -/
def setWatched (health : Health) (name : String) (count : Nat) : Health :=
  { health with watched := health.watched.insert name count }

end Health

end Telemetry
