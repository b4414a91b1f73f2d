/-
This file holds what happens to a tally that many parts of the program use at once.

A call that counts looks for the count of its name. Where there is one it adds to it at once; where
there is none it makes one, and until it gets to that others may have made it. A snapshot reads and
resets one name after the other. It reads every name that had a count when it began, no name twice,
and perhaps names that were added meanwhile. Between any two of these steps others may act, so what
happens is a sequence of the events below, in any order.

Beside the tally the traffic keeps what the calls have counted and what the snapshots have reported,
so that one can be said in terms of the other.
-/

import Telemetry.Tally

namespace Telemetry

namespace Tally

/-- A snapshot that is under way. -/
structure Survey where
  /-- The names that had a count when it began and that it has still to read. -/
  ahead : List String
  /-- What it has read and reset, in order. -/
  read : List (String × UInt64)
  deriving DecidableEq

/-- What a snapshot reports of what it has read: the counts that are not zero, by ascending name.
No name is read twice, so the names alone decide the order. -/
def listed (read : List (String × UInt64)) : List (String × UInt64) :=
  (read.filter fun entry => entry.2 ≠ 0).mergeSort fun left right => decide (left.1 ≤ right.1)

/-- A tally with all that use it. -/
structure Traffic where
  tally : Tally
  /-- The calls that found no count for their name and have still to add their amount. -/
  late : List (String × UInt64)
  surveys : List Survey
  /-- What the calls that are over have counted, in order. -/
  recorded : List (String × UInt64)
  /-- What the snapshots that are over have reported, in order. -/
  reports : List (List (String × UInt64))
  deriving DecidableEq

namespace Traffic

/-- What may happen. -/
inductive Event where
  /-- A call looks for the count of its name, and adds to it when there is one. -/
  | record (name : String) (amount : UInt64)
  /-- A call that found no count makes one, unless there is one by now, and adds to it. -/
  | create (place : Nat)
  /-- A snapshot begins. -/
  | survey
  /-- A snapshot reads and resets a name. -/
  | read (place : Nat) (name : String)
  /-- A snapshot reports. -/
  | report (place : Nat)
  deriving DecidableEq

/-- The call that an event begins, with its name and amount. -/
def Event.call? : Event → Option (String × UInt64)
  | .record name amount => some (name, amount)
  | _ => none

/-- The traffic of a new tally. -/
def start : Traffic := ⟨Tally.empty, [], [], [], []⟩

/-- Ends a call by adding its amount. -/
def add (traffic : Traffic) (name : String) (amount : UInt64) : Traffic :=
  { traffic with
    tally := traffic.tally.record name amount
    recorded := traffic.recorded ++ [(name, amount)] }

/-- Lets a call look for the count of its name. -/
def record (traffic : Traffic) (name : String) (amount : UInt64) : Traffic :=
  if traffic.tally.counts.contains name then traffic.add name amount
  else { traffic with late := traffic.late ++ [(name, amount)] }

/-- Lets a call that found no count add its amount. -/
def create? (traffic : Traffic) (place : Nat) : Option Traffic :=
  match traffic.late[place]? with
  | some (name, amount) =>
    some (add { traffic with late := traffic.late.eraseIdx place } name amount)
  | none => none

/-- Lets a snapshot read and reset a name that has a count and that it has not read yet. -/
def read? (traffic : Traffic) (place : Nat) (name : String) : Option Traffic :=
  match traffic.surveys[place]? with
  | some survey =>
    if traffic.tally.counts.contains name ∧ name ∉ survey.read.map (·.1) then
      let (amount, tally) := traffic.tally.take name
      let survey := ⟨survey.ahead.erase name, survey.read ++ [(name, amount)]⟩
      some { traffic with tally := tally, surveys := traffic.surveys.set place survey }
    else none
  | none => none

/-- Lets a snapshot report that has no name ahead. -/
def report? (traffic : Traffic) (place : Nat) : Option Traffic :=
  match traffic.surveys[place]? with
  | some ⟨[], read⟩ =>
    some { traffic with
      surveys := traffic.surveys.eraseIdx place
      reports := traffic.reports ++ [listed read] }
  | _ => none

/-- The traffic after an event, if the event is possible. -/
def step? (traffic : Traffic) : Event → Option Traffic
  | .record name amount => some (traffic.record name amount)
  | .create place => traffic.create? place
  | .survey => some { traffic with surveys := traffic.surveys ++ [⟨traffic.tally.counts.keys, []⟩] }
  | .read place name => traffic.read? place name
  | .report place => traffic.report? place

/-- The traffic after events in order, if they are possible. -/
def run? (traffic : Traffic) : List Event → Option Traffic
  | [] => some traffic
  | event :: rest => (traffic.step? event).bind fun next => next.run? rest

theorem run?_append (traffic : Traffic) (first rest : List Event) :
    traffic.run? (first ++ rest) = (traffic.run? first).bind fun next => next.run? rest := by
  induction first generalizing traffic with
  | nil => rfl
  | cons event others inductionHypothesis =>
    rw [List.cons_append, run?, run?, Option.bind_assoc]
    exact congrArg _ (funext inductionHypothesis)

/-- What every event keeps is kept by a run. -/
theorem run?_induction {Kept : Traffic → Prop}
    (step : ∀ {traffic after : Traffic} (event : Event), traffic.step? event = some after →
      Kept traffic → Kept after)
    {traffic after : Traffic} {events : List Event} (run : traffic.run? events = some after)
    (kept : Kept traffic) : Kept after := by
  induction events generalizing traffic with
  | nil => exact Option.some.inj run ▸ kept
  | cons event rest inductionHypothesis =>
    obtain ⟨next, possible, later⟩ := Option.bind_eq_some_iff.mp run
    exact inductionHypothesis later (step event possible kept)

end Traffic

end Tally

end Telemetry
