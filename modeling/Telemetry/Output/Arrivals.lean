/-
This file holds a drain at work while points arrive.

Points may come into the queue between any two steps of the drain, one by one or many at once, and
so may the end of the queue and the order to stop. Which of these comes when is not said: a drain is
fed by any sequence of them that can happen.
-/

import Telemetry.Output

namespace Telemetry

/-- The lines of points, one after the other. -/
def encoded (points : List Point) : Bytes := points.flatMap Point.bytes

namespace Drain

/-- Something that happens to a drain. -/
inductive Event where
  /-- Points come into the queue. -/
  | arrive (burst : List Point)
  /-- The last sender of the queue goes. -/
  | close
  /-- The drain is told to stop. -/
  | cancel
  /-- The drain makes a step. -/
  | work (heeds : Bool)
  deriving DecidableEq

/-- The points that come with an event. -/
def Event.points : Event → List Point
  | .arrive burst => burst
  | _ => []

@[simp] theorem Event.points_close : Event.close.points = [] := rfl

@[simp] theorem Event.points_cancel : Event.cancel.points = [] := rfl

@[simp] theorem Event.points_work (heeds : Bool) : (Event.work heeds).points = [] := rfl

/-- The drain after an event, if the event is possible. Nothing comes into a closed queue. -/
def after? (drain : Drain) : Event → Option Drain
  | .arrive burst =>
    if drain.closed then none else some { drain with queue := drain.queue ++ burst }
  | .close => some { drain with closed := true }
  | .cancel => some { drain with cancelled := true }
  | .work heeds => drain.step? heeds

/-- The drain after events in order, with the points that came, if they are possible. -/
def follow? (drain : Drain) : List Event → Option (List Point × Drain)
  | [] => some ([], drain)
  | event :: rest =>
    match drain.after? event with
    | none => none
    | some next => (next.follow? rest).map fun (points, final) => (event.points ++ points, final)

/-- The drains that events lead to from an empty queue, with all points that came so far. -/
inductive Fed (limit : Option Nat) : List Point → Drain → Prop where
  | start : Fed limit [] (start [] false false limit)
  | next {points : List Point} {drain after : Drain} (event : Event) :
      Fed limit points drain → drain.after? event = some after →
        Fed limit (points ++ event.points) after

/-- What the drain has returned: how many points it has written, or why it failed. There is nothing
as long as it is at work. -/
def result? (drain : Drain) : Option (Except OutputFailure Nat) :=
  match drain.phase with
  | .finished => some (.ok drain.written)
  | .failed failure => some (.error failure)
  | _ => none

theorem Fed.follow {limit : Option Nat} {points later : List Point} {drain final : Drain}
    (fed : Fed limit points drain) {events : List Event}
    (followed : drain.follow? events = some (later, final)) :
    Fed limit (points ++ later) final := by
  induction events generalizing drain points later with
  | nil =>
    obtain ⟨rfl, rfl⟩ := Prod.mk.inj (Option.some.inj followed)
    rwa [List.append_nil]
  | cons event rest inductionHypothesis =>
    rw [follow?] at followed
    split at followed
    · cases followed
    · rename_i next happened
      obtain ⟨⟨others, _⟩, further, same⟩ := Option.map_eq_some_iff.mp followed
      obtain ⟨rfl, rfl⟩ := Prod.mk.inj same
      rw [← List.append_assoc]
      exact inductionHypothesis (fed.next event happened) further

/-- The drain goes on by itself as far as it can. -/
theorem Fed.run {limit : Option Nat} {points : List Point} {drain : Drain}
    (fed : Fed limit points drain) : Fed limit points drain.run := by
  fun_induction Drain.run drain with
  | case1 drain still => exact fed
  | case2 drain next step inductionHypothesis =>
    have further := fed.next (.work true) step
    rw [Event.points_work, List.append_nil] at further
    exact inductionHypothesis further

end Drain

end Telemetry
