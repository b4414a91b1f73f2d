/-
This file holds what happens between the steps in which a point is put into the queue.

`Dispatcher.emit` takes them together: a point is cleaned, put into the queue and counted, and the
gauge is set to the points that wait then. Here they are apart, as other emitters and the consumer
come in between. An emitter needs a slot for its point, and where none is free it waits in a line.
When its point is in the queue it is counted, then the emitter looks how many slots are not free,
and then it sets the gauge to that. The consumer receives a point first, and gives back its slot
then.

Only while its point waits for a slot an emitter can be told to give up.
-/

import Telemetry.Dispatcher
import Telemetry.Slots

namespace Telemetry

namespace Dispatcher

/-- Puts a canonical point behind the others, and counts nothing. -/
def push (dispatcher : Dispatcher) (point : Point) : Dispatcher :=
  { dispatcher with queue := dispatcher.queue ++ [point] }

/-- Counts a point of a collector that is in the queue. -/
def record (dispatcher : Dispatcher) (collector : String) : Dispatcher :=
  { dispatcher with tally := dispatcher.tally.record collector 1 }

theorem record_push (dispatcher : Dispatcher) (collector : String) (point : Point) :
    (dispatcher.push point).record collector = dispatcher.enqueue collector point := rfl

end Dispatcher

namespace Health

/-- One more point of a collector is in the output stream. -/
def countQueued (health : Health) (collector : String) : Health :=
  { health with emitted := health.emitted.increase collector 1 }

/-- Sets the gauge. -/
def setQueueLength (health : Health) (length : Nat) : Health :=
  { health with queueLength := length }

theorem setQueueLength_countQueued (health : Health) (collector : String) (length : Nat) :
    (health.countQueued collector).setQueueLength length =
      health.countEmitted collector length := rfl

end Health

/-- Where an emitter is. -/
inductive Stage where
  /-- It has no point. -/
  | idle
  /-- It has a canonical point that is not in the queue. -/
  | offering (point : Point)
  /-- Its point is in the queue, and nothing is counted. -/
  | queued
  /-- It is counted as well. -/
  | counted
  /-- It has seen how many slots are not free, and will set the gauge to that. -/
  | measured (length : Nat)
  deriving DecidableEq

/-- Whether the emitter has put a point into the queue and not set the gauge since. -/
def Stage.isUntold : Stage → Bool
  | .idle => false
  | .offering _ => false
  | .queued => true
  | .counted => true
  | .measured _ => true

/-- One that puts points into the queue for a collector, one after the other. -/
structure Sender where
  collector : String
  stage : Stage
  deriving DecidableEq

/-- The queue with its slots, its counters and the gauge, and all who use it. -/
structure Desk where
  dispatcher : Dispatcher
  health : Health
  slots : Slots
  senders : List Sender
  /-- How many points were received whose slots have not come back yet. -/
  returning : Nat
  /-- The points in the order in which they were put into the queue, and in which they were
  received. -/
  log : List Point
  received : List Point
  deriving DecidableEq

namespace Desk

/-- Something that comes about. -/
inductive Event where
  /-- A new emitter begins to work for a collector. -/
  | join (collector : String)
  /-- An emitter without a point is given one. -/
  | emit (place : Nat) (point : Point)
  /-- It joins the line. -/
  | wait (place : Nat)
  /-- It takes a slot that is free. -/
  | claim (place : Nat)
  /-- It puts its point into the queue. -/
  | push (place : Nat)
  /-- It finds the consumer gone. -/
  | refuse (place : Nat)
  /-- It gives up. -/
  | abandon (place : Nat)
  /-- Its point is counted. -/
  | count (place : Nat)
  /-- It looks how many slots are not free. -/
  | measure (place : Nat)
  /-- It sets the gauge to what it has seen. -/
  | tell (place : Nat)
  /-- The consumer asks for the receiving end. -/
  | take
  /-- The consumer receives a point. -/
  | receive
  /-- The slot of a point that was received comes back. -/
  | restore
  /-- The consumer goes. -/
  | leave
  /-- The tally is reported and reset. -/
  | report
  deriving DecidableEq

/-- A new queue, with the counters as they are then. -/
def start (capacity : Nat) (health : Health) : Desk :=
  let dispatcher := Dispatcher.new capacity
  { dispatcher := dispatcher
    health := health
    slots := Slots.new dispatcher.capacity
    senders := []
    returning := 0
    log := []
    received := [] }

/-- The stage of the emitter at a place. -/
def stage? (desk : Desk) (place : Nat) : Option Stage := desk.senders[place]?.map (·.stage)

/-- The desk when the emitter at a place has come to a stage. -/
def move (desk : Desk) (place : Nat) (stage : Stage) : Desk :=
  { desk with senders := desk.senders.modify place fun sender => { sender with stage := stage } }

/-- How many slots are not free. -/
def taken (desk : Desk) : Nat := desk.dispatcher.capacity - desk.slots.free

def emit? (desk : Desk) (place : Nat) (point : Point) : Option Desk :=
  match desk.stage? place with
  | some .idle =>
    match point.clean with
    | .error _ => some { desk with health := desk.health.reject }
    | .ok clean => some (desk.move place (.offering clean))
  | _ => none

/-- Lets an emitter that has a point ask for a slot in some way. -/
def ask? (desk : Desk) (place : Nat) (slots? : Option Slots) : Option Desk :=
  match desk.stage? place with
  | some (.offering _) =>
    if desk.dispatcher.isClosed then none
    else slots?.map fun slots => { desk with slots := slots }
  | _ => none

def push? (desk : Desk) (place : Nat) : Option Desk :=
  match desk.stage? place with
  | some (.offering point) =>
    if place ∈ desk.slots.held then
      some { desk.move place .queued with
        dispatcher := desk.dispatcher.push point
        slots := desk.slots.use place
        log := desk.log ++ [point] }
    else none
  | _ => none

def refuse? (desk : Desk) (place : Nat) : Option Desk :=
  match desk.stage? place with
  | some (.offering _) => if desk.dispatcher.isClosed then some (desk.move place .idle) else none
  | _ => none

def abandon? (desk : Desk) (place : Nat) : Option Desk :=
  match desk.stage? place with
  | some (.offering _) =>
    some { desk.move place .idle with slots := desk.slots.quit place }
  | _ => none

def count? (desk : Desk) (place : Nat) : Option Desk :=
  match desk.senders[place]? with
  | some ⟨collector, .queued⟩ =>
    some { desk.move place .counted with
      dispatcher := desk.dispatcher.record collector
      health := desk.health.countQueued collector }
  | _ => none

def measure? (desk : Desk) (place : Nat) : Option Desk :=
  match desk.stage? place with
  | some .counted => some (desk.move place (.measured desk.taken))
  | _ => none

def tell? (desk : Desk) (place : Nat) : Option Desk :=
  match desk.stage? place with
  | some (.measured length) =>
    some { desk.move place .idle with health := desk.health.setQueueLength length }
  | _ => none

def receive? (desk : Desk) : Option Desk :=
  match desk.dispatcher.receiver, desk.dispatcher.receive with
  | .taken, (some point, dispatcher) =>
    some { desk with
      dispatcher := dispatcher
      returning := desk.returning + 1
      received := desk.received ++ [point] }
  | _, _ => none

def restore? (desk : Desk) : Option Desk :=
  match desk.returning with
  | 0 => none
  | returning + 1 => some { desk with slots := desk.slots.restore, returning := returning }

def leave? (desk : Desk) : Option Desk :=
  match desk.dispatcher.receiver with
  | .taken =>
    some { desk with dispatcher := desk.dispatcher.dropReceiver, slots := desk.slots.close }
  | _ => none

/-- The desk after an event, if the event is possible. -/
def after? (desk : Desk) : Event → Option Desk
  | .join collector => some { desk with senders := desk.senders ++ [⟨collector, .idle⟩] }
  | .emit place point => desk.emit? place point
  | .wait place => desk.ask? place (desk.slots.wait? place)
  | .claim place => desk.ask? place (desk.slots.claim? place)
  | .push place => desk.push? place
  | .refuse place => desk.refuse? place
  | .abandon place => desk.abandon? place
  | .count place => desk.count? place
  | .measure place => desk.measure? place
  | .tell place => desk.tell? place
  | .take => some { desk with dispatcher := desk.dispatcher.takeReceiver.2 }
  | .receive => desk.receive?
  | .restore => desk.restore?
  | .leave => desk.leave?
  | .report => some { desk with dispatcher := desk.dispatcher.snapshot.2 }

/-- The desk after events in order, if they are possible. -/
def run? (desk : Desk) : List Event → Option Desk
  | [] => some desk
  | event :: rest =>
    match desk.after? event with
    | none => none
    | some next => next.run? rest

/-- The desks that events lead to from a new queue. -/
inductive Reachable (capacity : Nat) (health : Health) : Desk → Prop where
  | start : Reachable capacity health (start capacity health)
  | next {desk after : Desk} (event : Event) :
      Reachable capacity health desk → desk.after? event = some after →
        Reachable capacity health after

/-- Every emitter has set the gauge since it put a point into the queue. -/
def IsSettled (desk : Desk) : Prop := ∀ sender ∈ desk.senders, sender.stage.isUntold = false

instance (desk : Desk) : Decidable desk.IsSettled :=
  inferInstanceAs (Decidable (∀ sender ∈ desk.senders, sender.stage.isUntold = false))

/-- What an emitter does for a point that nobody interrupts, by what becomes of the point. -/
def course (place : Nat) (point : Point) : Outcome → List Event
  | .queued =>
    [.emit place point, .claim place, .push place, .count place, .measure place, .tell place]
  | .rejected => [.emit place point]
  | .full => [.emit place point]
  | .closed => [.emit place point, .refuse place]

theorem Reachable.run {capacity : Nat} {health : Health} {desk later : Desk}
    (reachable : Reachable capacity health desk) {events : List Event}
    (run : desk.run? events = some later) : Reachable capacity health later := by
  induction events generalizing desk with
  | nil =>
    rw [← Option.some.inj run]
    exact reachable
  | cons event rest inductionHypothesis =>
    rw [run?] at run
    split at run
    · cases run
    · rename_i next happened
      exact inductionHypothesis (reachable.next event happened) run

end Desk

end Telemetry
