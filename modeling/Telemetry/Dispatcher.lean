/-
This file holds the queue into which all collectors put their points.

A point is made canonical once more before it is queued; one for which that fails is dropped and
counted. The queue is bounded: a point that finds it full has to wait, and the caller tries again
later. Once the receiver is gone no point is queued any more, and that is how a collector learns of
it.

A point is queued and counted and the gauge is set in one step here, and nothing is said about who
is served first of those that wait. `Desk` holds the steps apart, and `Slots` the order.
-/

import Telemetry.Health.Basic
import Telemetry.Point.Basic
import Telemetry.Tally

namespace Telemetry

/-- Where the receiving end of the queue is. -/
inductive Receiver where
  /-- Nobody has asked for it yet. -/
  | held
  | taken
  /-- The consumer is gone. -/
  | dropped
  deriving DecidableEq, Repr

/-- The queue of points. -/
structure Dispatcher where
  /-- How many points may wait. It is at least one. -/
  capacity : Nat
  queue : List Point
  receiver : Receiver
  /-- The points queued since the last snapshot, by collector. -/
  tally : Tally
  deriving DecidableEq

/-- What became of a point. -/
inductive Outcome where
  | queued
  /-- The point could not be made canonical and was dropped. -/
  | rejected
  /-- There was no room, and nothing happened. -/
  | full
  /-- The consumer is gone, and nothing happened. -/
  | closed
  deriving DecidableEq, Repr

/-- What offering points to the queue leads to. -/
structure Emission where
  outcome : Outcome
  /-- The points that were not offered, or were offered in vain. -/
  rest : List Point
  dispatcher : Dispatcher
  health : Health
  deriving DecidableEq

namespace Dispatcher

/-- A queue without points. -/
def new (capacity : Nat) : Dispatcher := ⟨max capacity 1, [], .held, Tally.empty⟩

/-- Whether the consumer is gone. -/
def isClosed (dispatcher : Dispatcher) : Bool := dispatcher.receiver = .dropped

/-- Whether one more point finds room. -/
def hasRoom (dispatcher : Dispatcher) : Bool := dispatcher.queue.length < dispatcher.capacity

/-- Queues a canonical point of a collector. -/
def enqueue (dispatcher : Dispatcher) (collector : String) (point : Point) : Dispatcher :=
  { dispatcher with
    queue := dispatcher.queue ++ [point]
    tally := dispatcher.tally.record collector 1 }

/-- Offers a point of a collector to the queue, while nobody else uses it. -/
def emit (dispatcher : Dispatcher) (health : Health) (collector : String) (point : Point) :
    Emission :=
  match point.clean with
  | .error _ => ⟨.rejected, [], dispatcher, health.reject⟩
  | .ok clean =>
    if dispatcher.isClosed then ⟨.closed, [point], dispatcher, health⟩
    else if dispatcher.hasRoom then
      let dispatcher := dispatcher.enqueue collector clean
      ⟨.queued, [], dispatcher, health.countEmitted collector dispatcher.queue.length⟩
    else ⟨.full, [point], dispatcher, health⟩

/-- Offers points in order, up to the first one that has to wait or finds the consumer gone. -/
def emitBatch (dispatcher : Dispatcher) (health : Health) (collector : String) :
    List Point → Emission
  | [] => ⟨.queued, [], dispatcher, health⟩
  | point :: rest =>
    let emission := dispatcher.emit health collector point
    match emission.outcome with
    | .full => { emission with rest := point :: rest }
    | .closed => { emission with rest := point :: rest }
    | _ => emission.dispatcher.emitBatch emission.health collector rest

/-- Hands out the receiving end to the first one that asks. -/
def takeReceiver (dispatcher : Dispatcher) : Bool × Dispatcher :=
  match dispatcher.receiver with
  | .held => (true, { dispatcher with receiver := .taken })
  | _ => (false, dispatcher)

/-- Ends the receiving end. The points that wait are lost. -/
def dropReceiver (dispatcher : Dispatcher) : Dispatcher :=
  match dispatcher.receiver with
  | .taken => { dispatcher with receiver := .dropped, queue := [] }
  | _ => dispatcher

/-- Takes the point that has waited longest. -/
def receive (dispatcher : Dispatcher) : Option Point × Dispatcher :=
  match dispatcher.queue with
  | [] => (none, dispatcher)
  | point :: rest => (some point, { dispatcher with queue := rest })

/-- Reads and resets the tally. -/
def snapshot (dispatcher : Dispatcher) : List (String × UInt64) × Dispatcher :=
  let (counts, tally) := dispatcher.tally.snapshot
  (counts, { dispatcher with tally := tally })

@[simp] theorem emitBatch_nil (dispatcher : Dispatcher) (health : Health) (collector : String) :
    dispatcher.emitBatch health collector [] = ⟨.queued, [], dispatcher, health⟩ := rfl

@[simp] theorem receive_of_nil (dispatcher : Dispatcher) (empty : dispatcher.queue = []) :
    dispatcher.receive = (none, dispatcher) := by
  simp [receive, empty]

/-- A point that is received was the first of those that wait. -/
theorem queue_of_receive {dispatcher after : Dispatcher} {point : Point}
    (received : dispatcher.receive = (some point, after)) :
    ∃ rest, dispatcher.queue = point :: rest ∧ after = { dispatcher with queue := rest } := by
  unfold receive at received
  split at received
  · cases received
  · rename_i first rest queue
    cases received
    exact ⟨rest, queue, rfl⟩

/-- Offering a point leaves the receiving end where it is. -/
@[simp] theorem emit_receiver (dispatcher : Dispatcher) (health : Health) (collector : String)
    (point : Point) :
    (dispatcher.emit health collector point).dispatcher.receiver = dispatcher.receiver := by
  unfold emit
  split
  · rfl
  · split
    · rfl
    · split <;> rfl

end Dispatcher

end Telemetry
