/-
This file holds the stream of points from any number of emitters through the queue to the consumer.

An emitter works for a collector; several may work for the same one. It is given points by calls,
one point or a batch at a time, and settles them in order. It gives way to the others only between
two points and while a point waits for room, so what happens is a sequence of the events below, in
any order. A call may be given up at such a place, and then its points that are not settled yet are
given up with it.

To queue a point, to count it and to set the gauge is one event here. What comes about in between is
in `Desk`.

Beside the queue and the counters the stream keeps what was received and what became of every point,
so that one can be said in terms of the other.
-/

import Telemetry.Dispatcher

namespace Telemetry

/-- One that puts points into the queue for a collector. -/
structure Emitter where
  collector : String
  /-- All points it was ever given, in the order of its calls. -/
  given : List Point
  /-- The points of the present call that are not settled yet. -/
  waiting : List Point
  deriving DecidableEq

/-- A point that an emitter is done with. -/
structure Settled where
  /-- The place of the emitter among all emitters. -/
  place : Nat
  collector : String
  /-- The point as it was given. -/
  point : Point
  /-- What the emitter was told: whether the consumer is there. It was told nothing about a point
  that was given up. -/
  answer : Option Bool
  deriving DecidableEq

/-- The entry that a settled point has in the log: its clean form, with the collector, when the
emitter was told that the consumer is there and the point could be cleaned. -/
def Settled.logged? (settled : Settled) : Option (String × Point) :=
  match settled.answer, settled.point.clean with
  | some true, .ok clean => some (settled.collector, clean)
  | _, _ => none

/-- Whether a point was offered to the queue and could not be cleaned. -/
def Settled.isRejected (settled : Settled) : Bool :=
  match settled.answer, settled.point.clean with
  | some _, .error _ => true
  | _, _ => false

/-- The queue with all that write to it and read from it. -/
structure Stream where
  dispatcher : Dispatcher
  health : Health
  emitters : List Emitter
  /-- The points the consumer has received, in order. -/
  received : List Point
  /-- The points the emitters are done with, in the order in which they were settled. -/
  history : List Settled
  deriving DecidableEq

namespace Stream

/-- What may happen. -/
inductive Event where
  /-- A new emitter begins to work for a collector. -/
  | join (collector : String)
  /-- An emitter that has nothing to do is given points. -/
  | call (place : Nat) (points : List Point)
  /-- An emitter offers its next point to the queue. -/
  | offer (place : Nat)
  /-- The call of an emitter is given up. -/
  | abandon (place : Nat)
  /-- The consumer asks for the receiving end. -/
  | take
  /-- The consumer receives a point. -/
  | receive
  /-- The consumer goes. -/
  | leave
  /-- The tally is reported and reset. -/
  | report
  deriving DecidableEq

/-- The stream of a new queue, with the counters as they are then. -/
def start (capacity : Nat) (health : Health) : Stream :=
  ⟨Dispatcher.new capacity, health, [], [], []⟩

/-- The points in the order in which they were put into the queue, each with its collector. -/
def log (stream : Stream) : List (String × Point) := stream.history.filterMap Settled.logged?

/-- What was given up of a call. -/
def givenUp (place : Nat) (collector : String) (points : List Point) : List Settled :=
  points.map fun point => ⟨place, collector, point, none⟩

/-- The stream after an emitter has settled points and has others left to settle. -/
def settle (stream : Stream) (place : Nat) (emitter : Emitter) (left : List Point)
    (settled : List Settled) : Stream :=
  { stream with
    emitters := stream.emitters.set place { emitter with waiting := left }
    history := stream.history ++ settled }

/-- Gives points to an emitter. -/
def call? (stream : Stream) (place : Nat) (points : List Point) : Option Stream :=
  match stream.emitters[place]? with
  | some ⟨collector, given, []⟩ =>
    some { stream with
      emitters := stream.emitters.set place ⟨collector, given ++ points, points⟩ }
  | _ => none

/-- Offers the next point of an emitter to the queue. Nothing happens as long as there is no room;
an emitter that finds the consumer gone ends its call. -/
def offer? (stream : Stream) (place : Nat) : Option Stream :=
  match stream.emitters[place]? with
  | some ⟨collector, given, point :: rest⟩ =>
    let emitter : Emitter := ⟨collector, given, point :: rest⟩
    let emission := stream.dispatcher.emit stream.health collector point
    let offered : Stream :=
      { stream with dispatcher := emission.dispatcher, health := emission.health }
    match emission.outcome with
    | .full => none
    | .closed =>
      some (offered.settle place emitter []
        (⟨place, collector, point, some false⟩ :: givenUp place collector rest))
    | _ => some (offered.settle place emitter rest [⟨place, collector, point, some true⟩])
  | _ => none

/-- Gives up the call of an emitter. -/
def abandon? (stream : Stream) (place : Nat) : Option Stream :=
  match stream.emitters[place]? with
  | some emitter =>
    some (stream.settle place emitter [] (givenUp place emitter.collector emitter.waiting))
  | none => none

/-- Lets the consumer receive the point that has waited longest. -/
def receive? (stream : Stream) : Option Stream :=
  match stream.dispatcher.receiver, stream.dispatcher.receive with
  | .taken, (some point, dispatcher) =>
    some { stream with dispatcher := dispatcher, received := stream.received ++ [point] }
  | _, _ => none

/-- The stream after an event, if the event is possible. -/
def step? (stream : Stream) : Event → Option Stream
  | .join collector =>
    some { stream with emitters := stream.emitters ++ [⟨collector, [], []⟩] }
  | .call place points => stream.call? place points
  | .offer place => stream.offer? place
  | .abandon place => stream.abandon? place
  | .take => some { stream with dispatcher := stream.dispatcher.takeReceiver.2 }
  | .receive => stream.receive?
  | .leave => some { stream with dispatcher := stream.dispatcher.dropReceiver }
  | .report => some { stream with dispatcher := stream.dispatcher.snapshot.2 }

/-- The stream after events in order, if they are possible. -/
def run? (stream : Stream) : List Event → Option Stream
  | [] => some stream
  | event :: rest =>
    match stream.step? event with
    | some next => next.run? rest
    | none => none

/-- The streams that events lead to from a new queue. -/
inductive Reachable (capacity : Nat) (health : Health) : Stream → Prop where
  | start : Reachable capacity health (start capacity health)
  | next {stream after : Stream} (event : Event) :
      Reachable capacity health stream → stream.step? event = some after →
        Reachable capacity health after

/-- A run from a reachable stream leads to a reachable one. -/
theorem Reachable.run {capacity : Nat} {health : Health} {stream after : Stream}
    (reachable : Reachable capacity health stream) {events : List Event}
    (run : stream.run? events = some after) : Reachable capacity health after := by
  induction events generalizing stream with
  | nil =>
    rw [← Option.some.inj run]
    exact reachable
  | cons event rest inductionHypothesis =>
    rw [run?] at run
    split at run
    · rename_i step
      exact inductionHypothesis (reachable.next event step) run
    · cases run

end Stream

end Telemetry
