/-
This file holds the jobs at work beside each other, with all at which an order to stop may find
them.

On the clock of a world a run takes no time, the clock stands still while a job can act, and a point
that finds room is in the queue at once. Here none of this is so, though the jobs make the same
steps. A run is under way from the tick that was taken for it, and what it changes it changes when
it is over. A point needs a slot before it is put into the queue, and where none is free its job
waits in a line. Where the order to stop is there and something else is ready, either may be taken.

The order to stop, a consumer that receives or goes, and the time are events like the others. Which
of them comes when is not said: a hall is reached by any sequence of events that can happen.
-/

import Telemetry.Schedule.ProgramCourse
import Telemetry.Slots

namespace Telemetry

/-- Whether a point needs a slot. One that cannot be cleaned is dropped before, and that the
consumer is gone is found without one. -/
def Dispatcher.needsSlot (dispatcher : Dispatcher) (point : Point) : Bool :=
  match point.clean with
  | .error _ => false
  | .ok _ => !dispatcher.isClosed

namespace Job

/-- Whether a job has come to its end. -/
def isOver : Job → Bool
  | .interval job =>
    match job.phase with
    | .stopped => true
    | _ => false
  | .program job =>
    match job.phase with
    | .stopped => true
    | _ => false

/-- Whether the job waits for a tick. -/
def awaitsTick : Job → Bool
  | .interval job =>
    match job.phase with
    | .waiting _ => true
    | _ => false
  | .program _ => false

/-- Whether the job looks for an order to stop at the place at which it is. A program does so as
long as it is not over, also while a point of it waits. -/
def hears (job : Job) : Bool :=
  match job with
  | .interval _ => job.awaitsTick
  | .program _ => !job.isOver

/-- The job when it has taken the order to stop. -/
def stopped : Job → Job
  | .interval job => .interval { job with phase := .stopped }
  | .program job => .program { job with phase := .stopped }

/-- The point that the job has for the queue. -/
def offered? : Job → Option Point
  | .interval job =>
    match job.phase with
    | .emitting _ (point :: _) _ => some point
    | _ => none
  | .program job => job.held

/-- Whether the job has a point that needs a slot. -/
def needsSlot (dispatcher : Dispatcher) (job : Job) : Bool :=
  job.offered?.any dispatcher.needsSlot

end Job

/-- A job at work. -/
inductive Task where
  /-- No run of it is under way. -/
  | only (job : Job)
  /-- A run is under way, for a tick that was taken at a moment. -/
  | run (job : IntervalJob) (ticker : Ticker) (tick : Moment)

namespace Task

/-- Whether the job has come to its end. -/
def isOver : Task → Bool
  | .only job => job.isOver
  | .run _ _ _ => false

def needsSlot (dispatcher : Dispatcher) : Task → Bool
  | .only job => job.needsSlot dispatcher
  | .run _ _ _ => false

/-- Takes a tick that is due, whether there is an order to stop or not. -/
def begin? (moment : Moment) : Task → Option Task
  | .only (.interval job) =>
    match job.phase with
    | .waiting ticker => if ticker.due ≤ moment.now then some (.run job ticker moment) else none
    | _ => none
  | _ => none

/-- The run is over. -/
def finish? (shared : Shared) : Task → Option (Task × Shared)
  | .run job ticker tick =>
    let (job, shared) := job.tick ticker tick shared
    some (.only (.interval job), shared)
  | .only _ => none

/-- Takes the order to stop, at a place at which the job looks for it. -/
def stop? (moment : Moment) : Task → Option Task
  | .only job => if moment.cancelled && job.hears then some (.only job.stopped) else none
  | .run job _ _ =>
    if moment.cancelled then some (.only (Job.interval job).stopped) else none

/-- The order to stop is heeded between the count of a restart that is due and the restart. -/
def turnBack? (moment : Moment) (shared : Shared) : Task → Option (Task × Shared)
  | .only job => (job.take? .late moment shared).map fun (job, shared) => (.only job, shared)
  | .run _ _ _ => none

/-- Any other step of the job. It does not look for an order to stop. -/
def work? (moment : Moment) (shared : Shared) : Task → Option (Task × Shared)
  | .only job =>
    if job.awaitsTick then none
    else (job.step? moment.untold shared).map fun (job, shared) => (.only job, shared)
  | .run _ _ _ => none

/-- How many steps may lead a job to its end once it is told to stop. A point takes two. -/
def stepsLeft : Task → Nat
  | .only job => if job.isOver then 0 else 2 * job.pending + 1
  | .run _ _ _ => 1

end Task

/-- All jobs at work, with the queue and its slots. -/
structure Hall where
  moment : Moment
  shared : Shared
  slots : Slots
  /-- How many points were received whose slots have not come back yet. -/
  returning : Nat
  tasks : List Task

namespace Hall

/-- Something that comes about in a hall. -/
inductive Event where
  /-- Time passes, and the system may show something else then. -/
  | pass (now : Nat) (surroundings : Surroundings)
  /-- The tally is reported and reset. -/
  | report
  /-- The jobs are told to stop. -/
  | order
  /-- The consumer receives a point. -/
  | receive
  /-- The slot of a point that was received comes back. -/
  | restore
  /-- The consumer goes. -/
  | leave
  /-- The job at a place joins the line of those who wait for a slot. -/
  | wait (place : Nat)
  /-- It takes a slot that is free. -/
  | claim (place : Nat)
  /-- It takes a tick that is due. -/
  | begin (place : Nat)
  /-- Its run is over. -/
  | finish (place : Nat)
  /-- It takes the order to stop. -/
  | stop (place : Nat)
  /-- It does so when it has counted a restart. -/
  | turnBack (place : Nat)
  /-- It makes any other step. -/
  | work (place : Nat)

/-- The events with which a job comes further. None of them is up to the consumer. To join the line
is not among them. -/
def Event.stepsOf (place : Nat) : List Event :=
  [.claim place, .begin place, .finish place, .stop place, .turnBack place, .work place]

/-- The hall in which the collectors of a registry are started. -/
def start (registry : Registry) (context : Context) (surroundings : Surroundings)
    (lives : String → Nat → Life) (capacity now : Nat) : Hall :=
  let dispatcher := (Dispatcher.new capacity).takeReceiver.2
  { moment := ⟨now, false, surroundings⟩
    shared := ⟨context, dispatcher⟩
    slots := Slots.new dispatcher.capacity
    returning := 0
    tasks := registry.collectors.map fun collector =>
      .only (World.jobOf context now lives collector) }

/-- The queue. -/
def dispatcher (hall : Hall) : Dispatcher := hall.shared.dispatcher

/-- The hall with another queue. -/
def withDispatcher (hall : Hall) (dispatcher : Dispatcher) : Hall :=
  { hall with shared := { hall.shared with dispatcher := dispatcher } }

/-- The hall after a task at a place has changed something. -/
def put (hall : Hall) (place : Nat) (task : Task) (shared : Shared) : Hall :=
  { hall with tasks := hall.tasks.set place task, shared := shared }

/-- The consumer receives the point that has waited longest. Its slot comes back after that. -/
def receive? (hall : Hall) : Option Hall :=
  match hall.dispatcher.receiver, hall.dispatcher.receive with
  | .taken, (some _, dispatcher) =>
    some { hall.withDispatcher dispatcher with
      returning := hall.returning + 1 }
  | _, _ => none

def restore? (hall : Hall) : Option Hall :=
  match hall.returning with
  | 0 => none
  | returning + 1 => some { hall with slots := hall.slots.restore, returning := returning }

/-- The consumer goes, and whoever waits for a slot learns of it. -/
def leave? (hall : Hall) : Option Hall :=
  match hall.dispatcher.receiver with
  | .taken =>
    some { hall.withDispatcher hall.dispatcher.dropReceiver with slots := hall.slots.close }
  | _ => none

/-- Lets a job that needs a slot ask for one in some way. -/
def ask? (hall : Hall) (place : Nat) (slots? : Option Slots) : Option Hall :=
  match hall.tasks[place]? with
  | none => none
  | some task =>
    if task.needsSlot hall.dispatcher then slots?.map fun slots => { hall with slots := slots }
    else none

/-- Lets a job take the order to stop. It leaves the line, or passes its slot on. -/
def stop? (hall : Hall) (place : Nat) : Option Hall :=
  match hall.tasks[place]? with
  | none => none
  | some task =>
    (task.stop? hall.moment).map fun next =>
      { hall.put place next hall.shared with slots := hall.slots.quit place }

/-- Lets a job make a step. One that needs a slot has to have it, and puts its point into the
queue. -/
def work? (hall : Hall) (place : Nat) : Option Hall :=
  match hall.tasks[place]? with
  | none => none
  | some task =>
    if task.needsSlot hall.dispatcher then
      if place ∈ hall.slots.held then
        (task.work? hall.moment hall.shared).map fun (next, shared) =>
          { hall.put place next shared with slots := hall.slots.use place }
      else none
    else (task.work? hall.moment hall.shared).map fun (next, shared) => hall.put place next shared

/-- The hall after an event, if the event is possible. -/
def after? (hall : Hall) : Event → Option Hall
  | .pass now surroundings =>
    if hall.moment.now ≤ now then
      some { hall with
        moment := { hall.moment with now := now, surroundings := surroundings } }
    else none
  | .report => some (hall.withDispatcher hall.dispatcher.snapshot.2)
  | .order => some { hall with moment := { hall.moment with cancelled := true } }
  | .receive => hall.receive?
  | .restore => hall.restore?
  | .leave => hall.leave?
  | .wait place => hall.ask? place (hall.slots.wait? place)
  | .claim place => hall.ask? place (hall.slots.claim? place)
  | .begin place =>
    (hall.tasks[place]?.bind (·.begin? hall.moment)).map (hall.put place · hall.shared)
  | .finish place =>
    (hall.tasks[place]?.bind (·.finish? hall.shared)).map fun (next, shared) =>
      hall.put place next shared
  | .stop place => hall.stop? place
  | .turnBack place =>
    (hall.tasks[place]?.bind (·.turnBack? hall.moment hall.shared)).map fun (next, shared) =>
      hall.put place next shared
  | .work place => hall.work? place

/-- The hall after events in order, if they are possible. -/
def undergo? (hall : Hall) : List Event → Option Hall
  | [] => some hall
  | event :: rest =>
    match hall.after? event with
    | none => none
    | some next => next.undergo? rest

/-- The halls that events lead to from the start of collectors. -/
inductive Reachable : Hall → Prop where
  | start (registry : Registry) (context : Context) (surroundings : Surroundings)
      (lives : String → Nat → Life) (capacity now : Nat) :
      Reachable (start registry context surroundings lives capacity now)
  | next {hall after : Hall} (event : Event) :
      Reachable hall → hall.after? event = some after → Reachable after

/-- Whether the job at a place can come further, whatever the consumer does. -/
def canStep (hall : Hall) (place : Nat) : Bool :=
  (Event.stepsOf place).any fun event => (hall.after? event).isSome

/-- The job at a place waits for a slot. It runs at an interval, so it does not look for an order to
stop there, and nothing but a slot that comes back, or a consumer that goes, can help. -/
def AwaitsSlot (hall : Hall) (place : Nat) : Prop :=
  ∃ job, hall.tasks[place]? = some (.only (.interval job)) ∧
    (Job.interval job).needsSlot hall.dispatcher = true ∧
    hall.slots.free = 0 ∧ place ∉ hall.slots.held

/-- A slot comes back in an event: that of a point that was received, or one that was given to a job
that stops. -/
def Restores (hall : Hall) (event : Event) : Prop :=
  event = .restore ∨ ∃ place ∈ hall.slots.held, event = .stop place

theorem undergo?_cons {hall next : Hall} {event : Event}
    (happened : hall.after? event = some next) (rest : List Event) :
    hall.undergo? (event :: rest) = next.undergo? rest := by
  rw [undergo?, happened]

theorem undergo?_append {hall next : Hall} {events : List Event}
    (undergone : hall.undergo? events = some next) (more : List Event) :
    hall.undergo? (events ++ more) = next.undergo? more := by
  induction events generalizing hall with
  | nil =>
    obtain rfl := Option.some.inj undergone
    rfl
  | cons event rest inductionHypothesis =>
    rw [undergo?] at undergone
    split at undergone
    · cases undergone
    · rename_i between happened
      rw [List.cons_append, undergo?_cons happened, inductionHypothesis undergone]

theorem Reachable.undergo {hall later : Hall} (reachable : Reachable hall)
    {events : List Event} (undergone : hall.undergo? events = some later) : Reachable later := by
  induction events generalizing hall with
  | nil =>
    rw [← Option.some.inj undergone]
    exact reachable
  | cons event rest inductionHypothesis =>
    rw [undergo?] at undergone
    split at undergone
    · cases undergone
    · rename_i next happened
      exact inductionHypothesis (reachable.next event happened) undergone

end Hall

end Telemetry
