/-
This file holds an interval collector as a job on the clock.

The job waits for a tick, takes it, and puts the points of the run into the queue one by one. After
them, when collectors report on themselves, come the points about the collector itself. While a
point waits for room the job waits with it. The job ends when it is told to stop while it waits for
a tick, and when a point finds the consumer gone.

Where the order to stop is there and a tick is due, either may be taken. A step takes the order, and
the other choice is the step at a moment at which nobody looks for it; `Heed` names the two. A run
takes no time, so the order does not come in the middle of one.
-/

import Telemetry.Collector.Interval
import Telemetry.Collector.Ticker
import Telemetry.Schedule.Moment

namespace Telemetry

/-- What a job of an interval collector is doing. -/
inductive IntervalPhase where
  | waiting (ticker : Ticker)
  /-- Putting points into the queue. While they are the points of a run, `outcome` says whether it
  failed. -/
  | emitting (ticker : Ticker) (rest : List Point) (outcome : Option Bool)
  | stopped

/-- An interval collector as a job. -/
structure IntervalJob where
  state : IntervalState
  phase : IntervalPhase
  /-- What the collector was asked to do, and when. -/
  calls : List (Nat × Call)

namespace IntervalJob

/-- The job of a collector that is started now. Without a period it ends at once. -/
def start (collector : IntervalCollector) (context : Context) (now : Nat) : IntervalJob :=
  { state := collector.start
    phase :=
      match Ticker.start? collector.interval context.frequency now with
      | none => .stopped
      | some ticker => .waiting ticker
    calls := [] }

/-- When the job acts next by itself, if it waits for that. -/
def wakes (job : IntervalJob) : Option Nat :=
  match job.phase with
  | .waiting ticker => some ticker.due
  | _ => none

/-- Takes a tick. -/
def tick (job : IntervalJob) (ticker : Ticker) (moment : Moment) (shared : Shared) :
    IntervalJob × Shared :=
  let tick := job.state.tick shared.context moment.timestamp moment.surroundings
  let next := ticker.taken moment.now
  ({ state := tick.state
     phase :=
       match tick.failed with
       | none => .waiting next
       | some failed => .emitting next tick.batch (some failed)
     calls := job.calls ++ tick.calls.map fun call => (moment.now, call) },
   { shared with context := tick.context })

/-- Puts a point into the queue, if there is room. -/
def emit (job : IntervalJob) (ticker : Ticker) (point : Point) (rest : List Point)
    (outcome : Option Bool) (shared : Shared) : Option (IntervalJob × Shared) :=
  let emission := shared.dispatcher.emit shared.context.health job.state.name point
  let shared : Shared :=
    ⟨{ shared.context with health := emission.health }, emission.dispatcher⟩
  match emission.outcome with
  | .full => none
  | .closed => some ({ job with phase := .stopped }, shared)
  | _ => some ({ job with phase := .emitting ticker rest outcome }, shared)

/-- Begins the points about the collector itself. -/
def reportSelf (job : IntervalJob) (ticker : Ticker) (failed : Bool) (moment : Moment)
    (shared : Shared) : IntervalJob × Shared :=
  let (context, batch) :=
    shared.context.addAll [] moment.timestamp (job.state.selfReadings failed)
  ({ job with phase := .emitting ticker batch none }, { shared with context := context })

/-- One step of the job, or none where it has to wait or is over. -/
def step? (job : IntervalJob) (moment : Moment) (shared : Shared) :
    Option (IntervalJob × Shared) :=
  match job.phase with
  | .stopped => none
  | .waiting ticker =>
    if moment.cancelled then some ({ job with phase := .stopped }, shared)
    else if ticker.due ≤ moment.now then some (job.tick ticker moment shared)
    else none
  | .emitting ticker (point :: rest) outcome => job.emit ticker point rest outcome shared
  | .emitting ticker [] (some failed) =>
    if shared.context.collectorStats then some (job.reportSelf ticker failed moment shared)
    else some ({ job with phase := .waiting ticker }, shared)
  | .emitting ticker [] none => some ({ job with phase := .waiting ticker }, shared)

/-- One step of the job that heeds an order to stop in some way. Behind a tick it does not look for
the order once more before it acts. -/
def take? (job : IntervalJob) (heed : Heed) (moment : Moment) (shared : Shared) :
    Option (IntervalJob × Shared) :=
  match heed with
  | .atOnce => job.step? moment shared
  | .late => none
  | .notYet => job.step? moment.untold shared

/-! ### Progress -/

/-- How many more ticks there may be at most before `horizon`. -/
def remaining (job : IntervalJob) (horizon : Nat) : Nat :=
  match job.phase with
  | .waiting ticker => horizon - ticker.due + 1
  | .emitting ticker _ _ => horizon - ticker.due + 1
  | .stopped => 0

/-- How much work is left of the present tick. The points about the collector are two. -/
def pending (job : IntervalJob) : Nat :=
  match job.phase with
  | .waiting _ => 0
  | .emitting _ rest none => rest.length + 1
  | .emitting _ rest (some _) => rest.length + 4
  | .stopped => 0

theorem emit_before {job next : IntervalJob} {ticker : Ticker} {point : Point} {rest : List Point}
    {outcome : Option Bool} {shared after : Shared} (horizon : Nat)
    (phase : job.phase = .emitting ticker (point :: rest) outcome)
    (step : job.emit ticker point rest outcome shared = some (next, after)) :
    before (next.remaining horizon, next.pending) (job.remaining horizon, job.pending) := by
  simp only [emit] at step
  split at step
  · simp at step
  · simp only [Option.some.injEq, Prod.mk.injEq] at step
    obtain ⟨rfl, _⟩ := step
    left
    simp [remaining, phase]
  · simp only [Option.some.injEq, Prod.mk.injEq] at step
    obtain ⟨rfl, _⟩ := step
    right
    cases outcome <;> simp [remaining, pending, phase]

theorem tick_before {job : IntervalJob} {ticker : Ticker} {moment : Moment} {shared : Shared}
    {horizon : Nat} (phase : job.phase = .waiting ticker) (due : ticker.due ≤ moment.now)
    (early : moment.now < horizon) :
    before ((job.tick ticker moment shared).1.remaining horizon,
      (job.tick ticker moment shared).1.pending) (job.remaining horizon, job.pending) := by
  left
  have later := ticker.due_lt_taken moment.now
  simp only [tick, remaining, phase]
  split
  · rename_i waiting
    split at waiting <;> simp only [IntervalPhase.waiting.injEq, reduceCtorEq] at waiting
    subst waiting
    omega
  · rename_i emitting
    split at emitting <;> simp only [IntervalPhase.emitting.injEq, reduceCtorEq] at emitting
    obtain ⟨rfl, _⟩ := emitting
    omega
  · omega

/-- Every step of a job brings it nearer to its end before `horizon`. -/
theorem step?_before {job next : IntervalJob} {moment : Moment} {shared after : Shared}
    {horizon : Nat} (early : moment.now < horizon)
    (step : job.step? moment shared = some (next, after)) :
    before (next.remaining horizon, next.pending) (job.remaining horizon, job.pending) := by
  unfold step? at step
  split at step
  · simp at step
  · rename_i ticker phase
    split at step
    · simp only [Option.some.injEq, Prod.mk.injEq] at step
      obtain ⟨rfl, _⟩ := step
      left
      simp [remaining, phase]
    · split at step
      · rename_i due
        simp only [Option.some.injEq] at step
        have same := congrArg Prod.fst step
        simp only at same
        rw [← same]
        exact tick_before phase due early
      · simp at step
  · rename_i phase
    exact emit_before horizon phase step
  · rename_i ticker failed phase
    split at step
    · simp only [Option.some.injEq] at step
      have same := congrArg Prod.fst step
      simp only at same
      rw [← same]
      right
      have few := Context.length_addAll_le shared.context [] moment.timestamp
        (job.state.selfReadings failed)
      simp only [reportSelf, remaining, pending, phase, List.length_nil]
      simp only [IntervalState.selfReadings, List.length_cons, List.length_nil] at few
      simp only [true_and, gt_iff_lt]
      simp only [IntervalState.selfReadings]
      omega
    · simp only [Option.some.injEq, Prod.mk.injEq] at step
      obtain ⟨rfl, _⟩ := step
      right
      simp [remaining, pending, phase]
  · rename_i ticker phase
    simp only [Option.some.injEq, Prod.mk.injEq] at step
    obtain ⟨rfl, _⟩ := step
    right
    simp [remaining, pending, phase]

/-! ### The receiving end -/

/-- A step leaves the receiving end of the queue where it is. -/
theorem step?_receiver {job next : IntervalJob} {moment : Moment} {shared after : Shared}
    (step : job.step? moment shared = some (next, after)) :
    after.dispatcher.receiver = shared.dispatcher.receiver := by
  unfold step? at step
  split at step
  · simp at step
  · split at step
    · simp only [Option.some.injEq, Prod.mk.injEq] at step
      obtain ⟨_, rfl⟩ := step
      rfl
    · split at step
      · simp only [Option.some.injEq, tick, Prod.mk.injEq] at step
        obtain ⟨_, rfl⟩ := step
        rfl
      · simp at step
  · simp only [emit] at step
    split at step
    · simp at step
    · simp only [Option.some.injEq, Prod.mk.injEq] at step
      obtain ⟨_, rfl⟩ := step
      exact Dispatcher.emit_receiver _ _ _ _
    · simp only [Option.some.injEq, Prod.mk.injEq] at step
      obtain ⟨_, rfl⟩ := step
      exact Dispatcher.emit_receiver _ _ _ _
  · split at step
    · simp only [Option.some.injEq, reportSelf, Prod.mk.injEq] at step
      obtain ⟨_, rfl⟩ := step
      rfl
    · simp only [Option.some.injEq, Prod.mk.injEq] at step
      obtain ⟨_, rfl⟩ := step
      rfl
  · simp only [Option.some.injEq, Prod.mk.injEq] at step
    obtain ⟨_, rfl⟩ := step
    rfl

end IntervalJob

end Telemetry
