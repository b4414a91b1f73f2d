/-
This file holds the clock on which all jobs work, together with the queue and its consumer.

Nothing takes time but waiting: the clock stands still while anything can act, and then moves to the
moment at which something acts next. At one moment the report on the queue comes first, then a
consumer that goes, then the jobs in their order, each as far as it can, and last a consumer that
receives. The actions and their effects are given apart from this order, so that other orders can be
spoken of as well.
-/

import Telemetry.Collector.Registry
import Telemetry.Schedule.IntervalJob
import Telemetry.Schedule.ProgramJob

namespace Telemetry

/-- A collector as a job on the clock. -/
inductive Job where
  | interval (job : IntervalJob)
  | program (job : ProgramJob)

namespace Job

/-- The name of the collector. -/
def name : Job → String
  | .interval job => job.state.name
  | .program job => job.program.name

/-- When a job acts next by itself, if it waits for that. -/
def wakes : Job → Option Nat
  | .interval job => job.wakes
  | .program job => job.wakes

/-- One step of a job, or none where it has to wait or is over. -/
def step? (moment : Moment) (shared : Shared) : Job → Option (Job × Shared)
  | .interval job =>
    (job.step? moment shared).map fun (job, shared) => (.interval job, shared)
  | .program job =>
    (job.step? moment shared).map fun (job, shared) => (.program job, shared)

/-- One step of a job that heeds an order to stop in some way. -/
def take? (heed : Heed) (moment : Moment) (shared : Shared) : Job → Option (Job × Shared)
  | .interval job =>
    (job.take? heed moment shared).map fun (job, shared) => (.interval job, shared)
  | .program job =>
    (job.take? heed moment shared).map fun (job, shared) => (.program job, shared)

/-- How far a job may still be from its end before `horizon`. -/
def remaining (horizon : Nat) : Job → Nat
  | .interval job => job.remaining horizon
  | .program job => job.remaining horizon

/-- How much work is left that takes no time. -/
def pending : Job → Nat
  | .interval job => job.pending
  | .program job => job.pending

theorem step?_before {job next : Job} {moment : Moment} {shared after : Shared} {horizon : Nat}
    (early : moment.now < horizon) (step : job.step? moment shared = some (next, after)) :
    before (next.remaining horizon, next.pending) (job.remaining horizon, job.pending) := by
  cases job with
  | interval job =>
    simp only [step?, Option.map_eq_some_iff, Prod.mk.injEq] at step
    obtain ⟨⟨found, changed⟩, step, rfl, _⟩ := step
    exact job.step?_before early step
  | program job =>
    simp only [step?, Option.map_eq_some_iff, Prod.mk.injEq] at step
    obtain ⟨⟨found, changed⟩, step, rfl, _⟩ := step
    exact job.step?_before early step

theorem step?_receiver {job next : Job} {moment : Moment} {shared after : Shared}
    (step : job.step? moment shared = some (next, after)) :
    after.dispatcher.receiver = shared.dispatcher.receiver := by
  cases job with
  | interval job =>
    simp only [step?, Option.map_eq_some_iff, Prod.mk.injEq] at step
    obtain ⟨⟨found, changed⟩, step, _, rfl⟩ := step
    exact job.step?_receiver step
  | program job =>
    simp only [step?, Option.map_eq_some_iff, Prod.mk.injEq] at step
    obtain ⟨⟨found, changed⟩, step, _, rfl⟩ := step
    exact job.step?_receiver step

end Job

/-- The consumer of the queue: how long it pauses after a point, how many points it still receives,
from when on it receives the next one, and what it has received so far and when. -/
structure Consumer where
  pause : Nat
  allowance : Option Nat
  resumes : Nat
  received : List (Nat × Point)
  deriving DecidableEq

namespace Consumer

/-- A consumer that is ready at once. -/
def start (pause : Nat) (allowance : Option Nat) (now : Nat) : Consumer :=
  ⟨pause, allowance, now, []⟩

/-- Whether the consumer receives a point that waits now. -/
def isReady (consumer : Consumer) (now : Nat) : Bool :=
  consumer.resumes ≤ now && consumer.allowance != some 0

/-- The consumer after it has received a point. -/
def take (consumer : Consumer) (now : Nat) (point : Point) : Consumer :=
  { consumer with
    allowance := consumer.allowance.map (· - 1)
    resumes := now + consumer.pause
    received := consumer.received ++ [(now, point)] }

end Consumer

/-- All that works together: the clock, what the jobs share, the jobs, the report on the queue, and
the consumer. -/
structure World where
  now : Nat
  /-- The moment at which the clock ends. Nothing happens at it any more. -/
  horizon : Nat
  cancelled : Bool
  surroundings : Surroundings
  shared : Shared
  jobs : List Job
  /-- When the tally of the queue is next reported, and so reset. -/
  reporter : Option Ticker
  consumer : Consumer

/-- What may happen. -/
inductive Action where
  /-- The tally is reported and reset. -/
  | report
  /-- A job makes a step. -/
  | work (index : Nat)
  /-- The consumer receives a point. -/
  | receive
  /-- The consumer goes. -/
  | leave
  /-- The clock moves on. -/
  | advance
  deriving DecidableEq, Repr

namespace World

/-- The present moment. -/
def moment (world : World) : Moment := ⟨world.now, world.cancelled, world.surroundings⟩

/-- The queue. -/
def dispatcher (world : World) : Dispatcher := world.shared.dispatcher

/-- The world with another queue. -/
def withDispatcher (world : World) (dispatcher : Dispatcher) : World :=
  { world with shared := { world.shared with dispatcher := dispatcher } }

/-! ### Actions -/

/-- Reports the tally, when that is due. -/
def report? (world : World) : Option World :=
  match world.reporter with
  | none => none
  | some ticker =>
    if ticker.due ≤ world.now then
      some { world.withDispatcher world.dispatcher.snapshot.2 with
        reporter := some { ticker with due := ticker.due + ticker.period } }
    else none

/-- Lets a job make a step, if it can. -/
def work? (world : World) (index : Nat) : Option World :=
  match world.jobs[index]? with
  | none => none
  | some job =>
    match job.step? world.moment world.shared with
    | none => none
    | some (job, shared) => some { world with jobs := world.jobs.set index job, shared := shared }

/-- Lets the consumer receive a point, if it is ready and one waits. -/
def receive? (world : World) : Option World :=
  if world.dispatcher.receiver = .taken ∧ world.consumer.isReady world.now then
    match world.dispatcher.queue with
    | [] => none
    | point :: rest =>
      some { world.withDispatcher { world.dispatcher with queue := rest } with
        consumer := world.consumer.take world.now point }
  else none

/-- Lets the consumer go once it has received all it wants. -/
def leave? (world : World) : Option World :=
  if world.dispatcher.receiver = .taken ∧ world.consumer.allowance = some 0 then
    some (world.withDispatcher world.dispatcher.dropReceiver)
  else none

/-- The first thing that can happen at the present moment. -/
def act? (world : World) : Option World :=
  world.report?.or (world.leave?.or
    (((List.range world.jobs.length).findSome? world.work?).or world.receive?))

/-- The moments for which something waits. -/
def wakes (world : World) : List Nat :=
  world.jobs.filterMap Job.wakes ++ (world.reporter.map (·.due)).toList ++
    if world.dispatcher.queue.isEmpty then [] else [world.consumer.resumes]

/-- The next moment at which something happens, if that is before the clock ends. -/
def next? (world : World) : Option Nat :=
  ((world.wakes.filter fun moment => world.now < moment && moment < world.horizon)).min?

/-- Moves the clock on, when nothing can happen at the present moment. -/
def advance? (world : World) : Option World :=
  match world.act? with
  | some _ => none
  | none => world.next?.map fun moment => { world with now := moment }

/-- The effect of an action, if it can happen. -/
def perform? (world : World) : Action → Option World
  | .report => world.report?
  | .work index => world.work? index
  | .receive => world.receive?
  | .leave => world.leave?
  | .advance => world.advance?

/-- What happens next. -/
def step? (world : World) : Option World :=
  if world.now < world.horizon then world.act?.or world.advance? else none

/-! ### Progress -/

/-- One as long as the consumer has not gone. -/
def openness : Receiver → Nat
  | .dropped => 0
  | _ => 1

/-- How many more reports there may be at most. -/
def reports (world : World) : Nat :=
  match world.reporter with
  | none => 0
  | some ticker => world.horizon - ticker.due + 1

/-- The sum of a value over the elements of a list. -/
def total {Element : Type} (value : Element → Nat) : List Element → Nat
  | [] => 0
  | element :: rest => value element + total value rest

/-- Replacing an element changes a sum by the difference of the two. -/
theorem total_set {Element : Type} (value : Element → Nat) {elements : List Element}
    {index : Nat} {old : Element} (found : elements[index]? = some old) (new : Element) :
    total value (elements.set index new) + value old = total value elements + value new := by
  induction elements generalizing index with
  | nil => simp at found
  | cons head rest inductionHypothesis =>
    cases index with
    | zero =>
      simp only [List.getElem?_cons_zero, Option.some.injEq] at found
      subst found
      simp only [List.set_cons_zero, total]
      omega
    | succ index =>
      simp only [List.getElem?_cons_succ] at found
      have later := inductionHypothesis found
      simp only [List.set_cons_succ, total]
      omega

/-- How far the jobs may still be from their ends. -/
def remaining (world : World) : Nat := total (Job.remaining world.horizon) world.jobs

/-- How much work of the jobs is left that takes no time. -/
def pending (world : World) : Nat := total Job.pending world.jobs

/-- A measure that every step decreases, from its most to its least significant part: the ticks,
starts and reports to come, the work at the present moment, the points that wait, and the time. -/
def progress (world : World) : Nat × Nat × Nat × Nat :=
  (world.remaining + world.reports + openness world.dispatcher.receiver, world.pending,
    world.dispatcher.queue.length, world.horizon - world.now)

/-- The order in which the measure decreases. -/
abbrev progressOrder : WellFoundedRelation (Nat × Nat × Nat × Nat) := inferInstance

theorem report?_decreases {world next : World} (early : world.now < world.horizon)
    (step : world.report? = some next) : progressOrder.rel next.progress world.progress := by
  unfold report? at step
  split at step
  · simp at step
  · rename_i ticker found
    split at step
    · rename_i due
      simp only [Option.some.injEq] at step
      subst step
      have positive := ticker.positive
      have reports : world.reports = world.horizon - ticker.due + 1 := by
        simp [World.reports, found]
      apply Prod.Lex.left
      show world.remaining + (world.horizon - (ticker.due + ticker.period) + 1) +
          openness world.dispatcher.receiver <
        world.remaining + world.reports + openness world.dispatcher.receiver
      omega
    · simp at step

theorem work?_decreases {world next : World} {index : Nat} (early : world.now < world.horizon)
    (step : world.work? index = some next) : progressOrder.rel next.progress world.progress := by
  unfold work? at step
  split at step
  · simp at step
  · rename_i job found
    split at step
    · simp at step
    · rename_i changed shared made
      simp only [Option.some.injEq] at step
      subst step
      have receiver : shared.dispatcher.receiver = world.dispatcher.receiver :=
        job.step?_receiver made
      have remainingSum := total_set (Job.remaining world.horizon) found changed
      have pendingSum := total_set Job.pending found changed
      show progressOrder.rel
        (total (Job.remaining world.horizon) (world.jobs.set index changed) + world.reports +
            openness shared.dispatcher.receiver,
          total Job.pending (world.jobs.set index changed),
          shared.dispatcher.queue.length, world.horizon - world.now)
        (total (Job.remaining world.horizon) world.jobs + world.reports +
            openness world.dispatcher.receiver,
          total Job.pending world.jobs,
          world.dispatcher.queue.length, world.horizon - world.now)
      rw [receiver]
      rcases job.step?_before early made with less | ⟨same, less⟩
      · simp only at less
        refine Prod.Lex.left _ _ ?_
        show total (Job.remaining world.horizon) (world.jobs.set index changed) +
            world.reports + openness world.dispatcher.receiver <
          total (Job.remaining world.horizon) world.jobs + world.reports +
            openness world.dispatcher.receiver
        omega
      · simp only at same less
        rw [show total (Job.remaining world.horizon) (world.jobs.set index changed) =
          total (Job.remaining world.horizon) world.jobs by omega]
        refine Prod.Lex.right _ (Prod.Lex.left _ _ ?_)
        show total Job.pending (world.jobs.set index changed) <
          total Job.pending world.jobs
        omega

theorem receive?_decreases {world next : World} (step : world.receive? = some next) :
    progressOrder.rel next.progress world.progress := by
  unfold receive? at step
  split at step
  · split at step
    · simp at step
    · rename_i point rest waiting
      simp only [Option.some.injEq] at step
      subst step
      refine Prod.Lex.right _ (Prod.Lex.right _ (Prod.Lex.left _ _ ?_))
      show rest.length < world.dispatcher.queue.length
      simp [waiting]
  · simp at step

theorem leave?_decreases {world next : World} (step : world.leave? = some next) :
    progressOrder.rel next.progress world.progress := by
  unfold leave? at step
  split at step
  · rename_i taken
    simp only [Option.some.injEq] at step
    subst step
    refine Prod.Lex.left _ _ ?_
    show world.remaining + world.reports + openness world.dispatcher.dropReceiver.receiver <
      world.remaining + world.reports + openness world.dispatcher.receiver
    simp [Dispatcher.dropReceiver, taken.1, openness]
  · simp at step

theorem act?_decreases {world next : World} (early : world.now < world.horizon)
    (step : world.act? = some next) : progressOrder.rel next.progress world.progress := by
  simp only [act?, Option.or_eq_some_iff] at step
  rcases step with reported | ⟨_, gone | ⟨_, worked | ⟨_, received⟩⟩⟩
  · exact report?_decreases early reported
  · exact leave?_decreases gone
  · obtain ⟨index, _, made⟩ := List.exists_of_findSome?_eq_some worked
    exact work?_decreases early made
  · exact receive?_decreases received

theorem advance?_decreases {world next : World} (step : world.advance? = some next) :
    progressOrder.rel next.progress world.progress := by
  unfold advance? at step
  split at step
  · simp at step
  · simp only [Option.map_eq_some_iff] at step
    obtain ⟨moment, found, rfl⟩ := step
    have later := List.min?_mem found
    simp only [List.mem_filter, Bool.and_eq_true, decide_eq_true_eq] at later
    refine Prod.Lex.right _ (Prod.Lex.right _ (Prod.Lex.right _ ?_))
    show world.horizon - moment < world.horizon - world.now
    omega

theorem step?_decreases {world next : World} (step : world.step? = some next) :
    progressOrder.rel next.progress world.progress := by
  unfold step? at step
  split at step
  · rename_i early
    simp only [Option.or_eq_some_iff] at step
    rcases step with acted | ⟨_, moved⟩
    · exact act?_decreases early acted
    · exact advance?_decreases moved
  · simp at step

/-! ### Runs -/

/-- Lets everything happen until the clock ends. -/
def run (world : World) : World :=
  match _step : world.step? with
  | none => world
  | some next => next.run
  termination_by world.progress
  decreasing_by exact step?_decreases _step

/-- What a collector that runs at an interval was asked to do so far, and when. -/
def callsOf (world : World) (name : String) : List (Nat × Call) :=
  world.jobs.flatMap fun
    | .interval job => if job.state.name = name then job.calls else []
    | .program _ => []

/-- The job of a collector that is started now. What the lives of programs bring is given by their
paths. -/
def jobOf (context : Context) (now : Nat) (lives : String → Nat → Life) : Collector → Job
  | .interval collector => .interval (IntervalJob.start collector context now)
  | .program external => .program (ProgramJob.start external (lives external.path) now)

/-- The world in which the collectors of a registry are started. The report on the queue has the
given period, if it has one. -/
def start (registry : Registry) (context : Context) (surroundings : Surroundings)
    (lives : String → Nat → Life) (capacity reportPeriod : Nat) (consumer : Consumer)
    (now horizon : Nat) : World :=
  { now := now
    horizon := horizon
    cancelled := false
    surroundings := surroundings
    shared := ⟨context, (Dispatcher.new capacity).takeReceiver.2⟩
    jobs := registry.collectors.map (jobOf context now lives)
    reporter := Ticker.after? reportPeriod reportPeriod now
    consumer := consumer }

end World

end Telemetry
