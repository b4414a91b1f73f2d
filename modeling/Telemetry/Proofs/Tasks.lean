/-
This file says what the steps of jobs at work do to the queue.

A step of a job that has a point for the queue puts it there exactly if the point needs a slot, and
any other step leaves the queue as it is. A job that waits for a tick has no point, and neither has
one that is over.
-/

import Telemetry.Proofs.Clock
import Telemetry.Schedule.Shutdown

namespace Telemetry

/-! ### The queue -/

namespace Dispatcher

variable {dispatcher after : Dispatcher}

/-- Whether a point needs a slot depends on the receiving end alone. -/
theorem needsSlot_congr (same : after.receiver = dispatcher.receiver) :
    after.needsSlot = dispatcher.needsSlot := by
  funext point
  rw [needsSlot, needsSlot, isClosed, isClosed, same]

/-- What a step of a job does to the queue: it puts a point into it exactly if it needs a slot. -/
structure Takes (dispatcher : Dispatcher) (needs : Bool) (after : Dispatcher) : Prop where
  capacity : after.capacity = dispatcher.capacity
  receiver : after.receiver = dispatcher.receiver
  length : after.queue.length = dispatcher.queue.length + needs.toNat
  room : needs = true → dispatcher.queue.length < dispatcher.capacity

theorem Takes.none {dispatcher : Dispatcher} : dispatcher.Takes false dispatcher :=
  ⟨rfl, rfl, rfl, nofun⟩

theorem Emits.takes {health : Health} {collector : String} {point : Point} {emission : Emission}
    (emits : dispatcher.Emits health collector point emission) (done : emission.outcome ≠ .full) :
    dispatcher.Takes (dispatcher.needsSlot point) emission.dispatcher := by
  cases emits with
  | rejected refused =>
    rw [needsSlot, refused]
    exact .none
  | closed cleaned gone =>
    rw [needsSlot, cleaned, isClosed, gone]
    exact .none
  | queued cleaned here room =>
    rw [needsSlot, cleaned, isClosed, decide_eq_false here]
    exact ⟨rfl, rfl, List.length_append, fun _ => room⟩
  | full => exact absurd rfl done

theorem Emits.occupied {health : Health} {collector : String} {point : Point} {emission : Emission}
    (emits : dispatcher.Emits health collector point emission) (full : emission.outcome = .full) :
    dispatcher.needsSlot point = true ∧ dispatcher.capacity ≤ dispatcher.queue.length := by
  cases emits with
  | full cleaned here occupied =>
    rw [needsSlot, cleaned, isClosed, decide_eq_false here]
    exact ⟨rfl, occupied⟩
  | _ => cases full

end Dispatcher

/-! ### Steps of a job -/

namespace IntervalJob

variable {job next : IntervalJob} {moment : Moment} {shared after : Shared} {ticker : Ticker}
  {point : Point} {rest : List Point} {outcome : Option Bool}

theorem takes_of_emit (step : job.emit ticker point rest outcome shared = some (next, after)) :
    shared.dispatcher.Takes (shared.dispatcher.needsSlot point) after.dispatcher := by
  have emits := shared.dispatcher.emits_emit shared.context.health job.state.name point
  unfold emit at step
  dsimp only at step
  split at step
  · cases step
  · rename_i closed
    obtain ⟨rfl, rfl⟩ := Prod.mk.inj (Option.some.inj step)
    exact emits.takes (by simp [closed])
  · rename_i open_ _
    obtain ⟨rfl, rfl⟩ := Prod.mk.inj (Option.some.inj step)
    exact emits.takes open_

theorem needsSlot_of_emitting (emitting : job.phase = .emitting ticker (point :: rest) outcome)
    (dispatcher : Dispatcher) :
    (Job.interval job).needsSlot dispatcher = dispatcher.needsSlot point := by
  rw [Job.needsSlot, Job.offered?, emitting]
  rfl

theorem takes_of_step (busy : (Job.interval job).awaitsTick = false)
    (step : job.step? moment shared = some (next, after)) :
    shared.dispatcher.Takes ((Job.interval job).needsSlot shared.dispatcher) after.dispatcher := by
  unfold step? at step
  split at step
  · cases step
  · rename_i waiting
    simp [Job.awaitsTick, waiting] at busy
  · rename_i emitting
    rw [needsSlot_of_emitting emitting]
    exact takes_of_emit step
  · rename_i emitting
    have none : (Job.interval job).needsSlot shared.dispatcher = false := by
      rw [Job.needsSlot, Job.offered?, emitting]
      rfl
    rw [none]
    split at step <;>
    · obtain ⟨rfl, rfl⟩ := Prod.mk.inj (Option.some.inj step)
      exact .none
  · rename_i emitting
    have none : (Job.interval job).needsSlot shared.dispatcher = false := by
      rw [Job.needsSlot, Job.offered?, emitting]
      rfl
    rw [none]
    obtain ⟨rfl, rfl⟩ := Prod.mk.inj (Option.some.inj step)
    exact .none

/-- A job that is at work on a batch makes a step, if there is room for a point that needs it. -/
theorem isSome_step (busy : (Job.interval job).awaitsTick = false)
    (going : (Job.interval job).isOver = false)
    (room : (Job.interval job).needsSlot shared.dispatcher = true →
      shared.dispatcher.queue.length < shared.dispatcher.capacity) :
    (job.step? moment shared).isSome = true := by
  unfold step?
  cases phase : job.phase with
  | stopped => simp [Job.isOver, phase] at going
  | waiting ticker => simp [Job.awaitsTick, phase] at busy
  | emitting ticker batch outcome =>
    cases batch with
    | nil =>
      cases outcome with
      | none => rfl
      | some failed =>
        dsimp only
        split <;> rfl
    | cons point rest =>
      have emits := shared.dispatcher.emits_emit shared.context.health job.state.name point
      rw [needsSlot_of_emitting phase] at room
      dsimp only
      unfold emit
      dsimp only
      split
      · rename_i full
        obtain ⟨needs, occupied⟩ := emits.occupied full
        exact absurd (room needs) (Nat.not_lt.mpr occupied)
      · rfl
      · rfl

theorem pending_of_emit (emitting : job.phase = .emitting ticker (point :: rest) outcome)
    (step : job.emit ticker point rest outcome shared = some (next, after)) :
    next.pending < job.pending := by
  unfold emit at step
  dsimp only at step
  split at step
  · cases step
  · obtain ⟨rfl, _⟩ := Prod.mk.inj (Option.some.inj step)
    cases outcome <;> simp [pending, emitting]
  · obtain ⟨rfl, _⟩ := Prod.mk.inj (Option.some.inj step)
    cases outcome <;> simp [pending, emitting]

/-- Every step at work on a batch leaves less of it. -/
theorem pending_of_step (busy : (Job.interval job).awaitsTick = false)
    (step : job.step? moment shared = some (next, after)) : next.pending < job.pending := by
  unfold step? at step
  split at step
  · cases step
  · rename_i waiting
    simp [Job.awaitsTick, waiting] at busy
  · rename_i emitting
    exact pending_of_emit emitting step
  · rename_i ticker failed emitting
    split at step
    · -- The report is of two points at most.
      have few := Context.length_addAll_le shared.context [] moment.timestamp
        (job.state.selfReadings failed)
      unfold reportSelf at step
      cases made : shared.context.addAll [] moment.timestamp (job.state.selfReadings failed) with
      | mk context batch =>
        rw [made] at step few
        obtain ⟨rfl, rfl⟩ := Prod.mk.inj (Option.some.inj step)
        have two : batch.length ≤ 2 := few
        simp only [pending, emitting, List.length_nil]
        omega
    · obtain ⟨rfl, _⟩ := Prod.mk.inj (Option.some.inj step)
      simp [pending, emitting]
  · rename_i emitting
    obtain ⟨rfl, _⟩ := Prod.mk.inj (Option.some.inj step)
    simp [pending, emitting]

end IntervalJob

namespace ProgramJob

variable {job next : ProgramJob} {moment : Moment} {shared after : Shared}

theorem takes_of_emit {due ends : Nat} {point : Point} {rest : List Bytes}
    (step : job.emit due ends point rest shared = some (next, after)) :
    shared.dispatcher.Takes (shared.dispatcher.needsSlot point) after.dispatcher := by
  have emits := shared.dispatcher.emits_emit shared.context.health job.program.name point
  unfold emit at step
  dsimp only at step
  split at step
  · cases step
  · rename_i closed
    obtain ⟨rfl, rfl⟩ := Prod.mk.inj (Option.some.inj step)
    exact emits.takes (by simp [closed])
  · rename_i open_ _
    obtain ⟨rfl, rfl⟩ := Prod.mk.inj (Option.some.inj step)
    exact emits.takes open_

theorem needsSlot_of_running {due ends : Nat} {point : Point} {rest : List Bytes}
    (running : job.phase = .running due ends (some point) rest) (dispatcher : Dispatcher) :
    (Job.program job).needsSlot dispatcher = dispatcher.needsSlot point := by
  rw [Job.needsSlot, Job.offered?, held, running]
  rfl

theorem takes_of_step (untold : moment.cancelled = false)
    (step : job.step? moment shared = some (next, after)) :
    shared.dispatcher.Takes ((Job.program job).needsSlot shared.dispatcher) after.dispatcher := by
  have none (unheld : job.held = none) :
      (Job.program job).needsSlot shared.dispatcher = false := by
    rw [Job.needsSlot, Job.offered?, unheld]
    rfl
  unfold step? at step
  split at step
  · cases step
  · rename_i due waiting
    rw [none (by simp [held, waiting]), if_neg (by simp [untold])] at *
    split at step
    · have same := job.launch_dispatcher moment.now shared
      rw [Option.some.inj step] at same
      rw [same]
      exact .none
    · cases step
  · rename_i running
    rw [if_neg (by simp [untold])] at step
    split at step
    · rw [needsSlot_of_running running]
      exact takes_of_emit step
    · rw [none (by simp [held, running])]
      obtain ⟨rfl, rfl⟩ := Prod.mk.inj (Option.some.inj step)
      exact .none
    · rw [none (by simp [held, running])]
      split at step
      · cases step
      · split at step <;>
        · obtain ⟨rfl, rfl⟩ := Prod.mk.inj (Option.some.inj step)
          exact .none

end ProgramJob

namespace Job

variable {job next : Job} {moment : Moment} {shared after : Shared} {dispatcher : Dispatcher}

theorem needsSlot_congr {other : Dispatcher} (same : other.receiver = dispatcher.receiver)
    (job : Job) : job.needsSlot other = job.needsSlot dispatcher := by
  rw [needsSlot, needsSlot, Dispatcher.needsSlot_congr same]

/-- A step of a job uses a slot exactly if the job needs one. -/
theorem takes_of_step (busy : job.awaitsTick = false)
    (step : job.step? moment.untold shared = some (next, after)) :
    shared.dispatcher.Takes (job.needsSlot shared.dispatcher) after.dispatcher := by
  cases job with
  | interval job =>
    obtain ⟨⟨now, changed⟩, own, same⟩ := Option.map_eq_some_iff.mp step
    obtain ⟨_, rfl⟩ := Prod.mk.inj same
    exact job.takes_of_step busy own
  | program job =>
    obtain ⟨⟨now, changed⟩, own, same⟩ := Option.map_eq_some_iff.mp step
    obtain ⟨_, rfl⟩ := Prod.mk.inj same
    exact ProgramJob.takes_of_step rfl own

theorem isOver_stopped (job : Job) : job.stopped.isOver = true := by
  cases job <;> rfl

theorem needsSlot_of_awaitsTick (waits : job.awaitsTick = true) :
    job.needsSlot dispatcher = false := by
  cases job with
  | interval job =>
    cases phase : job.phase <;> simp [awaitsTick, phase] at waits
    rw [needsSlot, offered?, phase]
    rfl
  | program => cases waits

theorem needsSlot_of_isOver (finished : job.isOver = true) : job.needsSlot dispatcher = false := by
  cases job with
  | interval job =>
    cases phase : job.phase <;> simp [isOver, phase] at finished
    rw [needsSlot, offered?, phase]
    rfl
  | program job =>
    cases phase : job.phase <;> simp [isOver, phase] at finished
    rw [needsSlot, offered?, ProgramJob.held, phase]
    rfl

theorem not_needsSlot_of_closed (gone : dispatcher.receiver = .dropped) (job : Job) :
    job.needsSlot dispatcher = false := by
  rw [needsSlot]
  cases job.offered? with
  | none => rfl
  | some point =>
    show dispatcher.needsSlot point = false
    rw [Dispatcher.needsSlot, Dispatcher.isClosed, decide_eq_true gone]
    split <;> rfl

end Job

namespace Task

variable {task next : Task} {moment : Moment} {shared after : Shared} {dispatcher : Dispatcher}

theorem needsSlot_congr {other : Dispatcher} (same : other.receiver = dispatcher.receiver)
    (task : Task) : task.needsSlot other = task.needsSlot dispatcher := by
  cases task with
  | only job => exact job.needsSlot_congr same
  | run => rfl

/-- Only a job that waits for a tick takes one. -/
theorem begins_of (begins : task.begin? moment = some next) :
    task.isOver = false ∧ ∀ dispatcher, task.needsSlot dispatcher = false := by
  unfold begin? at begins
  split at begins
  · rename_i job
    split at begins
    · rename_i waiting
      refine ⟨by simp [isOver, Job.isOver, waiting], fun dispatcher => ?_⟩
      exact Job.needsSlot_of_awaitsTick (by simp [Job.awaitsTick, waiting])
    · cases begins
  · cases begins

/-- A run that is over leaves the queue as it is. -/
theorem finishes_of (finishes : task.finish? shared = some (next, after)) :
    task.isOver = false ∧ (∀ dispatcher, task.needsSlot dispatcher = false) ∧
      after.dispatcher = shared.dispatcher := by
  cases task with
  | only => cases finishes
  | run job ticker tick =>
    obtain ⟨_, rfl⟩ := Prod.mk.inj (Option.some.inj finishes)
    exact ⟨rfl, fun _ => rfl, rfl⟩

/-- Only a job that is told to stop takes the order, and it is over then. -/
theorem stops_of (stops : task.stop? moment = some next) :
    moment.cancelled = true ∧ task.isOver = false ∧ next.isOver = true := by
  cases task with
  | only job =>
    rw [stop?] at stops
    split at stops
    · rename_i both
      rw [Bool.and_eq_true] at both
      obtain rfl := Option.some.inj stops
      refine ⟨both.1, ?_, job.isOver_stopped⟩
      cases job with
      | interval job =>
        cases phase : job.phase <;>
          simp [Job.hears, Job.awaitsTick, isOver, Job.isOver, phase] at both ⊢
      | program job => simpa [Job.hears, isOver] using both.2
    · cases stops
  | run job =>
    rw [stop?] at stops
    split at stops
    · rename_i told
      obtain rfl := Option.some.inj stops
      exact ⟨told, rfl, rfl⟩
    · cases stops

/-- Only a job that waits for a start turns back. -/
theorem turns_of (turns : task.turnBack? moment shared = some (next, after)) :
    task.isOver = false ∧ (∀ dispatcher, task.needsSlot dispatcher = false) ∧
      after.dispatcher = shared.dispatcher := by
  cases task with
  | run => cases turns
  | only job =>
    obtain ⟨⟨moved, changed⟩, own, same⟩ := Option.map_eq_some_iff.mp turns
    obtain ⟨_, rfl⟩ := Prod.mk.inj same
    cases job with
    | interval => cases own
    | program job =>
      obtain ⟨⟨last, counted⟩, turned, same⟩ := Option.map_eq_some_iff.mp own
      obtain ⟨_, rfl⟩ := Prod.mk.inj same
      have back : job.turnBack? moment shared = some (last, counted) := turned
      unfold ProgramJob.turnBack? at back
      split at back
      · rename_i due waiting
        split at back
        · obtain ⟨_, rfl⟩ := Prod.mk.inj (Option.some.inj back)
          refine ⟨by simp [isOver, Job.isOver, waiting], fun dispatcher => ?_, rfl⟩
          simp [needsSlot, Job.needsSlot, Job.offered?, ProgramJob.held, waiting]
        · cases back
      · cases back

/-- Any other step uses a slot exactly if the job needs one. -/
theorem works_of (works : task.work? moment shared = some (next, after)) :
    task.isOver = false ∧
      shared.dispatcher.Takes (task.needsSlot shared.dispatcher) after.dispatcher := by
  cases task with
  | run => cases works
  | only job =>
    rw [work?] at works
    split at works
    · cases works
    · rename_i busy
      obtain ⟨⟨moved, changed⟩, own, same⟩ := Option.map_eq_some_iff.mp works
      obtain ⟨_, rfl⟩ := Prod.mk.inj same
      refine ⟨?_, Job.takes_of_step (eq_false_of_ne_true busy) own⟩
      by_contra finished
      have ended : job.isOver = true := by simpa [isOver] using finished
      cases job with
      | interval job =>
        cases phase : job.phase <;> simp [Job.isOver, phase] at ended
        simp [Job.step?, IntervalJob.step?, phase] at own
      | program job =>
        cases phase : job.phase <;> simp [Job.isOver, phase] at ended
        simp [Job.step?, ProgramJob.step?, phase] at own

theorem stepsLeft_of_isOver (finished : task.isOver = true) : task.stepsLeft = 0 := by
  cases task with
  | only job =>
    have ended : job.isOver = true := finished
    rw [stepsLeft, if_pos ended]
  | run => cases finished

end Task

end Telemetry
