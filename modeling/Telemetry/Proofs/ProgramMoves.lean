/-
This file says what the steps of an external program's job are.

There are ten kinds of steps, and each says all that changes. Outside the time in which a life is
read a job only waits, and a life is read until its output is at its end or the consumer is gone.
How the job heeds an order to stop makes no further kinds: a step in which it does not look for the
order is one of a job that is not told to stop.
-/

import Telemetry.Proofs.Stream
import Telemetry.Schedule.ProgramCourse

namespace Telemetry

namespace ProgramJob

variable {job next : ProgramJob} {scene : Scene} {after : Shared}

/-- The steps of a job. -/
inductive Move (job : ProgramJob) (scene : Scene) : ProgramJob → Shared → Prop where
  /-- The job is told to stop. -/
  | told (cancelled : scene.moment.cancelled = true) :
      Move job scene { job with phase := .stopped } scene.shared
  /-- The program is started. -/
  | launch {due : Nat} {next : ProgramJob} {after : Shared} (waiting : job.phase = .waiting due)
      (reached : due ≤ scene.moment.now)
      (fits : scene.moment.now + job.program.period scene.shared.context < Moment.limit)
      (launched : job.launch scene.moment.now scene.shared = (next, after)) :
      Move job scene next after
  /-- The clock cannot show the moment a period after now, and the program is not started. -/
  | unfit {due : Nat} (waiting : job.phase = .waiting due) (reached : due ≤ scene.moment.now)
      (beyond : Moment.limit ≤ scene.moment.now + job.program.period scene.shared.context) :
      Move job scene { job with phase := .stopped } (job.countStart scene.shared)
  /-- The job is told to stop when it has counted a restart. -/
  | turnedBack {due : Nat} (waiting : job.phase = .waiting due) (reached : due ≤ scene.moment.now)
      (cancelled : scene.moment.cancelled = true) :
      Move job scene { job with phase := .stopped } (job.countStart scene.shared)
  /-- A line is read. -/
  | line {due ends : Nat} {line : Bytes} {rest : List Bytes}
      (running : job.phase = .running due ends none (line :: rest)) :
      Move job scene
        { job with
          phase := .running due ends (scene.shared.context.takeLine line).2 rest }
        { scene.shared with context := (scene.shared.context.takeLine line).1 }
  /-- A point cannot be cleaned. -/
  | rejected {due ends : Nat} {point : Point} {rest : List Bytes} {refusal : Refusal}
      (running : job.phase = .running due ends (some point) rest)
      (refused : point.clean = .error refusal) :
      Move job scene { job with phase := .running due ends none rest }
        { scene.shared with context := scene.shared.context.reject }
  /-- A point comes into the queue. -/
  | queued {due ends length : Nat} {point clean : Point} {rest : List Bytes}
      (running : job.phase = .running due ends (some point) rest)
      (cleaned : point.clean = .ok clean) :
      Move job scene { job with phase := .running due ends none rest }
        ⟨{ scene.shared.context with
            health := scene.shared.context.health.countEmitted job.program.name length },
          scene.shared.dispatcher.enqueue job.program.name clean⟩
  /-- A point finds the consumer gone, and the life is read no further. -/
  | closed {due ends : Nat} {point : Point} {rest : List Bytes}
      (running : job.phase = .running due ends (some point) rest)
      (gone : scene.shared.dispatcher.receiver = .dropped) :
      Move job scene { job with phase := .running due ends none [] } scene.shared
  /-- A life is over, and the consumer is gone. -/
  | finished {due ends : Nat} (running : job.phase = .running due ends none [])
      (reached : ends ≤ scene.moment.now) (gone : scene.shared.dispatcher.receiver = .dropped) :
      Move job scene { job with phase := .stopped } scene.shared
  /-- A life is over, and the job waits for the next one. -/
  | ended {due ends : Nat} (running : job.phase = .running due ends none [])
      (reached : ends ≤ scene.moment.now) (here : scene.shared.dispatcher.receiver ≠ .dropped) :
      Move job scene { job with phase := .waiting due } scene.shared

theorem move_of_emit {due ends : Nat} {point : Point} {rest : List Bytes}
    (running : job.phase = .running due ends (some point) rest)
    (step : job.emit due ends point rest scene.shared = some (next, after)) :
    Move job scene next after := by
  have emits :=
    scene.shared.dispatcher.emits_emit scene.shared.context.health job.program.name point
  unfold emit at step
  generalize scene.shared.dispatcher.emit scene.shared.context.health job.program.name point =
    emission at emits step
  cases emits with
  | rejected refused =>
    obtain ⟨rfl, rfl⟩ := Prod.mk.inj (Option.some.inj step)
    exact .rejected running refused
  | closed cleaned gone =>
    obtain ⟨rfl, rfl⟩ := Prod.mk.inj (Option.some.inj step)
    exact .closed running gone
  | queued cleaned here room =>
    obtain ⟨rfl, rfl⟩ := Prod.mk.inj (Option.some.inj step)
    exact .queued running cleaned
  | full cleaned here occupied => cases step

theorem launch_of_fits {now : Nat} {shared : Shared}
    (fits : now + job.program.period shared.context < Moment.limit) :
    job.launch now shared =
      ({ job with
         starts := job.starts + 1
         phase := .running (max (now + job.program.period shared.context) (now + 1))
           (now + max (job.lives job.starts).duration 1) none
           (Program.linesOf ((job.lives job.starts).output.getD [])) },
       job.countStart shared) :=
  if_pos fits

theorem launch_of_unfit {now : Nat} {shared : Shared}
    (beyond : Moment.limit ≤ now + job.program.period shared.context) :
    job.launch now shared = ({ job with phase := .stopped }, job.countStart shared) :=
  if_neg (Nat.not_lt.mpr beyond)

/-- A start that is due is made, unless the clock cannot show the moment of the next one. -/
theorem move_of_launch {due : Nat} (waiting : job.phase = .waiting due)
    (reached : due ≤ scene.moment.now)
    (launched : job.launch scene.moment.now scene.shared = (next, after)) :
    Move job scene next after := by
  rcases Nat.lt_or_ge (scene.moment.now + job.program.period scene.shared.context)
    Moment.limit with fits | beyond
  · exact .launch waiting reached fits launched
  · obtain ⟨rfl, rfl⟩ := Prod.mk.inj ((launch_of_unfit beyond).symm.trans launched)
    exact .unfit waiting reached beyond

/-- Every step is one of the ten. -/
theorem move_of_step (step : job.step? scene.moment scene.shared = some (next, after)) :
    Move job scene next after := by
  unfold step? at step
  split at step
  · cases step
  · rename_i due waiting
    split at step
    · rename_i cancelled
      obtain ⟨rfl, rfl⟩ := Prod.mk.inj (Option.some.inj step)
      exact .told cancelled
    · split at step
      · rename_i reached
        exact move_of_launch waiting reached (Option.some.inj step)
      · cases step
  · rename_i due ends held rest running
    split at step
    · rename_i cancelled
      obtain ⟨rfl, rfl⟩ := Prod.mk.inj (Option.some.inj step)
      exact .told cancelled
    · split at step
      · exact move_of_emit running step
      · obtain ⟨rfl, rfl⟩ := Prod.mk.inj (Option.some.inj step)
        exact .line running
      · split at step
        · cases step
        · rename_i late
          have reached := Nat.le_of_not_lt late
          split at step
          · rename_i gone
            obtain ⟨rfl, rfl⟩ := Prod.mk.inj (Option.some.inj step)
            exact .finished running reached (of_decide_eq_true gone)
          · rename_i here
            obtain ⟨rfl, rfl⟩ := Prod.mk.inj (Option.some.inj step)
            exact .ended running reached (by simpa [Dispatcher.isClosed] using here)

/-- What a job does that does not look for an order to stop it can do in any case. -/
theorem Move.of_untold (move : Move job { scene with moment := scene.moment.untold } next after) :
    Move job scene next after := by
  cases move with
  | told cancelled => cases cancelled
  | launch waiting reached fits launched => exact .launch waiting reached fits launched
  | unfit waiting reached beyond => exact .unfit waiting reached beyond
  | turnedBack _ _ cancelled => cases cancelled
  | line running => exact .line running
  | rejected running refused => exact .rejected running refused
  | queued running cleaned => exact .queued running cleaned
  | closed running gone => exact .closed running gone
  | finished running reached gone => exact .finished running reached gone
  | ended running reached here => exact .ended running reached here

theorem move_of_turnBack
    (turned : job.turnBack? scene.moment scene.shared = some (next, after)) :
    Move job scene next after := by
  unfold turnBack? at turned
  split at turned
  · rename_i due waiting
    split at turned
    · rename_i both
      rw [Bool.and_eq_true, decide_eq_true_eq] at both
      obtain ⟨rfl, rfl⟩ := Prod.mk.inj (Option.some.inj turned)
      exact .turnedBack waiting both.2 both.1
    · cases turned
  · cases turned

/-- So is every step, however the job heeds an order to stop. -/
theorem move_of_take {heed : Heed}
    (step : job.take? heed scene.moment scene.shared = some (next, after)) :
    Move job scene next after := by
  cases heed with
  | atOnce => exact move_of_step step
  | late => exact move_of_turnBack step
  | notYet =>
    have move : Move job { scene with moment := scene.moment.untold } next after :=
      move_of_step step
    exact move.of_untold

/-- A job that has stopped makes no step. -/
theorem take_none_of_stopped (stopped : job.phase = .stopped) (heed : Heed) (moment : Moment)
    (shared : Shared) : job.take? heed moment shared = none := by
  cases heed <;> simp [take?, step?, turnBack?, stopped]

/-- What the count of a start leaves as it is. -/
structure Counted (shared after : Shared) : Prop where
  dispatcher : after.dispatcher = shared.dispatcher
  context : ∃ health, after.context = { shared.context with health := health }
  failures : after.context.health.failures = shared.context.health.failures
  unreadable : after.context.health.unreadable = shared.context.health.unreadable
  rejected : after.context.health.rejected = shared.context.health.rejected

theorem counted_countStart (job : ProgramJob) (shared : Shared) :
    Counted shared (job.countStart shared) := by
  refine ⟨rfl, ⟨_, rfl⟩, ?_, ?_, ?_⟩
  · show Health.failures (if _ then _ else _) = _
    split <;> rfl
  · show Health.unreadable (if _ then _ else _) = _
    split <;> rfl
  · show Health.rejected (if _ then _ else _) = _
    split <;> rfl

/-- What a start does: it begins to read the output of the next life, and may count a restart. -/
structure Launched (job : ProgramJob) (shared : Shared) (next : ProgramJob) (after : Shared) :
    Prop where
  program : next.program = job.program
  lives : next.lives = job.lives
  starts : next.starts = job.starts + 1
  phase : ∃ due ends, next.phase =
    .running due ends none (Program.linesOf ((job.lives job.starts).output.getD []))
  counted : Counted shared after

theorem launched_of_launch {now : Nat} {shared : Shared}
    (fits : now + job.program.period shared.context < Moment.limit)
    (launched : job.launch now shared = (next, after)) : job.Launched shared next after := by
  obtain ⟨rfl, rfl⟩ := Prod.mk.inj ((launch_of_fits fits).symm.trans launched)
  exact ⟨rfl, rfl, rfl, ⟨_, _, rfl⟩, counted_countStart job shared⟩

/-- A step leaves the receiving end of the queue where it is. -/
theorem receiver_of_move (move : Move job scene next after) :
    after.dispatcher.receiver = scene.shared.dispatcher.receiver := by
  cases move with
  | launch _ _ fits launched =>
    exact congrArg Dispatcher.receiver (launched_of_launch fits launched).counted.dispatcher
  | _ => rfl

/-- The lives of a program do not change. -/
theorem lives_of_move (move : Move job scene next after) : next.lives = job.lives := by
  cases move with
  | launch _ _ fits launched => exact (launched_of_launch fits launched).lives
  | _ => rfl

/-- While a life is not read to its end, there is a step as long as there is room. -/
theorem isSome_step_of_not_hasRead (unread : job.hasRead = false)
    (room : scene.shared.dispatcher.hasRoom = true) :
    (job.step? scene.moment scene.shared).isSome = true := by
  cases phase : job.phase with
  | stopped =>
    rw [hasRead, phase] at unread
    cases unread
  | waiting due =>
    rw [hasRead, phase] at unread
    cases unread
  | running due ends held rest =>
    unfold step?
    rw [phase]
    dsimp only
    by_cases cancelled : scene.moment.cancelled = true
    · rw [if_pos cancelled]
      rfl
    · rw [if_neg cancelled]
      cases held with
      | none =>
        cases rest with
        | nil =>
          rw [hasRead, phase] at unread
          cases unread
        | cons line rest => rfl
      | some point =>
        have emits :=
          scene.shared.dispatcher.emits_emit scene.shared.context.health job.program.name point
        dsimp only
        unfold emit
        generalize scene.shared.dispatcher.emit scene.shared.context.health job.program.name point =
          emission at emits
        cases emits with
        | full cleaned here occupied =>
          exact absurd (of_decide_eq_true room) (Nat.not_lt_of_le occupied)
        | _ => rfl

end ProgramJob

end Telemetry
