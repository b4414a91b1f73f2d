/-
This file holds an external program as a job on the clock.

The program is started at once, and again a period after each of its starts or, when it is still
alive then, as soon as it is over. However it ends it is started again; only the order to stop and a
consumer that is found gone when a life is over end the job. A line is read when the points before
it are in the queue, so a full queue holds the program up.

Before each start the job looks up the moment a period later, and a moment that the clock cannot
show makes it panic: it ends without that start.

Where the order to stop is there and something else is ready, either may be taken. A step takes the
order, and the other choice is the step at a moment at which nobody looks for it. A job that waits
for the next start counts a restart first and then looks for the order once more, so it may have
counted one that it does not make. `Heed` names the three choices.
-/

import Telemetry.Program.Basic
import Telemetry.Schedule.Moment

namespace Telemetry

/-- What a job of a program is doing. -/
inductive ProgramPhase where
  /-- Waiting for the moment of the next start. -/
  | waiting (due : Nat)
  /-- Reading the lines of a life that is over at `ends`. The next start is due at `due`, and `held`
  is the point of the last line while it waits for room. -/
  | running (due ends : Nat) (held : Option Point) (rest : List Bytes)
  | stopped
  deriving DecidableEq

/-- An external program as a job. -/
structure ProgramJob where
  program : Program
  /-- What happens in each life, by its number. -/
  lives : Nat → Life
  starts : Nat
  phase : ProgramPhase

namespace ProgramJob

/-- The job of a program that is started now. -/
def start (program : Program) (lives : Nat → Life) (now : Nat) : ProgramJob :=
  ⟨program, lives, 0, .waiting now⟩

/-- When the job acts next by itself, if it waits for that. -/
def wakes (job : ProgramJob) : Option Nat :=
  match job.phase with
  | .waiting due => some due
  | .running _ ends none [] => some ends
  | _ => none

/-- Counts a start. Every one but the first is a restart. -/
def countStart (job : ProgramJob) (shared : Shared) : Shared :=
  let health :=
    if job.starts = 0 then shared.context.health
    else shared.context.health.countRestart job.program.name
  { shared with context := { shared.context with health := health } }

/-- Counts a start and makes it, unless the clock cannot show the moment of the next one. A life
lasts some time in any case. -/
def launch (job : ProgramJob) (now : Nat) (shared : Shared) : ProgramJob × Shared :=
  let life := job.lives job.starts
  let ends := now + max life.duration 1
  let due := now + job.program.period shared.context
  if due < Moment.limit then
    ({ job with
       starts := job.starts + 1
       phase := .running (max due (now + 1)) ends none (Program.linesOf (life.output.getD [])) },
     job.countStart shared)
  else ({ job with phase := .stopped }, job.countStart shared)

/-- Puts the point of a line into the queue, if there is room. A life whose point finds the consumer
gone is read no further. -/
def emit (job : ProgramJob) (due ends : Nat) (point : Point) (rest : List Bytes) (shared : Shared) :
    Option (ProgramJob × Shared) :=
  let emission := shared.dispatcher.emit shared.context.health job.program.name point
  let shared : Shared :=
    ⟨{ shared.context with health := emission.health }, emission.dispatcher⟩
  match emission.outcome with
  | .full => none
  | .closed => some ({ job with phase := .running due ends none [] }, shared)
  | _ => some ({ job with phase := .running due ends none rest }, shared)

/-- One step of the job, or none where it has to wait or is over. -/
def step? (job : ProgramJob) (moment : Moment) (shared : Shared) : Option (ProgramJob × Shared) :=
  match job.phase with
  | .stopped => none
  | .waiting due =>
    if moment.cancelled then some ({ job with phase := .stopped }, shared)
    else if due ≤ moment.now then some (job.launch moment.now shared)
    else none
  | .running due ends held rest =>
    if moment.cancelled then some ({ job with phase := .stopped }, shared)
    else
      match held, rest with
      | some point, rest => job.emit due ends point rest shared
      | none, line :: rest =>
        let (context, point) := shared.context.takeLine line
        some ({ job with phase := .running due ends point rest },
          { shared with context := context })
      | none, [] =>
        if moment.now < ends then none
        else if shared.dispatcher.isClosed then some ({ job with phase := .stopped }, shared)
        else some ({ job with phase := .waiting due }, shared)

/-- The order to stop is heeded between the count of a restart that is due and the restart. -/
def turnBack? (job : ProgramJob) (moment : Moment) (shared : Shared) :
    Option (ProgramJob × Shared) :=
  match job.phase with
  | .waiting due =>
    if moment.cancelled && due ≤ moment.now then
      some ({ job with phase := .stopped }, job.countStart shared)
    else none
  | _ => none

/-- One step of the job that heeds an order to stop in some way. -/
def take? (job : ProgramJob) (heed : Heed) (moment : Moment) (shared : Shared) :
    Option (ProgramJob × Shared) :=
  match heed with
  | .atOnce => job.step? moment shared
  | .late => job.turnBack? moment shared
  | .notYet => job.step? moment.untold shared

/-! ### Progress -/

/-- How many more starts there may be at most before `horizon`. -/
def remaining (job : ProgramJob) (horizon : Nat) : Nat :=
  match job.phase with
  | .waiting due => horizon - due + 1
  | .running due _ _ _ => horizon - due + 1
  | .stopped => 0

/-- How much work is left of the present life. -/
def pending (job : ProgramJob) : Nat :=
  match job.phase with
  | .waiting _ => 0
  | .running _ _ none rest => 2 * rest.length + 1
  | .running _ _ (some _) rest => 2 * rest.length + 2
  | .stopped => 0

theorem emit_before {job next : ProgramJob} {due ends : Nat} {point : Point} {rest : List Bytes}
    {shared after : Shared} (horizon : Nat)
    (phase : job.phase = .running due ends (some point) rest)
    (step : job.emit due ends point rest shared = some (next, after)) :
    before (next.remaining horizon, next.pending) (job.remaining horizon, job.pending) := by
  simp only [emit] at step
  split at step
  · simp at step
  · simp only [Option.some.injEq, Prod.mk.injEq] at step
    obtain ⟨rfl, _⟩ := step
    right
    simp [remaining, pending, phase]
  · simp only [Option.some.injEq, Prod.mk.injEq] at step
    obtain ⟨rfl, _⟩ := step
    right
    simp [remaining, pending, phase]

theorem launch_before {job next : ProgramJob} {due now horizon : Nat} {shared after : Shared}
    (phase : job.phase = .waiting due) (reached : due ≤ now) (early : now < horizon)
    (launched : job.launch now shared = (next, after)) :
    before (next.remaining horizon, next.pending) (job.remaining horizon, job.pending) := by
  unfold launch at launched
  dsimp only at launched
  left
  split at launched
  · obtain ⟨rfl, _⟩ := Prod.mk.inj launched
    simp only [remaining, phase]
    omega
  · obtain ⟨rfl, _⟩ := Prod.mk.inj launched
    simp [remaining, phase]

/-- Every step of a job brings it nearer to its end before `horizon`. -/
theorem step?_before {job next : ProgramJob} {moment : Moment} {shared after : Shared}
    {horizon : Nat} (early : moment.now < horizon)
    (step : job.step? moment shared = some (next, after)) :
    before (next.remaining horizon, next.pending) (job.remaining horizon, job.pending) := by
  unfold step? at step
  split at step
  · simp at step
  · rename_i due phase
    split at step
    · simp only [Option.some.injEq, Prod.mk.injEq] at step
      obtain ⟨rfl, _⟩ := step
      left
      simp [remaining, phase]
    · split at step
      · rename_i reached
        exact launch_before phase reached early (Option.some.inj step)
      · simp at step
  · rename_i due ends held rest phase
    split at step
    · simp only [Option.some.injEq, Prod.mk.injEq] at step
      obtain ⟨rfl, _⟩ := step
      left
      simp [remaining, phase]
    · split at step
      · exact emit_before horizon phase step
      · simp only [Option.some.injEq, Prod.mk.injEq] at step
        obtain ⟨rfl, _⟩ := step
        right
        rename_i line _ _
        cases (shared.context.takeLine line).2 with
        | none =>
          simp only [remaining, pending, phase, List.length_cons, true_and]
          omega
        | some _ =>
          simp only [remaining, pending, phase, List.length_cons, true_and]
          omega
      · split at step
        · simp at step
        · split at step <;>
          · simp only [Option.some.injEq, Prod.mk.injEq] at step
            obtain ⟨rfl, _⟩ := step
            simp [before, remaining, pending, phase]

/-! ### The receiving end -/

/-- A start leaves the queue as it is. -/
theorem launch_dispatcher (job : ProgramJob) (now : Nat) (shared : Shared) :
    (job.launch now shared).2.dispatcher = shared.dispatcher := by
  unfold launch
  dsimp only
  split <;> rfl

/-- A step leaves the receiving end of the queue where it is. -/
theorem step?_receiver {job next : ProgramJob} {moment : Moment} {shared after : Shared}
    (step : job.step? moment shared = some (next, after)) :
    after.dispatcher.receiver = shared.dispatcher.receiver := by
  unfold step? at step
  split at step
  · simp at step
  · split at step
    · simp only [Option.some.injEq, Prod.mk.injEq] at step
      obtain ⟨_, rfl⟩ := step
      rfl
    · split at step
      · have same := job.launch_dispatcher moment.now shared
        rw [Option.some.inj step] at same
        exact congrArg Dispatcher.receiver same
      · simp at step
  · split at step
    · simp only [Option.some.injEq, Prod.mk.injEq] at step
      obtain ⟨_, rfl⟩ := step
      rfl
    · split at step
      · simp only [emit] at step
        split at step
        · simp at step
        · simp only [Option.some.injEq, Prod.mk.injEq] at step
          obtain ⟨_, rfl⟩ := step
          exact Dispatcher.emit_receiver _ _ _ _
        · simp only [Option.some.injEq, Prod.mk.injEq] at step
          obtain ⟨_, rfl⟩ := step
          exact Dispatcher.emit_receiver _ _ _ _
      · simp only [Option.some.injEq, Prod.mk.injEq] at step
        obtain ⟨_, rfl⟩ := step
        rfl
      · split at step
        · simp at step
        · split at step <;>
          · simp only [Option.some.injEq, Prod.mk.injEq] at step
            obtain ⟨_, rfl⟩ := step
            rfl

end ProgramJob

end Telemetry
