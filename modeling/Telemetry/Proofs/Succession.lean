/-
This file says how the lives of a program follow each other.

A life is given the moment at which the next one is due when it begins, and that moment is looked at
when it is over. The clock stands still while the job can make a step, so it neither passes a start
that is due nor the end of a life, unless a point of the program has to wait for room. What carries
this through a course is where the job stands: after lives that followed each other it waits for the
moment at which the next one begins, or it is in the middle of that one. Only a job that ends when a
start is due may have counted a restart that it has not made.
-/

import Telemetry.Proofs.Restarts
import Telemetry.Proofs.Rhythm

namespace Telemetry

/-- The period depends on the settings alone. -/
theorem Program.period_congr (program : Program) {context other : Context}
    (same : context.settings = other.settings) : program.period context = program.period other := by
  have frequency : context.frequency = other.frequency := congrArg (·.2.2.1) same
  rw [Program.period, Program.period, frequency]

namespace ProgramJob

/-! ### Lives -/

/-- What is given for the lives of a program: when the first one begins, the time between two
beginnings, what the lives bring, and whether they may be late because a point waits for room. -/
structure Plan where
  start : Nat
  period : Nat
  lives : Nat → Life
  late : Prop

/-- How long a life is given to last, by its number. -/
def Plan.lasting (plan : Plan) (number : Nat) : Nat := max (plan.lives number).duration 1

/-- Lives that followed each other, and the moment at which the next one begins: the later one of
the end of the last life and a period after its beginning. -/
inductive Succession (plan : Plan) : List Lifetime → Nat → Prop where
  | none : Succession plan [] plan.start
  | more {lifetimes : List Lifetime} {begun finish : Nat}
      (earlier : Succession plan lifetimes begun)
      (lasts : begun + plan.lasting lifetimes.length ≤ finish)
      (prompt : ¬plan.late → finish = begun + plan.lasting lifetimes.length) :
      Succession plan (lifetimes ++ [⟨begun, some finish⟩]) (max (begun + plan.period) finish)

/-- A life that was seen is over. It began when it had to after those before it and lasted as long
as it was given, and the next one begins when that is due. -/
structure Lasted (plan : Plan) (lifetimes : List Lifetime) (number : Nat) (life : Lifetime)
    (finish : Nat) : Prop where
  starts : Succession plan (lifetimes.take number) life.begun
  isEnded : life.ended = some finish
  lasts : life.begun + plan.lasting number ≤ finish
  prompt : ¬plan.late → finish = life.begun + plan.lasting number
  next : Succession plan (lifetimes.take (number + 1)) (max (life.begun + plan.period) finish)

/-- Where a job stands at a moment, with the lives that were seen. -/
inductive Serves (plan : Plan) (moment : Moment) : List Lifetime → ProgramPhase → Prop where
  /-- The next life begins when it is due, or now if that has passed. -/
  | waiting {lifetimes : List Lifetime} {due begins : Nat}
      (before : Succession plan lifetimes begins) (awaits : begins = max due moment.now) :
      Serves plan moment lifetimes (.waiting due)
  | running {lifetimes : List Lifetime} {due begun ends : Nat} {held : Option Point}
      {rest : List Bytes} (before : Succession plan lifetimes begun)
      (next : due = max (begun + plan.period) (begun + 1))
      (lasts : ends = begun + plan.lasting lifetimes.length)
      (inTime : ¬plan.late → moment.now ≤ ends) :
      Serves plan moment (lifetimes ++ [⟨begun, none⟩]) (.running due ends held rest)
  /-- The job has stopped between two lives. -/
  | stopped {lifetimes : List Lifetime} {begins : Nat}
      (before : Succession plan lifetimes begins) : Serves plan moment lifetimes .stopped
  /-- The job was told to stop in the middle of a life. -/
  | broken {lifetimes : List Lifetime} {begun finish : Nat}
      (before : Succession plan lifetimes begun) (told : moment.cancelled = true) :
      Serves plan moment (lifetimes ++ [⟨begun, some finish⟩]) .stopped

section

variable {plan : Plan} {moment : Moment} {lifetimes : List Lifetime}
  {phase : ProgramPhase} {begins other number : Nat} {life : Lifetime}

/-- After given lives there is one moment at which the next one begins. -/
theorem Succession.unique (first : Succession plan lifetimes begins)
    (second : Succession plan lifetimes other) : begins = other := by
  cases first with
  | none =>
    generalize same : ([] : List Lifetime) = none at second
    cases second with
    | none => rfl
    | more => simp at same
  | @more earlier begun finish _ _ _ =>
    generalize same : earlier ++ [Lifetime.mk begun (some finish)] = whole at second
    cases second with
    | none => simp at same
    | more =>
      obtain ⟨_, last⟩ := List.append_inj' same rfl
      simp only [List.cons.injEq, Lifetime.mk.injEq, Option.some.injEq, and_true] at last
      rw [last.1, last.2]

theorem Lasted.append {finish : Nat} (found : lifetimes[number]? = some life)
    (lasted : Lasted plan lifetimes number life finish) (last : Lifetime) :
    Lasted plan (lifetimes ++ [last]) number life finish := by
  have inside : number < lifetimes.length := (List.getElem?_eq_some_iff.mp found).1
  refine ⟨?_, lasted.isEnded, lasted.lasts, lasted.prompt, ?_⟩
  · rw [List.take_append_of_le_length (Nat.le_of_lt inside)]
    exact lasted.starts
  · rw [List.take_append_of_le_length inside]
    exact lasted.next

/-- Each of the lives is over. -/
theorem Succession.lasted (succession : Succession plan lifetimes begins)
    (found : lifetimes[number]? = some life) :
    ∃ finish, Lasted plan lifetimes number life finish := by
  induction succession with
  | none => simp at found
  | more before lasts prompt inductionHypothesis =>
    rcases mem_at_append_singleton found with earlier | ⟨rfl, rfl⟩
    · obtain ⟨finish, lasted⟩ := inductionHypothesis earlier
      exact ⟨finish, lasted.append earlier _⟩
    · refine ⟨_, ?_, rfl, lasts, prompt, ?_⟩
      · rwa [List.take_left]
      · rw [List.take_of_length_le (by simp)]
        exact before.more lasts prompt

/-- Each of the lives that were seen begins when it has to after those before it. -/
theorem Serves.begun (serves : Serves plan moment lifetimes phase)
    (found : lifetimes[number]? = some life) :
    Succession plan (lifetimes.take number) life.begun := by
  have between {earlier : List Lifetime} {begins : Nat} (before : Succession plan earlier begins)
      (found : earlier[number]? = some life) :
      Succession plan (earlier.take number) life.begun := by
    obtain ⟨_, lasted⟩ := before.lasted found
    exact lasted.starts
  have within {earlier : List Lifetime} {begins : Nat} {finish : Option Nat}
      (before : Succession plan earlier begins)
      (found : (earlier ++ [Lifetime.mk begins finish])[number]? = some life) :
      Succession plan ((earlier ++ [Lifetime.mk begins finish]).take number) life.begun := by
    rcases mem_at_append_singleton found with there | ⟨rfl, rfl⟩
    · rw [List.take_append_of_le_length (Nat.le_of_lt (List.getElem?_eq_some_iff.mp there).1)]
      exact between before there
    · rwa [List.take_left]
  cases serves with
  | waiting before _ => exact between before found
  | running before _ _ _ => exact within before found
  | stopped before => exact between before found
  | broken before _ => exact within before found

/-- Each of the lives that were seen is over, but for the last one. -/
theorem Serves.lasted (serves : Serves plan moment lifetimes phase)
    (found : lifetimes[number]? = some life) :
    (∃ finish, Lasted plan lifetimes number life finish) ∨
      number + 1 = lifetimes.length ∧
        ((∃ due ends held rest, phase = .running due ends held rest ∧ life.ended = none) ∨
          moment.cancelled = true) := by
  cases serves with
  | waiting before _ => exact .inl (before.lasted found)
  | stopped before => exact .inl (before.lasted found)
  | running before _ _ _ =>
    rcases mem_at_append_singleton found with there | ⟨rfl, rfl⟩
    · obtain ⟨finish, lasted⟩ := before.lasted there
      exact .inl ⟨finish, lasted.append there _⟩
    · exact .inr ⟨by simp, .inl ⟨_, _, _, _, rfl, rfl⟩⟩
  | broken before told =>
    rcases mem_at_append_singleton found with there | ⟨rfl, rfl⟩
    · obtain ⟨finish, lasted⟩ := before.lasted there
      exact .inl ⟨finish, lasted.append there _⟩
    · exact .inr ⟨by simp, .inr told⟩

theorem Serves.first (serves : Serves plan moment lifetimes phase)
    (found : lifetimes[0]? = some life) : life.begun = plan.start :=
  (serves.begun found).unique .none

/-- Only the last life may be under way. -/
theorem Serves.alone (serves : Serves plan moment lifetimes phase)
    (found : lifetimes[number]? = some life) (unended : life.ended = none) :
    number + 1 = lifetimes.length := by
  rcases serves.lasted found with ⟨_, lasted⟩ | ⟨last, _⟩
  · cases unended.symm.trans lasted.isEnded
  · exact last

/-- A life that is followed by another one is over, and that one begins when it is due. -/
theorem Serves.again (serves : Serves plan moment lifetimes phase) {next : Lifetime}
    (found : lifetimes[number]? = some life) (foundNext : lifetimes[number + 1]? = some next) :
    ∃ finish, life.ended = some finish ∧ next.begun = max (life.begun + plan.period) finish := by
  have inside := (List.getElem?_eq_some_iff.mp foundNext).1
  rcases serves.lasted found with ⟨finish, lasted⟩ | ⟨last, _⟩
  · exact ⟨finish, lasted.isEnded, (serves.begun foundNext).unique lasted.next⟩
  · exact absurd last (Nat.ne_of_lt inside)

/-- Unless the job is told to stop, a life that is over has lasted as long as it was given. -/
theorem Serves.lasted_of_going (serves : Serves plan moment lifetimes phase)
    (untold : moment.cancelled = false) {finish : Nat} (found : lifetimes[number]? = some life)
    (ended : life.ended = some finish) : Lasted plan lifetimes number life finish := by
  rcases serves.lasted found with ⟨other, lasted⟩ | ⟨_, ⟨_, _, _, _, _, unended⟩ | told⟩
  · rwa [Option.some.inj (ended.symm.trans lasted.isEnded)]
  · cases unended.symm.trans ended
  · cases untold.symm.trans told

/-- Between two lives the next one begins when it is due, or now. -/
theorem Serves.next (serves : Serves plan moment lifetimes phase)
    (whole : Succession plan lifetimes begins) :
    phase = .stopped ∨ ∃ due, phase = .waiting due ∧ begins = max due moment.now := by
  cases serves with
  | waiting before awaits => exact .inr ⟨_, rfl, (whole.unique before).trans awaits⟩
  | running before _ _ _ =>
    obtain ⟨_, lasted⟩ := whole.lasted (List.getElem?_concat_length ..)
    cases lasted.isEnded
  | stopped _ => exact .inl rfl
  | broken _ _ => exact .inl rfl

/-- A start that is due and not made yet is due now. -/
theorem Serves.now {due : Nat} (serves : Serves plan moment lifetimes (.waiting due))
    (reached : due ≤ moment.now) : Succession plan lifetimes moment.now := by
  cases serves with
  | waiting before awaits => exact (awaits.trans (Nat.max_eq_right reached)) ▸ before

/-- A life is under way exactly when one of those that were seen is not over. -/
theorem Serves.underWay_iff (serves : Serves plan moment lifetimes phase) :
    (∃ due ends held rest, phase = .running due ends held rest) ↔
      ∃ life ∈ lifetimes, life.ended = none := by
  have closed {earlier : List Lifetime} {begins : Nat} (before : Succession plan earlier begins) :
      ∀ life ∈ earlier, life.ended ≠ none := by
    intro life member unended
    obtain ⟨number, found⟩ := List.mem_iff_getElem?.mp member
    obtain ⟨_, lasted⟩ := before.lasted found
    cases unended.symm.trans lasted.isEnded
  constructor
  · rintro ⟨_, _, _, _, rfl⟩
    cases serves with
    | running => exact ⟨_, List.mem_append_right _ List.mem_cons_self, rfl⟩
  · rintro ⟨life, member, unended⟩
    cases serves with
    | waiting before _ => exact absurd unended (closed before life member)
    | running => exact ⟨_, _, _, _, rfl⟩
    | stopped before => exact absurd unended (closed before life member)
    | broken before _ =>
      rcases List.mem_append.mp member with there | last
      · exact absurd unended (closed before life there)
      · rw [List.mem_singleton.mp last] at unended
        cases unended

/-- A life that is over is not over once more. -/
theorem Succession.map_ended (succession : Succession plan lifetimes begins) (now : Nat) :
    lifetimes.map (fun life => { life with ended := life.ended.or (some now) }) = lifetimes := by
  refine (List.map_congr_left fun life member => ?_).trans (List.map_id lifetimes)
  obtain ⟨number, found⟩ := List.mem_iff_getElem?.mp member
  obtain ⟨finish, lasted⟩ := succession.lasted found
  obtain ⟨begun, _⟩ := life
  obtain rfl := lasted.isEnded
  rfl

end

/-! ### Turns -/

section

variable {job next : ProgramJob} {scene : Scene} {after : Shared} {lifetimes : List Lifetime}

theorem Turn.note_of_begins (idle : job.isRunning = false) (running : next.isRunning = true) :
    Turn.note lifetimes ⟨job, scene, next, after⟩ = lifetimes ++ [⟨scene.moment.now, none⟩] := by
  simp [Turn.note, Turn.begins, idle, running]

theorem Turn.note_of_ends {plan : Plan} {begun : Nat} (before : Succession plan lifetimes begun)
    (running : job.isRunning = true) (idle : next.isRunning = false) :
    Turn.note (lifetimes ++ [⟨begun, none⟩]) ⟨job, scene, next, after⟩ =
      lifetimes ++ [⟨begun, some scene.moment.now⟩] := by
  have unbegun : ¬(Turn.mk job scene next after).begins = true := by simp [Turn.begins, idle]
  have ended : (Turn.mk job scene next after).ends = true := by simp [Turn.ends, idle, running]
  rw [Turn.note, if_neg unbegun, if_pos ended, List.map_append, before.map_ended]
  rfl

theorem Turn.note_of_same (same : next.isRunning = job.isRunning) :
    Turn.note lifetimes ⟨job, scene, next, after⟩ = lifetimes := by
  cases running : job.isRunning <;>
    simp [Turn.note, Turn.begins, Turn.ends, same, running]

/-- Only a start adds a life to those that were seen. -/
theorem Turn.begun_note {turn : Turn} (unbegun : turn.begins = false) :
    (Turn.note lifetimes turn).map (·.begun) = lifetimes.map (·.begun) := by
  rw [Turn.note, unbegun, if_neg Bool.false_ne_true]
  split
  · rw [List.map_map]
    rfl
  · rfl

theorem Turn.begins_of_idle (idle : next.isRunning = false) :
    (Turn.mk job scene next after).begins = false := by
  simp [Turn.begins, idle]

theorem Turn.begins_of_busy (running : job.isRunning = true) :
    (Turn.mk job scene next after).begins = false := by
  simp [Turn.begins, running]

theorem lifetimesOf_append_singleton (turns : List Turn) (turn : Turn) :
    Turn.lifetimesOf (turns ++ [turn]) = Turn.note (Turn.lifetimesOf turns) turn := by
  rw [Turn.lifetimesOf, List.foldl_append]
  rfl

theorem isRunning_of_running {due ends : Nat} {held : Option Point} {rest : List Bytes}
    (running : job.phase = .running due ends held rest) : job.isRunning = true := by
  rw [isRunning, running]

theorem isRunning_iff : job.isRunning = true ↔
    ∃ due ends held rest, job.phase = .running due ends held rest := by
  unfold isRunning
  cases job.phase <;> simp

theorem not_isRunning_of_waiting {due : Nat} (waiting : job.phase = .waiting due) :
    job.isRunning = false := by
  rw [isRunning, waiting]

theorem not_isRunning_of_stopped (stopped : job.phase = .stopped) : job.isRunning = false := by
  rw [isRunning, stopped]

/-- What a job that waits and one that reads a life wait for. -/
theorem wakes_of_waiting {due wake : Nat} (waiting : job.phase = .waiting due)
    (waits : job.wakes = some wake) : wake = due := by
  rw [wakes, waiting] at waits
  exact (Option.some.inj waits).symm

theorem wakes_of_running {due ends wake : Nat} {held : Option Point} {rest : List Bytes}
    (running : job.phase = .running due ends held rest) (waits : job.wakes = some wake) :
    wake = ends := by
  rw [wakes, running] at waits
  cases held <;> cases rest <;> simp at waits
  exact waits.symm

end

/-! ### Courses -/

/-- The others are prompt: they take no order to stop back, leave the settings and the restarts of
the program as they are, and move the clock no further than to the moment for which the job waits,
unless a point of it waits for room and it may be late. -/
structure Prompt (late : Prop) (job : ProgramJob) (scene later : Scene) : Prop where
  told : scene.moment.cancelled = true → later.moment.cancelled = true
  settings : later.shared.context.settings = scene.shared.context.settings
  restarts :
    later.shared.restartsOf job.program.name = scene.shared.restartsOf job.program.name
  forward : scene.moment.now ≤ later.moment.now
  clock : later.moment.now ≠ scene.moment.now →
    job.phase = .stopped ∨ (∃ wake, job.wakes = some wake ∧ later.moment.now ≤ wake) ∨
      job.held.isSome = true ∧ late

/-- The restarts of a program that are counted before some lives and behind them: one for each life
but the first, and one more at most, which a job has counted that has ended instead of a start. -/
structure Restarted (before : Nat) (lifetimes : List Lifetime) (job : ProgramJob) (counted : Nat) :
    Prop where
  least : before + (lifetimes.length - 1) ≤ counted
  exact : job.phase ≠ .stopped → counted = before + (lifetimes.length - 1)
  most : counted ≤ before + lifetimes.length

/-- A job has come somewhere with its plan, and has counted its restarts. -/
structure Obeys (plan : Plan) (program : Program) (context : Context) (lifetimes : List Lifetime)
    (job : ProgramJob) (scene : Scene) : Prop where
  runs : job.program = program
  lives : job.lives = plan.lives
  settings : scene.shared.context.settings = context.settings
  starts : job.starts = lifetimes.length
  restarted : Restarted (context.health.restarts.count program.name) lifetimes job
    (scene.shared.restartsOf program.name)
  /-- The clock can show the moment a period after each of its starts. -/
  fits : ∀ begun ∈ lifetimes.map (·.begun), begun + plan.period < Moment.limit
  serves : Serves plan scene.moment lifetimes job.phase

section

variable {plan : Plan} {program : Program} {context : Context} {lifetimes : List Lifetime}
  {turns : List Turn} {start job next : ProgramJob} {origin scene later : Scene} {after : Shared}

theorem Serves.others (serves : Serves plan scene.moment lifetimes job.phase)
    (prompt : job.Prompt plan.late scene later) :
    Serves plan later.moment lifetimes job.phase := by
  have forward := prompt.forward
  by_cases still : later.moment.now = scene.moment.now
  · generalize job.phase = phase at serves
    cases serves with
    | waiting before awaits => exact .waiting before (still ▸ awaits)
    | running before next lasts inTime => exact .running before next lasts (still ▸ inTime)
    | stopped before => exact .stopped before
    | broken before told => exact .broken before (prompt.told told)
  · have clock := prompt.clock still
    generalize phase : job.phase = known at serves clock
    cases serves with
    | @waiting _ due _ before awaits =>
      have early : later.moment.now ≤ due := by
        rcases clock with stopped | ⟨wake, waits, early⟩ | ⟨held, _⟩
        · cases stopped
        · exact wakes_of_waiting phase waits ▸ early
        · rw [ProgramJob.held, phase] at held
          cases held
      exact .waiting before (by omega)
    | running before next lasts inTime =>
      refine .running before next lasts fun punctual => ?_
      rcases clock with stopped | ⟨wake, waits, early⟩ | ⟨_, delayed⟩
      · cases stopped
      · exact wakes_of_running phase waits ▸ early
      · exact absurd delayed punctual
    | stopped before => exact .stopped before
    | broken before told => exact .broken before (prompt.told told)

theorem Obeys.others (obeys : Obeys plan program context lifetimes job scene)
    (prompt : job.Prompt plan.late scene later) :
    Obeys plan program context lifetimes job later where
  runs := obeys.runs
  lives := obeys.lives
  settings := prompt.settings.trans obeys.settings
  starts := obeys.starts
  restarted := by
    have same : later.shared.restartsOf program.name = scene.shared.restartsOf program.name :=
      obeys.runs ▸ prompt.restarts
    rw [same]
    exact obeys.restarted
  fits := obeys.fits
  serves := obeys.serves.others prompt

/-- The program is started. -/
theorem Serves.launch {due : Nat} (serves : Serves plan scene.moment lifetimes job.phase)
    (lives : job.lives = plan.lives) (starts : job.starts = lifetimes.length)
    (period : plan.period = job.program.period scene.shared.context)
    (waiting : job.phase = .waiting due) (reached : due ≤ scene.moment.now)
    (fits : scene.moment.now + job.program.period scene.shared.context < Moment.limit)
    (launched : job.launch scene.moment.now scene.shared = (next, after)) :
    Serves plan scene.moment (lifetimes ++ [⟨scene.moment.now, none⟩]) next.phase := by
  rw [waiting] at serves
  rw [← (Prod.mk.inj ((launch_of_fits fits).symm.trans launched)).1]
  refine .running (serves.now reached) ?_ ?_ fun _ => Nat.le_add_right _ _
  · rw [period]
  · rw [starts, lives]
    rfl

/-- A life goes on while it is read. -/
theorem Serves.reads {due ends : Nat} {held other : Option Point} {rest more : List Bytes}
    (serves : Serves plan scene.moment lifetimes job.phase)
    (running : job.phase = .running due ends held rest)
    (runs : next.phase = .running due ends other more) :
    Serves plan scene.moment (Turn.note lifetimes ⟨job, scene, next, after⟩) next.phase := by
  rw [Turn.note_of_same ((isRunning_of_running runs).trans (isRunning_of_running running).symm),
    runs]
  rw [running] at serves
  cases serves with
  | running before next lasts inTime => exact .running before next lasts inTime

/-- A life that has ended is followed when that is due, or now. -/
theorem Serves.ended {due ends : Nat} (serves : Serves plan scene.moment lifetimes job.phase)
    (running : job.phase = .running due ends none []) (reached : ends ≤ scene.moment.now)
    (idle : next.isRunning = false) :
    Succession plan (Turn.note lifetimes ⟨job, scene, next, after⟩)
      (max due scene.moment.now) := by
  have busy := isRunning_of_running running
  rw [running] at serves
  cases serves with
  | @running earlier _ begun _ _ _ before next lasts inTime =>
    rw [Turn.note_of_ends before busy idle]
    have some : 1 ≤ plan.lasting earlier.length := Nat.le_max_right _ _
    have whole := before.more (lasts ▸ reached) fun punctual =>
      Nat.le_antisymm (lasts ▸ inTime punctual) (lasts ▸ reached)
    have same : max (begun + plan.period) scene.moment.now = max due scene.moment.now := by omega
    exact same ▸ whole

/-- The job comes to its end while it waits for a start. -/
theorem Serves.leaves {due : Nat} (serves : Serves plan scene.moment lifetimes job.phase)
    (waiting : job.phase = .waiting due) (stopped : next.phase = .stopped) :
    Serves plan scene.moment (Turn.note lifetimes ⟨job, scene, next, after⟩) next.phase := by
  rw [Turn.note_of_same
    ((not_isRunning_of_stopped stopped).trans (not_isRunning_of_waiting waiting).symm), stopped]
  rw [waiting] at serves
  cases serves with
  | waiting before _ => exact .stopped before

/-- The job is told to stop. -/
theorem Serves.told (serves : Serves plan scene.moment lifetimes job.phase)
    (cancelled : scene.moment.cancelled = true) (stopped : next.phase = .stopped) :
    Serves plan scene.moment (Turn.note lifetimes ⟨job, scene, next, after⟩) next.phase := by
  have idle := not_isRunning_of_stopped stopped
  cases phase : job.phase with
  | waiting due => exact serves.leaves phase stopped
  | running due ends held rest =>
    have busy := isRunning_of_running phase
    rw [stopped]
    rw [phase] at serves
    cases serves with
    | running before _ _ _ =>
      rw [Turn.note_of_ends before busy idle]
      exact .broken before cancelled
  | stopped =>
    rw [Turn.note_of_same (idle.trans (not_isRunning_of_stopped phase).symm), stopped]
    rwa [phase] at serves

/-- What a turn that starts no program leaves to be shown. -/
theorem Obeys.keep (obeys : Obeys plan program context lifetimes job scene)
    (move : Move job scene next after) (starts : next.starts = job.starts)
    (unbegun : (Turn.mk job scene next after).begins = false)
    (restarted : Restarted (context.health.restarts.count program.name) lifetimes next
      (after.restartsOf program.name))
    (serves : Serves plan scene.moment (Turn.note lifetimes ⟨job, scene, next, after⟩)
      next.phase) :
    Obeys plan program context (Turn.note lifetimes ⟨job, scene, next, after⟩) next
      { scene with shared := after } := by
  have begun := @Turn.begun_note lifetimes ⟨job, scene, next, after⟩ unbegun
  have length : (Turn.note lifetimes ⟨job, scene, next, after⟩).length = lifetimes.length := by
    simpa using congrArg List.length begun
  exact
    { runs := (spares_of_move move).1.trans obeys.runs
      lives := (lives_of_move move).trans obeys.lives
      settings := (spares_of_move move).2.settings.trans obeys.settings
      starts := by rw [starts, obeys.starts, length]
      restarted :=
        { least := length ▸ restarted.least
          exact := length ▸ restarted.exact
          most := length ▸ restarted.most }
      fits := begun ▸ obeys.fits
      serves := serves }

/-- A turn that counts no restart leaves those that are counted as they are. -/
theorem Restarted.keep {before counted : Nat} (restarted : Restarted before lifetimes job counted)
    (going : job.phase ≠ .stopped) : Restarted before lifetimes next counted where
  least := restarted.least
  exact _ := restarted.exact going
  most := restarted.most

/-- The turns in which a life is read. -/
theorem Obeys.reads (obeys : Obeys plan program context lifetimes job scene)
    (move : Move job scene next after) (starts : next.starts = job.starts)
    (restarts : after.restartsOf program.name = scene.shared.restartsOf program.name)
    {due ends : Nat} {held other : Option Point} {rest more : List Bytes}
    (running : job.phase = .running due ends held rest)
    (runs : next.phase = .running due ends other more) :
    Obeys plan program context (Turn.note lifetimes ⟨job, scene, next, after⟩) next
      { scene with shared := after } := by
  refine obeys.keep move starts (Turn.begins_of_busy (isRunning_of_running running)) ?_
    (obeys.serves.reads running runs)
  rw [restarts]
  exact obeys.restarted.keep fun stopped => nomatch running.symm.trans stopped

/-- A job that counts a start in place of which it ends has counted one more at most. -/
theorem Obeys.counted (obeys : Obeys plan program context lifetimes job scene)
    (going : job.phase ≠ .stopped) (stopped : next.phase = .stopped) :
    Restarted (context.health.restarts.count program.name) lifetimes next
      ((job.countStart scene.shared).restartsOf program.name) := by
  have same := obeys.restarted.exact going
  rw [restarts_countStart, obeys.starts, obeys.runs]
  simp only [and_true]
  refine ⟨?_, fun goes => absurd stopped goes, ?_⟩
  · split <;> omega
  · split <;> omega

theorem Obeys.launch {due : Nat} (obeys : Obeys plan program context lifetimes job scene)
    (period : plan.period = program.period context) (move : Move job scene next after)
    (waiting : job.phase = .waiting due) (reached : due ≤ scene.moment.now)
    (fits : scene.moment.now + job.program.period scene.shared.context < Moment.limit)
    (launched : job.launch scene.moment.now scene.shared = (next, after)) :
    Obeys plan program context (Turn.note lifetimes ⟨job, scene, next, after⟩) next
      { scene with shared := after } := by
  obtain ⟨_, _, running⟩ := (launched_of_launch fits launched).phase
  rw [Turn.note_of_begins (not_isRunning_of_waiting waiting) (isRunning_of_running running)]
  have same : plan.period = job.program.period scene.shared.context := by
    rw [period, obeys.runs, program.period_congr obeys.settings]
  have before := obeys.restarted.exact fun stopped => nomatch waiting.symm.trans stopped
  have counted : after.restartsOf program.name =
      context.health.restarts.count program.name + lifetimes.length := by
    rw [restarts_of_launch launched, obeys.runs, obeys.starts]
    simp only [and_true]
    split <;> omega
  refine
    { runs := (spares_of_move move).1.trans obeys.runs
      lives := (lives_of_move move).trans obeys.lives
      settings := (spares_of_move move).2.settings.trans obeys.settings
      starts := ?_
      restarted := ?_
      fits := fun begun member => ?_
      serves := obeys.serves.launch obeys.lives obeys.starts same waiting reached fits launched }
  · rw [(launched_of_launch fits launched).starts, obeys.starts, List.length_append]
    rfl
  · show Restarted _ _ _ (after.restartsOf program.name)
    rw [counted]
    exact ⟨by simp, by simp, by simp⟩
  · rw [List.map_append] at member
    rcases List.mem_append.mp member with old | new
    · exact obeys.fits begun old
    · rw [List.mem_singleton.mp new, same]
      exact fits

/-- Every turn keeps to the plan. -/
theorem Obeys.step (obeys : Obeys plan program context lifetimes job scene)
    (period : plan.period = program.period context) (move : Move job scene next after) :
    Obeys plan program context (Turn.note lifetimes ⟨job, scene, next, after⟩) next
      { scene with shared := after } := by
  have restarted := obeys.restarted
  have serves := obeys.serves
  have waits {due : Nat} (waiting : job.phase = .waiting due) : job.phase ≠ .stopped :=
    fun stopped => nomatch waiting.symm.trans stopped
  have runs {due ends : Nat} (running : job.phase = .running due ends none []) :
      job.phase ≠ .stopped :=
    fun stopped => nomatch running.symm.trans stopped
  cases move with
  | told cancelled =>
    refine obeys.keep (.told cancelled) rfl (Turn.begins_of_idle rfl) ?_
      (serves.told cancelled rfl)
    exact ⟨restarted.least, fun goes => absurd rfl goes, restarted.most⟩
  | launch waiting reached fits launched =>
    exact obeys.launch period (.launch waiting reached fits launched) waiting reached fits launched
  | unfit waiting reached beyond =>
    exact obeys.keep (.unfit waiting reached beyond) rfl (Turn.begins_of_idle rfl)
      (obeys.counted (waits waiting) rfl) (serves.leaves waiting rfl)
  | turnedBack waiting reached cancelled =>
    exact obeys.keep (.turnedBack waiting reached cancelled) rfl (Turn.begins_of_idle rfl)
      (obeys.counted (waits waiting) rfl) (serves.leaves waiting rfl)
  | line running =>
    exact obeys.reads (.line running) rfl
      (congrArg (Table.count · program.name) (Context.takeLine_restarts _ _)) running rfl
  | rejected running refused => exact obeys.reads (.rejected running refused) rfl rfl running rfl
  | queued running cleaned => exact obeys.reads (.queued running cleaned) rfl rfl running rfl
  | closed running gone => exact obeys.reads (.closed running gone) rfl rfl running rfl
  | finished running reached gone =>
    exact obeys.keep (.finished running reached gone) rfl (Turn.begins_of_idle rfl)
      (restarted.keep (runs running)) (.stopped (serves.ended running reached rfl))
  | ended running reached here =>
    exact obeys.keep (.ended running reached here) rfl (Turn.begins_of_idle rfl)
      (restarted.keep (runs running)) (.waiting (serves.ended running reached rfl) rfl)

/-- Among prompt others a job keeps to its plan. -/
theorem Course.obeys (course : Course (Prompt plan.late) start origin turns job scene)
    (period : plan.period = program.period context)
    (begins : Obeys plan program context [] start origin) :
    Obeys plan program context (Turn.lifetimesOf turns) job scene := by
  induction course with
  | start => exact begins
  | others _ prompt inductionHypothesis => exact inductionHypothesis.others prompt
  | step _ _ step inductionHypothesis =>
    rw [lifetimesOf_append_singleton]
    exact inductionHypothesis.step period (move_of_take step)

end

end ProgramJob

end Telemetry
