/-
This file says how a program is supervised in a world.

Whatever the other collectors, the queue and the consumer do, and whatever comes from outside, the
job of a program takes a course among others that are prompt, so its lives follow each other as its
plan says. How a life comes to its end makes no difference, and how the job heeds an order to stop
makes none either. The job leaves off only when it is told to stop, when the consumer is gone at the
end of a life, or when the clock cannot show the moment a period after a start that is due. As long
as none of these is the case every start that is due is made. The last of the three is an end that
nobody has asked for: a program with a period of that length is not started at all.
-/

import Telemetry.Proofs.Clock
import Telemetry.Proofs.Succession

namespace Telemetry

namespace ProgramJob

/-! ### Turns of a course -/

section

variable {Others : ProgramJob → Scene → Scene → Prop} {start job : ProgramJob}
  {origin scene : Scene} {turns : List Turn}

/-- What was seen of a course up to one of its turns is a course as well. -/
theorem Course.before (course : Course Others start origin turns job scene)
    {earlier later : List Turn} {turn : Turn} (split : turns = earlier ++ turn :: later) :
    Course Others start origin earlier turn.job turn.scene ∧
      Move turn.job turn.scene turn.next turn.after := by
  induction course generalizing later with
  | start => simp at split
  | others _ _ inductionHypothesis => exact inductionHypothesis split
  | @step turns job next scene after heed course step inductionHypothesis =>
    rcases List.eq_nil_or_concat' later with rfl | ⟨between, last, rfl⟩
    · obtain ⟨rfl, same⟩ := List.append_inj' split rfl
      obtain rfl := List.singleton_inj.mp same
      exact ⟨course, move_of_take step⟩
    · rw [← List.cons_append, ← List.append_assoc] at split
      exact inductionHypothesis (List.append_inj' split rfl).1

/-- Every turn is one of the steps of the job. -/
theorem Course.moves (course : Course Others start origin turns job scene) :
    ∀ turn ∈ turns, Move turn.job turn.scene turn.next turn.after := by
  intro turn member
  obtain ⟨_, _, split⟩ := List.append_of_mem member
  exact (course.before split).2

/-- The job is as its last turn has left it. -/
theorem Course.last (course : Course Others start origin turns job scene) :
    turns = [] ∧ job = start ∨ ∃ earlier turn, turns = earlier ++ [turn] ∧ turn.next = job := by
  induction course with
  | start => exact .inl ⟨rfl, rfl⟩
  | others _ _ inductionHypothesis => exact inductionHypothesis
  | step => exact .inr ⟨_, _, rfl, rfl⟩

/-- A job that has stopped makes no more turns. -/
theorem Course.final (course : Course Others start origin turns job scene)
    {earlier later : List Turn} {turn : Turn} (split : turns = earlier ++ turn :: later)
    (stopped : turn.next.phase = .stopped) : later = [] := by
  induction course generalizing later with
  | start => simp at split
  | others _ _ inductionHypothesis => exact inductionHypothesis split
  | @step turns job next scene after heed course step inductionHypothesis =>
    rcases List.eq_nil_or_concat' later with empty | ⟨between, last, rfl⟩
    · exact empty
    · rw [← List.cons_append, ← List.append_assoc] at split
      obtain ⟨before, _⟩ := List.append_inj' split rfl
      obtain rfl := inductionHypothesis before
      rcases course.last with ⟨empty, _⟩ | ⟨_, other, whole, same⟩
      · simp [empty] at before
      · rw [whole] at before
        obtain ⟨_, equal⟩ := List.append_inj' before rfl
        rw [List.singleton_inj.mp equal] at same
        rw [take_none_of_stopped (same ▸ stopped)] at step
        cases step

/-- An order to stop that a turn has heard stands. -/
theorem Course.told {late : Prop} (course : Course (Prompt late) start origin turns job scene) :
    ∀ turn ∈ turns, turn.scene.moment.cancelled = true → scene.moment.cancelled = true := by
  induction course with
  | start => exact fun _ member => absurd member List.not_mem_nil
  | others _ prompt inductionHypothesis =>
    exact fun turn member heard => prompt.told (inductionHypothesis turn member heard)
  | step _ _ _ inductionHypothesis =>
    intro turn member heard
    rcases List.mem_append.mp member with before | last
    · exact inductionHypothesis turn before heard
    · rw [List.mem_singleton.mp last] at heard
      exact heard

end

section

variable {job next : ProgramJob} {scene : Scene} {after : Shared}

/-- What makes a job leave off: it is told to stop, the consumer is gone at the end of a life, or
the clock cannot show the moment a period after a start that is due. -/
theorem Move.leavesOff (move : Move job scene next after) (stopped : next.phase = .stopped) :
    scene.moment.cancelled = true ∨
      ((Turn.mk job scene next after).ends = true ∧ scene.shared.dispatcher.isClosed = true) ∨
      (Turn.mk job scene next after).Unfit := by
  cases move with
  | told cancelled => exact .inl cancelled
  | launch _ _ fits launched =>
    obtain ⟨_, _, running⟩ := (launched_of_launch fits launched).phase
    cases stopped.symm.trans running
  | unfit waiting reached beyond => exact .inr (.inr ⟨⟨_, waiting, reached⟩, beyond⟩)
  | turnedBack _ _ cancelled => exact .inl cancelled
  | finished running _ gone =>
    refine .inr (.inl ⟨?_, decide_eq_true gone⟩)
    simp [Turn.ends, isRunning, running]
  | _ => cases stopped

/-- At the end of a life a job that finds the consumer gone has stopped. -/
theorem Move.stops (move : Move job scene next after)
    (ends : (Turn.mk job scene next after).ends = true)
    (gone : scene.shared.dispatcher.isClosed = true) : next.phase = .stopped := by
  simp only [Turn.ends, Bool.and_eq_true, Bool.not_eq_true'] at ends
  obtain ⟨_, idle⟩ := ends
  cases move with
  | launch _ _ fits launched =>
    obtain ⟨_, _, running⟩ := (launched_of_launch fits launched).phase
    cases idle.symm.trans (isRunning_of_running running)
  | ended _ _ here => exact absurd (of_decide_eq_true gone) here
  | told => rfl
  | unfit => rfl
  | turnedBack => rfl
  | finished => rfl
  | _ => cases idle

/-- So has one to which the clock cannot show the moment a period after a start that is due. -/
theorem Move.gives_up (move : Move job scene next after)
    (unfit : (Turn.mk job scene next after).Unfit) : next.phase = .stopped := by
  obtain ⟨⟨due, waiting, _⟩, beyond⟩ := unfit
  cases move with
  | launch _ _ fits _ => exact absurd fits (Nat.not_lt.mpr beyond)
  | told => rfl
  | unfit => rfl
  | turnedBack => rfl
  | finished => rfl
  | line running => cases waiting.symm.trans running
  | rejected running _ => cases waiting.symm.trans running
  | queued running _ => cases waiting.symm.trans running
  | closed running _ => cases waiting.symm.trans running
  | ended running _ _ => cases waiting.symm.trans running

/-- A job that can make no step has stopped, or it was not told to and waits for a later moment or
for room. -/
theorem still_of_no_step (still : job.step? scene.moment scene.shared = none) :
    job.phase = .stopped ∨ scene.moment.cancelled = false ∧
      ((∃ wake, job.wakes = some wake ∧ scene.moment.now < wake) ∨ job.held.isSome = true) := by
  unfold step? at still
  unfold wakes held
  split at still
  · rename_i stopped
    exact .inl stopped
  · rename_i due waiting
    rw [waiting]
    split at still
    · cases still
    · rename_i going
      split at still
      · cases still
      · rename_i early
        exact .inr ⟨eq_false_of_ne_true going, .inl ⟨due, rfl, Nat.lt_of_not_le early⟩⟩
  · rename_i due ends held rest running
    rw [running]
    split at still
    · cases still
    · rename_i going
      refine .inr ⟨eq_false_of_ne_true going, ?_⟩
      split at still
      · exact .inr rfl
      · cases still
      · split at still
        · rename_i early
          exact .inl ⟨ends, rfl, early⟩
        · split at still <;> cases still

end

section

variable {late : Prop} {start job : ProgramJob} {origin scene : Scene} {turns : List Turn}

theorem Course.leavesOff (course : Course (Prompt late) start origin turns job scene) :
    ∀ turn ∈ turns, turn.next.phase = .stopped → turn.scene.moment.cancelled = true ∨
      (turn.ends = true ∧ turn.scene.shared.dispatcher.isClosed = true) ∨ turn.Unfit :=
  fun turn member => (course.moves turn member).leavesOff

/-- Where a start is due whose next one the clock cannot show, the lives before it are over. -/
theorem Course.unfit {plan : Plan} {program : Program} {context : Context}
    (course : Course (Prompt plan.late) start origin turns job scene)
    (period : plan.period = program.period context)
    (begins : Obeys plan program context [] start origin) {earlier : List Turn} {turn : Turn}
    (split : turns = earlier ++ [turn]) (unfit : turn.Unfit) :
    ∃ moment, Succession plan (Turn.lifetimesOf turns) moment ∧
      Moment.limit ≤ moment + plan.period := by
  obtain ⟨before, move⟩ := course.before split
  have obeys := before.obeys period begins
  have idle := not_isRunning_of_stopped (move.gives_up unfit)
  obtain ⟨⟨due, waiting, reached⟩, beyond⟩ := unfit
  have same : plan.period = turn.job.program.period turn.scene.shared.context := by
    rw [period, obeys.runs, program.period_congr obeys.settings]
  have kept : Turn.lifetimesOf turns = Turn.lifetimesOf earlier := by
    rw [split, lifetimesOf_append_singleton]
    exact Turn.note_of_same (idle.trans (not_isRunning_of_waiting waiting).symm)
  have serves := obeys.serves
  rw [waiting] at serves
  rw [kept, same]
  exact ⟨turn.scene.moment.now, serves.now reached, beyond⟩

/-- As long as nothing has made the job leave off it goes on. -/
theorem Course.going {plan : Plan} {program : Program} {context : Context}
    (course : Course (Prompt plan.late) start origin turns job scene)
    (period : plan.period = program.period context)
    (begins : Obeys plan program context [] start origin) (started : start.phase ≠ .stopped)
    (untold : scene.moment.cancelled = false)
    (opened : ∀ turn ∈ turns, turn.ends = true → turn.scene.shared.dispatcher.isClosed = false)
    {moment : Nat} (whole : Succession plan (Turn.lifetimesOf turns) moment)
    (fits : moment + plan.period < Moment.limit) : job.phase ≠ .stopped := by
  intro stopped
  rcases course.last with ⟨_, rfl⟩ | ⟨earlier, turn, split, rfl⟩
  · exact started stopped
  · have member : turn ∈ turns := by
      rw [split]
      exact List.mem_append_right _ List.mem_cons_self
    rcases course.leavesOff turn member stopped with told | ⟨ends, gone⟩ | unfit
    · cases untold.symm.trans (course.told turn member told)
    · cases (opened turn member ends).symm.trans gone
    · obtain ⟨other, before, beyond⟩ := course.unfit period begins split unfit
      rw [before.unique whole] at beyond
      exact absurd fits (Nat.not_lt.mpr beyond)

end

end ProgramJob

namespace World

variable {start world after : World} {past : List Incident} {event : Event} {place : Nat}
  {job : ProgramJob}

/-! ### What comes about around a program -/

/-- What everything that comes about keeps holds wherever a world comes to. -/
theorem Undergoes.keeps (Holds : World → Prop)
    (kept : ∀ world event after, Holds world → world.after? event = some after → Holds after)
    (begins : Holds start) (undergoes : start.Undergoes past world) :
    Holds world ∧ ∀ incident ∈ past, Holds incident.before ∧
      incident.before.after? incident.event = some incident.after := by
  induction undergoes with
  | start => exact ⟨begins, fun _ member => absurd member List.not_mem_nil⟩
  | next event _ happened inductionHypothesis =>
    obtain ⟨holds, earlier⟩ := inductionHypothesis
    refine ⟨kept _ event _ holds happened, fun incident member => ?_⟩
    rcases List.mem_append.mp member with before | last
    · exact earlier incident before
    · rw [List.mem_singleton.mp last]
      exact ⟨holds, happened⟩

/-- What a step of a job does that heeds the order to stop in some way. -/
theorem exists_take {heed : Heed} {index : Nat} (taken : world.take? index heed = some after) :
    ∃ worker next shared, world.jobs[index]? = some worker ∧
      worker.take? heed world.moment world.shared = some (next, shared) ∧
      after = { world with jobs := world.jobs.set index next, shared := shared } := by
  unfold take? at taken
  split at taken
  · cases taken
  · rename_i worker found
    split at taken
    · cases taken
    · rename_i next shared step
      exact ⟨worker, next, shared, found, step, (Option.some.inj taken).symm⟩

theorem names_of_after (happened : world.after? event = some after) :
    after.jobs.map Job.name = world.jobs.map Job.name := by
  cases event with
  | act => exact names_of_perform happened
  | take index heed =>
    obtain ⟨worker, next, shared, found, step, rfl⟩ := exists_take happened
    obtain ⟨here, same⟩ := List.getElem?_eq_some_iff.mp found
    show (world.jobs.set index next).map Job.name = world.jobs.map Job.name
    rw [List.map_set, (Job.spares_of_take step).1, ← same, ← List.getElem_map Job.name,
      List.set_getElem_self]
    rwa [List.length_map]
  | order => rw [← Option.some.inj happened]
  | hold => rw [← Option.some.inj happened]

/-- Only its own step changes a job. -/
theorem getElem?_jobs_of_after (happened : world.after? event = some after)
    (other : ¬event.IsStepOf place) : after.jobs[place]? = world.jobs[place]? := by
  cases event with
  | act action =>
    exact getElem?_jobs_of_perform happened fun same => other (.inl (congrArg Event.act same))
  | take index heed =>
    obtain ⟨worker, next, shared, found, step, rfl⟩ := exists_take happened
    exact List.getElem?_set_ne fun same => other (.inr ⟨heed, congrArg (Event.take · heed) same⟩)
  | order => rw [← Option.some.inj happened]
  | hold => rw [← Option.some.inj happened]

/-- What its own step does to a job. -/
theorem exists_take_of_own (happened : world.after? event = some after)
    (own : event.IsStepOf place) {worker : Job} (found : world.jobs[place]? = some worker) :
    ∃ heed next, worker.take? heed world.moment world.shared = some (next, after.shared) ∧
      after.jobs[place]? = some next ∧
      after.scene = { world.scene with shared := after.shared } := by
  rcases own with rfl | ⟨heed, rfl⟩
  · have performed : world.perform? (.work place) = some after := happened
    obtain ⟨_, next, step, there, scene⟩ :=
      (own_or_other performed found).resolve_right fun other => other.1 rfl
    exact ⟨.atOnce, next, (worker.take_atOnce _ _).trans step, there, scene⟩
  · obtain ⟨same, next, shared, occupied, step, rfl⟩ := exists_take happened
    obtain rfl := Option.some.inj (found.symm.trans occupied)
    obtain ⟨inside, _⟩ := List.getElem?_eq_some_iff.mp found
    exact ⟨heed, next, step, List.getElem?_set_self inside, rfl⟩

/-- A step of the job of a program is a turn of it, and nothing else that comes about is one. -/
theorem turnsOf_singleton {next : ProgramJob} (here : world.jobs[place]? = some (.program job))
    (there : after.jobs[place]? = some (.program next)) :
    Incident.turnsOf place [⟨world, event, after⟩] =
      if event.IsStepOf place then [⟨job, world.scene, next, after.shared⟩] else [] := by
  by_cases own : event.IsStepOf place <;>
    simp [Incident.turnsOf, Incident.turn?, here, there, own]

/-- The job of a program takes a course whatever comes about, among others that do what the rest of
the world does. -/
theorem Undergoes.programCourse (Others : ProgramJob → Scene → Scene → Prop)
    (undergoes : start.Undergoes past world) (found : start.jobs[place]? = some (.program job))
    (others : ∀ incident ∈ past, ¬incident.event.IsStepOf place → ∀ job,
      incident.before.jobs[place]? = some (.program job) →
        Others job incident.before.scene incident.after.scene) :
    ∃ next, world.jobs[place]? = some (.program next) ∧
      ProgramJob.Course Others job start.scene (Incident.turnsOf place past) next world.scene := by
  induction undergoes with
  | start => exact ⟨job, found, .start⟩
  | @next past world after event undergoes happened inductionHypothesis =>
    obtain ⟨now, here, course⟩ := inductionHypothesis fun incident member =>
      others incident (List.mem_append_left _ member)
    have turns : Incident.turnsOf place (past ++ [⟨world, event, after⟩]) =
        Incident.turnsOf place past ++ Incident.turnsOf place [⟨world, event, after⟩] :=
      List.filterMap_append
    rw [turns]
    by_cases own : event.IsStepOf place
    · obtain ⟨heed, moved, step, there, scene⟩ := exists_take_of_own happened own here
      obtain ⟨⟨next, changed⟩, taken, same⟩ := Option.map_eq_some_iff.mp step
      obtain ⟨rfl, rfl⟩ := Prod.mk.inj same
      refine ⟨next, there, ?_⟩
      rw [turnsOf_singleton here there, if_pos own, scene]
      exact course.step heed taken
    · have kept := (getElem?_jobs_of_after happened own).trans here
      refine ⟨now, kept, ?_⟩
      rw [turnsOf_singleton here kept, if_neg own, List.append_nil]
      exact course.others (others _ (List.mem_append_right _ List.mem_cons_self) own now here)

/-! ### The clock -/

/-- What a program waits for is among that for which the clock stops. -/
theorem mem_wakes_of_program (found : world.jobs[place]? = some (.program job)) {wake : Nat}
    (waits : job.wakes = some wake) : wake ∈ world.wakes :=
  List.mem_append_left _ (List.mem_append_left _
    (List.mem_filterMap.mpr ⟨_, List.mem_of_getElem? found, waits⟩))

theorem still_of_work_none_of_program (found : world.jobs[place]? = some (.program job))
    (stuck : world.work? place = none) :
    job.phase = .stopped ∨ world.cancelled = false ∧
      ((∃ wake, job.wakes = some wake ∧ world.now < wake) ∨ job.held.isSome = true) := by
  have still := Option.map_eq_none_iff.mp ((work_none_iff found).mp stuck)
  exact @ProgramJob.still_of_no_step job world.scene still

/-- Whatever comes about around a program is prompt. -/
theorem promptProgram_of_after (happened : world.after? event = some after)
    (distinct : (world.jobs.map Job.name).Nodup)
    (found : world.jobs[place]? = some (.program job)) (other : ¬event.IsStepOf place)
    {late : Prop} (delays : event = .act .advance → world.HoldsLine place → late) :
    job.Prompt late world.scene after.scene := by
  cases event with
  | act action =>
    have performed : world.perform? action = some after := happened
    have others : action ≠ .work place := fun same => other (.inl (congrArg Event.act same))
    refine
      { told := fun told => (moment_of_perform performed).1.trans told
        settings := ?_
        restarts := restarts_of_perform performed distinct found others
        forward := now_le_of_perform performed
        clock := ?_ }
    · cases deed_of_perform performed with
      | work _ step => exact (Job.spares_of_step step).2.settings
      | _ => rfl
    · intro moved
      have advances : action = .advance :=
        Decidable.byContradiction fun stays => moved ((moment_of_perform performed).2.2 stays)
      subst advances
      cases deed_of_perform performed with
      | advance still next =>
        have inside := (List.getElem?_eq_some_iff.mp found).1
        rcases still_of_work_none_of_program found (work_none_of_act_none still inside) with
          stopped | ⟨_, ⟨wake, waits, later⟩ | held⟩
        · exact .inl stopped
        · exact .inr (.inl ⟨wake, waits, next_le next (mem_wakes_of_program found waits) later⟩)
        · exact .inr (.inr ⟨held, delays rfl ⟨job, found, held⟩⟩)
  | take index heed =>
    obtain ⟨worker, next, shared, occupied, step, rfl⟩ := exists_take happened
    have apart : index ≠ place := fun same =>
      other (.inr ⟨heed, congrArg (Event.take · heed) same⟩)
    have different := name_ne_of_place_ne distinct found occupied apart
    exact ⟨id, (Job.spares_of_take step).2.settings, Job.restarts_of_take step different,
      Nat.le_refl _, fun moved => absurd rfl moved⟩
  | order =>
    obtain rfl := Option.some.inj happened
    exact ⟨fun _ => rfl, rfl, rfl, Nat.le_refl _, fun moved => absurd rfl moved⟩
  | hold =>
    obtain rfl := Option.some.inj happened
    exact ⟨id, rfl, rfl, Nat.le_refl _, fun moved => absurd rfl moved⟩

/-- A moment is not over that is not passed and for which the program waits. -/
theorem not_isOver_of_waits (found : world.jobs[place]? = some (.program job))
    (going : job.phase ≠ .stopped) (free : ¬job.held.isSome = true) {moment : Nat}
    (ahead : world.now ≤ moment)
    (waits : ∀ wake, job.wakes = some wake → world.now < wake → moment = wake) :
    ¬world.IsOver moment := by
  rintro (passed | ⟨rest, before⟩)
  · exact absurd passed (Nat.not_lt.mpr ahead)
  · rcases still_of_work_none_of_program found (rest (.work place)) with
      stopped | ⟨_, ⟨wake, wakes, later⟩ | held⟩
    · exact going stopped
    · have same := waits wake wakes later
      have unreached := horizon_le_due rest (mem_wakes_of_program found wakes) later
      omega
    · exact free held

/-! ### Supervision -/

/-- What is to be said of a program in a world that came from its start. -/
structure Supervision (program : Program) (lives : Nat → Life) (context : Context)
    (start place : Nat) (past : List Incident) (world : World) : Prop where
  /-- The program is started at once. -/
  first : ∀ life, (Incident.lifetimesOf place past)[0]? = some life → life.begun = start
  /-- It is started again a period after each start or, when it is still alive then, at the end of
  its life. -/
  again : ∀ number life next, (Incident.lifetimesOf place past)[number]? = some life →
    (Incident.lifetimesOf place past)[number + 1]? = some next →
      ∃ finish, life.ended = some finish ∧
        next.begun = max (life.begun + program.period context) finish
  /-- Only the last life may be under way, and it is while the job reads it. -/
  alone : ∀ number life, (Incident.lifetimesOf place past)[number]? = some life →
    life.ended = none → number + 1 = (Incident.lifetimesOf place past).length
  underWay : (∃ job, world.jobs[place]? = some (.program job) ∧ job.isRunning = true) ↔
    ∃ life ∈ Incident.lifetimesOf place past, life.ended = none
  /-- While a life is under way every start but the first is counted as a restart. -/
  restarts : (∃ life ∈ Incident.lifetimesOf place past, life.ended = none) →
    world.shared.restartsOf program.name =
      context.health.restarts.count program.name + ((Incident.lifetimesOf place past).length - 1)
  /-- So it is until the job leaves off, and then one more may be counted at most. -/
  counted : ∀ job, world.jobs[place]? = some (.program job) →
    ProgramJob.Restarted (context.health.restarts.count program.name)
      (Incident.lifetimesOf place past) job (world.shared.restartsOf program.name)
  /-- The clock can show the moment a period after each start. -/
  fits : ∀ life ∈ Incident.lifetimesOf place past,
    life.begun + program.period context < Moment.limit
  /-- Unless it is told to stop, a life lasts as long as it is given, and longer only when the clock
  moves on while a point of it waits for room. -/
  lasts : world.cancelled = false → ∀ number life finish,
    (Incident.lifetimesOf place past)[number]? = some life → life.ended = some finish →
      life.begun + max (lives number).duration 1 ≤ finish ∧
        ((∀ incident ∈ past, ¬incident.Delays place) →
          finish = life.begun + max (lives number).duration 1)
  /-- The job leaves off only when it is told to stop, when the consumer is gone at the end of a
  life, or when a start is due and the clock cannot show the moment a period after it. -/
  leavesOff : ∀ turn ∈ Incident.turnsOf place past, turn.next.phase = .stopped →
    turn.scene.moment.cancelled = true ∨
      (turn.ends = true ∧ turn.scene.shared.dispatcher.isClosed = true) ∨ turn.Unfit
  /-- It does in the latter two cases. -/
  stops : ∀ turn ∈ Incident.turnsOf place past,
    (turn.ends = true ∧ turn.scene.shared.dispatcher.isClosed = true) ∨ turn.Unfit →
      turn.next.phase = .stopped
  /-- Then it makes no more turns, and so no start. -/
  final : ∀ earlier turn later, Incident.turnsOf place past = earlier ++ turn :: later →
    turn.next.phase = .stopped → later = []
  /-- As long as none of these is the case every start is made when it is due. -/
  goesOn : world.cancelled = false →
    (∀ turn ∈ Incident.turnsOf place past, turn.ends = true →
      turn.scene.shared.dispatcher.isClosed = false) →
    (start + program.period context < Moment.limit → world.IsOver start →
      0 < (Incident.lifetimesOf place past).length) ∧
      ∀ number life finish, (Incident.lifetimesOf place past)[number]? = some life →
        life.ended = some finish →
          max (life.begun + program.period context) finish + program.period context <
            Moment.limit →
          world.IsOver (max (life.begun + program.period context) finish) →
            number + 1 < (Incident.lifetimesOf place past).length
  /-- And every life is over in its time, unless a point of it has to wait for room. -/
  finishes : world.cancelled = false → (∀ incident ∈ past, ¬incident.Delays place) →
    ¬world.HoldsLine place → ∀ number life,
      (Incident.lifetimesOf place past)[number]? = some life →
        world.IsOver (life.begun + max (lives number).duration 1) → life.ended.isSome = true

section

variable {plan : ProgramJob.Plan} {program : Program} {context : Context}
  {lifetimes : List Lifetime} {begins number : Nat} {life : Lifetime}

open ProgramJob

/-- The moment of the next start is not over before that start. -/
theorem not_isOver_next (found : world.jobs[place]? = some (.program job))
    (serves : Serves plan world.moment lifetimes job.phase) (going : job.phase ≠ .stopped)
    (whole : Succession plan lifetimes begins) : ¬world.IsOver begins := by
  obtain ⟨due, waiting, awaits⟩ := (serves.next whole).resolve_left going
  have now : begins = max due world.now := awaits
  refine not_isOver_of_waits found going ?_ (by omega) fun wake waits later => ?_
  · rw [held, waiting]
    exact Bool.false_ne_true
  · rw [wakes_of_waiting waiting waits] at later ⊢
    omega

/-- The end of a life is not over while it is under way, unless a point of it waits for room. -/
theorem not_isOver_end (found : world.jobs[place]? = some (.program job))
    (serves : Serves plan world.moment lifetimes job.phase) (punctual : ¬plan.late)
    (free : ¬world.HoldsLine place) (seen : lifetimes[number]? = some life)
    (unended : life.ended = none) : ¬world.IsOver (life.begun + plan.lasting number) := by
  obtain ⟨due, ends, _, rest, running⟩ :=
    serves.underWay_iff.mpr ⟨life, List.mem_of_getElem? seen, unended⟩
  have going : job.phase ≠ .stopped := by
    rw [running]
    exact nofun
  have same : ends = life.begun + plan.lasting number ∧ world.now ≤ ends := by
    rw [running] at serves
    cases serves with
    | running before _ lasts inTime =>
      rcases mem_at_append_singleton seen with there | ⟨rfl, rfl⟩
      · obtain ⟨_, lasted⟩ := before.lasted there
        cases unended.symm.trans lasted.isEnded
      · exact ⟨lasts, inTime punctual⟩
  rw [← same.1]
  refine not_isOver_of_waits found going (fun held => free ⟨job, found, held⟩) same.2
    fun _ waits _ => (wakes_of_running running waits).symm

end

/-- What is given for the lives of a program that is started in a world. -/
def planOf (program : Program) (lives : Nat → Life) (context : Context) (start place : Nat)
    (past : List Incident) : ProgramJob.Plan :=
  ⟨start, program.period context, lives, ∃ incident ∈ past, incident.Delays place⟩

/-- The job of a program takes a course among prompt others, and keeps to its plan. -/
theorem exists_obeys {registry : Registry} {context : Context} {surroundings : Surroundings}
    {lives : String → Nat → Life} {capacity reportPeriod : Nat} {consumer : Consumer}
    {now horizon : Nat} {program : Program} (distinct : registry.names.Nodup)
    (found : registry.collectors[place]? = some (.program program))
    (undergoes : (World.start registry context surroundings lives capacity reportPeriod consumer now
      horizon).Undergoes past world) :
    let plan := planOf program (lives program.path) context now place past
    ∃ origin job, world.jobs[place]? = some (.program job) ∧
      ProgramJob.Course (ProgramJob.Prompt plan.late)
        (ProgramJob.start program plan.lives plan.start) origin (Incident.turnsOf place past) job
        world.scene ∧
      ProgramJob.Obeys plan program context []
        (ProgramJob.start program plan.lives plan.start) origin := by
  intro plan
  have begun : (World.start registry context surroundings lives capacity reportPeriod consumer now
      horizon).jobs[place]? =
        some (.program (ProgramJob.start program (lives program.path) now)) := by
    show (registry.collectors.map (jobOf context now lives))[place]? = _
    rw [List.getElem?_map, found]
    rfl
  have names : ((World.start registry context surroundings lives capacity reportPeriod consumer now
      horizon).jobs.map Job.name).Nodup := names_jobOf registry context now lives ▸ distinct
  have always := (undergoes.keeps (fun world => (world.jobs.map Job.name).Nodup)
    (fun _ _ _ holds happened => names_of_after happened ▸ holds) names).2
  obtain ⟨job, here, course⟩ := undergoes.programCourse (ProgramJob.Prompt plan.late) begun
    fun incident member other job there => by
      obtain ⟨different, happened⟩ := always incident member
      exact promptProgram_of_after happened different there other
        fun advances held => ⟨incident, member, advances, held⟩
  refine ⟨_, job, here, course, rfl, rfl, rfl, rfl, ?_, nofun, ?_⟩
  · exact ⟨Nat.le_refl _, fun _ => rfl, Nat.le_refl _⟩
  · exact .waiting .none (Nat.max_self now).symm

/-- Whatever comes about, a program is supervised. -/
theorem supervision_of_undergoes {registry : Registry} {context : Context}
    {surroundings : Surroundings} {lives : String → Nat → Life} {capacity reportPeriod : Nat}
    {consumer : Consumer} {now horizon : Nat} {program : Program}
    (distinct : registry.names.Nodup)
    (found : registry.collectors[place]? = some (.program program))
    (undergoes : (World.start registry context surroundings lives capacity reportPeriod consumer now
      horizon).Undergoes past world) :
    Supervision program (lives program.path) context now place past world := by
  obtain ⟨origin, job, here, course, begins⟩ := exists_obeys distinct found undergoes
  have obeys : ProgramJob.Obeys _ program context (Incident.lifetimesOf place past) job
    world.scene := course.obeys rfl begins
  have serves := obeys.serves
  have going (untold : world.cancelled = false)
      (opened : ∀ turn ∈ Incident.turnsOf place past, turn.ends = true →
        turn.scene.shared.dispatcher.isClosed = false) {moment : Nat}
      (whole : ProgramJob.Succession _ (Incident.lifetimesOf place past) moment)
      (fits : moment + program.period context < Moment.limit) : job.phase ≠ .stopped :=
    course.going rfl begins nofun untold opened whole fits
  have underWay : (∃ job, world.jobs[place]? = some (.program job) ∧ job.isRunning = true) ↔
      job.isRunning = true := by
    constructor
    · rintro ⟨other, there, running⟩
      rw [here] at there
      obtain rfl := Job.program.inj (Option.some.inj there)
      exact running
    · exact fun running => ⟨job, here, running⟩
  refine
    { first := fun _ => serves.first
      again := fun _ _ _ => serves.again
      alone := fun _ _ => serves.alone
      underWay := ?_
      restarts := fun lasting => obeys.restarted.exact ?_
      counted := fun other there => ?_
      fits := fun life member => obeys.fits _ (List.mem_map_of_mem member)
      lasts := fun untold number life finish seen ended => ?_
      leavesOff := course.leavesOff
      stops := fun turn member => Or.rec
        (fun both => (course.moves turn member).stops both.1 both.2)
        (course.moves turn member).gives_up
      final := fun earlier turn later split => course.final split
      goesOn := fun untold opened =>
        ⟨fun fits passed => ?_, fun number life finish seen ended fits passed => ?_⟩
      finishes := fun untold punctual free number life seen passed => ?_ }
  · rw [underWay, ← serves.underWay_iff, ProgramJob.isRunning_iff]
  · obtain ⟨_, _, _, _, running⟩ := serves.underWay_iff.mpr lasting
    exact fun stopped => nomatch running.symm.trans stopped
  · obtain rfl := Job.program.inj (Option.some.inj (here.symm.trans there))
    exact obeys.restarted
  · have lasted := serves.lasted_of_going untold seen ended
    exact ⟨lasted.lasts, fun punctual => lasted.prompt fun ⟨incident, member, delays⟩ =>
      punctual incident member delays⟩
  · refine Nat.pos_of_ne_zero fun none => ?_
    have empty := List.length_eq_zero_iff.mp none
    have whole : ProgramJob.Succession (planOf program (lives program.path) context now place past)
        (Incident.lifetimesOf place past) now := empty ▸ .none
    exact not_isOver_next here serves (going untold opened whole fits) whole passed
  · have lasted := serves.lasted_of_going untold seen ended
    refine Nat.lt_of_le_of_ne (List.getElem?_eq_some_iff.mp seen).1 fun last => ?_
    have whole := lasted.next
    rw [List.take_of_length_le (Nat.le_of_eq last.symm)] at whole
    exact not_isOver_next here serves (going untold opened whole fits) whole passed
  · cases unended : life.ended with
    | some finish => rfl
    | none =>
      exact absurd passed (not_isOver_end here serves
        (fun ⟨incident, member, delays⟩ => punctual incident member delays) free seen unended)

/-- Lives of which the first one fails to start, the second one gives a point and takes seven
seconds, and the others take one second each. -/
def moodyLives : Nat → Life
  | 0 => ⟨none, 0⟩
  | 1 => ⟨some (bytesOf "cpu 1 5\n"), 7 * second⟩
  | _ => ⟨some [], second⟩

/-- A world with a program that lives them and is to be started every five seconds. -/
def moodyWorld : World :=
  World.start ⟨[.program ⟨"probe", 5 * second⟩]⟩ (Context.new "web01") Surroundings.none
    (fun _ => moodyLives) 1 0 (Consumer.start 0 none 0) 0 (40 * second)

/-- What comes about in it until the program is told to stop in its fourth life. -/
def moodyEvents : List Event :=
  [.act (.work 0), .act .advance, .act (.work 0), .act .advance, .act (.work 0), .act (.work 0),
    .act (.work 0), .act .receive, .act .advance, .act (.work 0), .act (.work 0), .act .advance,
    .act (.work 0), .act .advance, .act (.work 0), .order, .act (.work 0)]

/-- The third life begins when the second one is over, and the others five seconds after the one
before. -/
theorem supervision_of_moodyWorld :
    ∃ past world, moodyWorld.Undergoes past world ∧
      Supervision ⟨"probe", 5 * second⟩ moodyLives (Context.new "web01") 0 0 past world ∧
      Incident.lifetimesOf 0 past =
        [⟨0, some 1⟩, ⟨5 * second, some (12 * second)⟩, ⟨12 * second, some (13 * second)⟩,
          ⟨17 * second, some (17 * second)⟩] ∧
      world.shared.restartsOf "probe" = 3 := by
  have seen : (moodyWorld.record? moodyEvents).map (fun result =>
      (Incident.lifetimesOf 0 result.1, result.2.shared.restartsOf "probe")) =
      some ([⟨0, some 1⟩, ⟨5 * second, some (12 * second)⟩, ⟨12 * second, some (13 * second)⟩,
        ⟨17 * second, some (17 * second)⟩], 3) := by decide +kernel
  obtain ⟨⟨past, world⟩, recorded, same⟩ := Option.map_eq_some_iff.mp seen
  obtain ⟨lifetimes, restarts⟩ := Prod.mk.inj same
  have undergoes : moodyWorld.Undergoes past world := Undergoes.start.record recorded
  exact ⟨past, world, undergoes, supervision_of_undergoes (by decide) rfl undergoes, lifetimes,
    restarts⟩

/-- A world with a program in the folder whose name is the greatest number of 64 bits. -/
def farWorld : World :=
  World.start ⟨[.program ⟨"c/18446744073709551615/a.sh", 18446744073709551615 * second⟩]⟩
    (Context.new "web01") Surroundings.none (fun _ => moodyLives) 1 0 (Consumer.start 0 none 0) 0
    (40 * second)

/-- A job does not always leave off for one of two reasons only: that of a program with a period of
such a length does for none of them, before it has started the program. -/
theorem not_always_supervised :
    ¬∀ (past : List Incident) (world : World), farWorld.Undergoes past world →
      ∀ turn ∈ Incident.turnsOf 0 past, turn.next.phase = .stopped →
        turn.scene.moment.cancelled = true ∨
          turn.ends = true ∧ turn.scene.shared.dispatcher.isClosed = true := by
  intro always
  have seen : (farWorld.record? [.act (.work 0)]).map (fun result =>
      (Incident.turnsOf 0 result.1).map fun turn =>
        (decide (turn.next.phase = .stopped), turn.scene.moment.cancelled, turn.ends)) =
      some [(true, false, false)] := by decide +kernel
  obtain ⟨⟨past, world⟩, recorded, same⟩ := Option.map_eq_some_iff.mp seen
  obtain ⟨turn, turns, same⟩ := List.map_eq_singleton_iff.mp same
  obtain ⟨stopped, same⟩ := Prod.mk.inj same
  obtain ⟨untold, unended⟩ := Prod.mk.inj same
  have undergoes : farWorld.Undergoes past world := Undergoes.start.record recorded
  have member : turn ∈ Incident.turnsOf 0 past := by
    rw [turns]
    exact List.mem_cons_self
  rcases always past world undergoes turn member (of_decide_eq_true stopped) with told | ⟨ends, _⟩
  · cases untold.symm.trans told
  · cases unended.symm.trans ends

end World

end Telemetry
