/-
This file says that collectors do not disturb each other.

Collectors share the clock, the settings, what is known of metrics, the counters and the queue. As
long as the queue never becomes full and the consumer stays, the others leave to a collector all
that its ticks depend on, and never keep it from one. So two worlds in which it runs show the same
of it, whatever else runs in them and in whichever order things happen.
-/

import Telemetry.Proofs.Cadence
import Telemetry.Proofs.Undisturbed

namespace Telemetry

/-- The failures that were counted after some ticks, from the number before them. -/
def Beat.failuresAfter (failures : Nat) (beats : List Beat) : Nat :=
  (beats.getLast?.map (·.failures)).getD failures

theorem Stands.failuresAfter {context : Context} {start state : IntervalState}
    {failures count : Nat} {beats : List Beat} {phase : IntervalPhase}
    (stands : Stands context start failures beats phase state count) :
    Beat.failuresAfter failures beats = count := by
  cases stands with
  | stopped => rfl
  | waiting _ complete =>
    cases complete with
    | none => rfl
    | tick => simp [Beat.failuresAfter, IntervalState.beat]
  | running => simp [Beat.failuresAfter, IntervalState.beat]
  | reporting => simp [Beat.failuresAfter, IntervalState.beat]

namespace IntervalJob

/-- The others spare a job, and they are prompt. -/
structure Considerate (job : IntervalJob) (scene later : Scene) : Prop where
  spared : job.Spared scene later
  prompt : job.Prompt scene later

/-- The job of a collector that was started at a moment has come somewhere, and nobody has disturbed
it. -/
structure Undisturbed (collector : IntervalCollector) (context : Context)
    (surroundings : Surroundings) (now : Nat) (beats : List Beat) (job : IntervalJob)
    (scene : Scene) : Prop where
  follows : Follows context collector.start (context.health.failures.count collector.name) beats
    job scene
  surroundings : scene.moment.surroundings = surroundings
  rhythm : ∀ first, (start collector context now).phase = .waiting first → now ≤ first.due →
    Punctual first beats job scene ∧ Sharp beats job scene
  silent : (start collector context now).phase = .stopped → beats = []

theorem Course.surroundings {first job : IntervalJob} {origin scene : Scene} {beats : List Beat}
    (course : Course Prompt first origin beats job scene) :
    scene.moment.surroundings = origin.moment.surroundings := by
  induction course with
  | start => rfl
  | others _ prompt inductionHypothesis => exact prompt.surroundings.trans inductionHypothesis
  | step _ _ inductionHypothesis => exact inductionHypothesis

/-- A job that never begins takes no tick. -/
theorem Course.silent {Others : IntervalJob → Scene → Scene → Prop} {first job : IntervalJob}
    {origin scene : Scene} {beats : List Beat} (course : Course Others first origin beats job scene)
    (stopped : first.phase = .stopped) : job.phase = .stopped ∧ beats = [] := by
  induction course with
  | start => exact ⟨stopped, rfl⟩
  | others _ _ inductionHypothesis => exact inductionHypothesis
  | step _ step inductionHypothesis =>
    rw [step?, inductionHypothesis.1] at step
    cases step

/-- Among considerate others nobody disturbs a job. -/
theorem Course.undisturbed {collector : IntervalCollector} {context : Context}
    {surroundings : Surroundings} {now : Nat} {dispatcher : Dispatcher} {beats : List Beat}
    {job : IntervalJob} {scene : Scene}
    (course : Course Considerate (IntervalJob.start collector context now)
      ⟨⟨now, false, surroundings⟩, ⟨context, dispatcher⟩⟩ beats job scene)
    (opened : dispatcher.receiver ≠ .dropped) :
    Undisturbed collector context surroundings now beats job scene := by
  have spared := course.mono fun _ _ _ others => Considerate.spared others
  have prompt := course.mono fun _ _ _ others => Considerate.prompt others
  have begins := @follows_start collector ⟨⟨now, false, surroundings⟩, ⟨context, dispatcher⟩⟩ rfl
    opened
  exact
    { follows := spared.follows begins
      surroundings := prompt.surroundings
      rhythm := fun first waiting early =>
        ⟨prompt.punctual waiting early rfl, prompt.sharp rfl waiting⟩
      silent := fun stopped => (course.silent stopped).2 }

namespace Undisturbed

variable {collector : IntervalCollector} {context : Context} {surroundings : Surroundings}
  {now : Nat} {beats others : List Beat} {job other : IntervalJob} {scene otherScene : Scene}

theorem failures_eq
    (undisturbed : Undisturbed collector context surroundings now beats job scene) :
    scene.shared.failuresOf collector.name =
      Beat.failuresAfter (context.health.failures.count collector.name) beats :=
  undisturbed.follows.stands.failuresAfter.symm

/-- The clock has come to every tick that was taken. -/
theorem passed (undisturbed : Undisturbed collector context surroundings now beats job scene) :
    ∀ beat ∈ beats, beat.moment.now ≤ scene.moment.now := by
  intro beat member
  by_cases positive : 0 < collector.period context
  · obtain ⟨first, starts, early, _⟩ := IntervalCollector.exists_first positive now
    obtain ⟨number, found⟩ := List.getElem?_of_mem member
    exact (undisturbed.rhythm first starts early).1.passed number _ (Beat.getElem?_times found)
  · rw [undisturbed.silent (IntervalCollector.start_stopped positive now)] at member
    cases member

/-- Two jobs of a collector that nobody disturbs show the same up to every moment that both are
past. -/
theorem upTo_eq_upTo
    (undisturbed : Undisturbed collector context surroundings now beats job scene)
    (undisturbedOther : Undisturbed collector context surroundings now others other otherScene)
    {moment : Nat} (past : job.phase ≠ .stopped → job.IsPast scene moment)
    (otherPast : other.phase ≠ .stopped → other.IsPast otherScene moment) :
    Beat.upTo moment beats = Beat.upTo moment others := by
  by_cases positive : 0 < collector.period context
  · obtain ⟨first, starts, early, _⟩ := IntervalCollector.exists_first positive now
    obtain ⟨punctual, sharp⟩ := undisturbed.rhythm first starts early
    obtain ⟨otherPunctual, otherSharp⟩ := undisturbedOther.rhythm first starts early
    exact upTo_congr undisturbed.follows undisturbedOther.follows punctual otherPunctual sharp
      otherSharp (undisturbed.surroundings.trans undisturbedOther.surroundings.symm)
      (past (punctual.goesOn undisturbed.follows.opened))
      (otherPast (otherPunctual.goesOn undisturbedOther.follows.opened))
  · have never := IntervalCollector.start_stopped positive now
    rw [undisturbed.silent never, undisturbedOther.silent never]

end Undisturbed

end IntervalJob

namespace World

/-- The collectors of a registry were started in a world that led to this one. The queue has never
become full in it, and the consumer has not gone. -/
structure Flows (registry : Registry) (context : Context) (surroundings : Surroundings)
    (now horizon : Nat) (past : List Happening) (world : World) : Prop where
  leads : ∃ lives capacity reportPeriod consumer,
    (start registry context surroundings lives capacity reportPeriod consumer now horizon).Leads
      past world
  room : ∀ happening ∈ past, happening.after.dispatcher.hasRoom = true
  opened : ∀ happening ∈ past, happening.after.dispatcher.receiver ≠ .dropped

/-- No point waits where there is room. -/
theorem not_holdsUp {world : World} (room : world.dispatcher.hasRoom = true) (place : Nat) :
    ¬world.HoldsUp place := by
  rintro ⟨_, _, _, _, _, _, _, full⟩
  exact absurd (of_decide_eq_true room) (Nat.not_lt.mpr full)

/-- A queue at the start has room, and its consumer is there. -/
theorem flows_new (capacity : Nat) :
    (Dispatcher.new capacity).takeReceiver.2.hasRoom = true ∧
      (Dispatcher.new capacity).takeReceiver.2.receiver ≠ .dropped := by
  constructor
  · exact decide_eq_true (Nat.lt_of_lt_of_le Nat.one_pos (Nat.le_max_right capacity 1))
  · show Receiver.taken ≠ .dropped
    decide

/-! ### Two worlds -/

namespace Flows

variable {registry : Registry} {context : Context} {surroundings : Surroundings}
  {now horizon place : Nat} {past : List Happening} {world : World} {collector : IntervalCollector}

theorem everywhere (flows : Flows registry context surroundings now horizon past world) :
    (world.dispatcher.hasRoom = true ∧ world.dispatcher.receiver ≠ .dropped) ∧
      ∀ happening ∈ past, happening.before.dispatcher.hasRoom = true := by
  obtain ⟨lives, capacity, reportPeriod, consumer, leads⟩ := flows.leads
  obtain ⟨here, before⟩ := leads.everywhere
    (fun world => world.dispatcher.hasRoom = true ∧ world.dispatcher.receiver ≠ .dropped)
    (flows_new capacity)
    fun happening member => ⟨flows.room happening member, flows.opened happening member⟩
  exact ⟨here, fun happening member => (before happening member).1⟩

/-- The clock does not go back, and does not reach its end. -/
theorem span (flows : Flows registry context surroundings now horizon past world) :
    world.horizon = horizon ∧ now ≤ world.now ∧ (world.now = now ∨ world.now < horizon) := by
  obtain ⟨lives, capacity, reportPeriod, consumer, leads⟩ := flows.leads
  refine (leads.keeps (fun world => world.horizon = horizon ∧ now ≤ world.now ∧
      (world.now = now ∨ world.now < horizon)) ?_ ⟨rfl, Nat.le_refl _, .inl rfl⟩).1
  rintro before action after ⟨ends, forward, early⟩ performed
  cases deed_of_perform performed with
  | advance _ next =>
    obtain ⟨later, inside⟩ := now_lt_of_next next
    exact ⟨ends, Nat.le_trans forward (Nat.le_of_lt later), .inr (ends ▸ inside)⟩
  | report => exact ⟨ends, forward, early⟩
  | work => exact ⟨ends, forward, early⟩
  | receive => exact ⟨ends, forward, early⟩
  | leave => exact ⟨ends, forward, early⟩

theorem now_le_last (flows : Flows registry context surroundings now horizon past world) :
    world.now ≤ max now (horizon - 1) := by
  obtain ⟨_, _, early⟩ := flows.span
  omega

/-- When nothing can happen any more, the last moment before the end is over. -/
theorem isOver_last (flows : Flows registry context surroundings now horizon past world)
    (rest : world.AtRest) : world.IsOver (max now (horizon - 1)) := by
  obtain ⟨ends, forward, _⟩ := flows.span
  exact .inr ⟨rest, by omega⟩

/-- Where collectors have different names, and the queue never becomes full and the consumer stays,
nobody disturbs a collector. -/
theorem undisturbed (flows : Flows registry context surroundings now horizon past world)
    (distinct : registry.names.Nodup)
    (found : registry.collectors[place]? = some (.interval collector)) :
    ∃ job, world.jobs[place]? = some (.interval job) ∧
      IntervalJob.Undisturbed collector context surroundings now (Happening.beatsOf place past) job
        world.scene := by
  obtain ⟨_, room⟩ := flows.everywhere
  obtain ⟨lives, capacity, reportPeriod, consumer, leads⟩ := flows.leads
  have names : ((start registry context surroundings lives capacity reportPeriod consumer now
      horizon).jobs.map Job.name).Nodup := names_jobOf registry context now lives ▸ distinct
  obtain ⟨job, here, course⟩ := leads.course IntervalJob.Considerate
    (getElem?_jobs_start found context surroundings lives capacity reportPeriod consumer now
      horizon) fun happening member other job there => by
        obtain ⟨⟨told, different⟩, performed⟩ := leads.distinct rfl names happening member
        exact
          ⟨spared_of_perform performed told different there other (flows.opened happening member),
            prompt_of_perform performed told there
              (fun _ => not_holdsUp (room happening member) place) other⟩
  exact ⟨job, here, course.undisturbed (flows_new capacity).2⟩

end Flows

/-- What is to be said of a collector in two worlds. -/
structure Isolation (collector : IntervalCollector) (context : Context) (place otherPlace : Nat)
    (past otherPast : List Happening) (world other : World) : Prop where
  /-- The same ticks are seen up to every moment that is over in both worlds: when they were taken,
  what the collector was asked to do, how many failures were counted, and which points came. -/
  ticks : ∀ moment, world.IsOver moment → other.IsOver moment →
    Beat.upTo moment (Happening.beatsOf place past) =
      Beat.upTo moment (Happening.beatsOf otherPlace otherPast)
  /-- The failures of the collector are those that were seen at its ticks. -/
  counted : world.shared.failuresOf collector.name =
    Beat.failuresAfter (context.health.failures.count collector.name)
      (Happening.beatsOf place past)
  otherCounted : other.shared.failuresOf collector.name =
    Beat.failuresAfter (context.health.failures.count collector.name)
      (Happening.beatsOf otherPlace otherPast)
  /-- When nothing can happen any more in worlds whose clocks end together, all that was seen is the
  same, and so are the failures. -/
  ends : world.horizon = other.horizon → world.AtRest → other.AtRest →
    Happening.beatsOf place past = Happening.beatsOf otherPlace otherPast ∧
      world.shared.failuresOf collector.name = other.shared.failuresOf collector.name

/-- A collector is isolated from whatever runs beside it. -/
theorem isolation_of_flows {registry otherRegistry : Registry} {context : Context}
    {surroundings : Surroundings} {now horizon otherHorizon place otherPlace : Nat}
    {past otherPast : List Happening} {world other : World} {collector : IntervalCollector}
    (distinct : registry.names.Nodup) (otherDistinct : otherRegistry.names.Nodup)
    (found : registry.collectors[place]? = some (.interval collector))
    (otherFound : otherRegistry.collectors[otherPlace]? = some (.interval collector))
    (flows : Flows registry context surroundings now horizon past world)
    (otherFlows : Flows otherRegistry context surroundings now otherHorizon otherPast other) :
    Isolation collector context place otherPlace past otherPast world other := by
  obtain ⟨job, here, undisturbed⟩ := flows.undisturbed distinct found
  obtain ⟨otherJob, otherHere, otherUndisturbed⟩ := otherFlows.undisturbed otherDistinct otherFound
  have ticks : ∀ moment, world.IsOver moment → other.IsOver moment →
      Beat.upTo moment (Happening.beatsOf place past) =
        Beat.upTo moment (Happening.beatsOf otherPlace otherPast) :=
    fun moment ended otherEnded => undisturbed.upTo_eq_upTo otherUndisturbed
      (fun goesOn => isPast_of_isOver here goesOn (not_holdsUp flows.everywhere.1.1 place) ended)
      (fun goesOn => isPast_of_isOver otherHere goesOn
        (not_holdsUp otherFlows.everywhere.1.1 otherPlace) otherEnded)
  refine ⟨ticks, undisturbed.failures_eq, otherUndisturbed.failures_eq,
    fun together rest otherRest => ?_⟩
  -- All ticks were taken by the last moment before the end, and that is over in both worlds.
  obtain rfl : horizon = otherHorizon :=
    flows.span.1.symm.trans (together.trans otherFlows.span.1)
  have same := ticks (max now (horizon - 1)) (flows.isOver_last rest)
    (otherFlows.isOver_last otherRest)
  rw [Beat.upTo_eq_self fun beat member =>
      Nat.le_trans (undisturbed.passed beat member) flows.now_le_last,
    Beat.upTo_eq_self fun beat member =>
      Nat.le_trans (otherUndisturbed.passed beat member) otherFlows.now_le_last] at same
  refine ⟨same, undisturbed.failures_eq.trans ?_⟩
  rw [same]
  exact otherUndisturbed.failures_eq.symm

/-- A collector whose preparation panics, and whose runs give two points and panic as well. -/
def noise : IntervalCollector :=
  let point : Point := ⟨"noise", 0, .integer 1, ∅⟩
  ⟨"noise", some (2 * second), none, some (.panicked .quiet),
    .script fun _ => ⟨[.raw point, .raw point], .panicked .quiet⟩⟩

/-- The heartbeat alone, with a report on the queue. -/
def quietWorld : World :=
  start ⟨[.interval heartbeat]⟩ (Context.new "web01") Surroundings.none (fun _ _ => ⟨none, 0⟩) 10
    (4 * second) (Consumer.start 0 none 0) 0 (5 * second)

/-- The heartbeat beside the noise. -/
def noisyWorld : World :=
  start ⟨[.interval noise, .interval heartbeat]⟩ (Context.new "web01") Surroundings.none
    (fun _ _ => ⟨none, 0⟩) 20 0 (Consumer.start 0 none 0) 0 (5 * second)

/-- What happens in the first world until its end, and in the second one. -/
def quietActions : List Action :=
  [.advance, .work 0, .work 0, .work 0, .work 0, .receive, .receive, .advance, .report]

def noisyActions : List Action :=
  [.advance, .work 0, .work 0, .advance, .work 1, .work 1, .receive, .work 1, .receive, .work 1,
    .advance, .work 0, .work 0, .work 0, .receive, .work 0, .receive]

/-- Whether all points found room in what happened, and nothing is left to be done. -/
def endsInRoom (result : List Happening × World) : Bool :=
  result.1.all (fun happening =>
      happening.after.dispatcher.hasRoom && !happening.after.dispatcher.isClosed) &&
    decide (result.2.now < result.2.horizon) && result.2.step?.isNone

theorem flows_of_endsInRoom {registry : Registry} {context : Context} {surroundings : Surroundings}
    {now horizon : Nat} {past : List Happening} {world : World}
    (leads : ∃ lives capacity reportPeriod consumer,
      (start registry context surroundings lives capacity reportPeriod consumer now horizon).Leads
        past world)
    (smooth : endsInRoom (past, world) = true) :
    Flows registry context surroundings now horizon past world ∧ world.AtRest := by
  simp only [endsInRoom, Dispatcher.isClosed, Bool.and_eq_true, List.all_eq_true,
    Bool.not_eq_true', decide_eq_true_eq, decide_eq_false_iff_not, Option.isNone_iff_eq_none]
    at smooth
  obtain ⟨⟨room, early⟩, still⟩ := smooth
  exact ⟨⟨leads, fun happening member => (room happening member).1,
    fun happening member => (room happening member).2⟩, atRest_of_step_none early still⟩

/-- The heartbeat does not notice the noise. -/
theorem isolation_of_noise :
    ∃ past otherPast world other,
      quietWorld.Leads past world ∧ noisyWorld.Leads otherPast other ∧
      Isolation heartbeat (Context.new "web01") 0 1 past otherPast world other ∧
      Beat.times (Happening.beatsOf 0 past) = [3 * second] ∧
      Happening.beatsOf 0 past = Happening.beatsOf 1 otherPast ∧
      other.shared.failuresOf "noise" = 2 := by
  have quiet : (quietWorld.follow? quietActions).map (fun result =>
      (endsInRoom result, Beat.times (Happening.beatsOf 0 result.1), result.2.horizon)) =
      some (true, [3 * second], 5 * second) := by decide +kernel
  have noisy : (noisyWorld.follow? noisyActions).map (fun result =>
      (endsInRoom result, result.2.shared.failuresOf "noise", result.2.horizon)) =
      some (true, 2, 5 * second) := by decide +kernel
  obtain ⟨⟨past, world⟩, followed, same⟩ := Option.map_eq_some_iff.mp quiet
  obtain ⟨⟨otherPast, other⟩, otherFollowed, otherSame⟩ := Option.map_eq_some_iff.mp noisy
  simp only [Prod.mk.injEq] at same otherSame
  obtain ⟨smooth, times, ends⟩ := same
  obtain ⟨otherSmooth, failures, otherEnds⟩ := otherSame
  have leads : quietWorld.Leads past world := Leads.start.follow followed
  have otherLeads : noisyWorld.Leads otherPast other := Leads.start.follow otherFollowed
  obtain ⟨flows, rest⟩ := flows_of_endsInRoom ⟨_, _, _, _, leads⟩ smooth
  obtain ⟨otherFlows, otherRest⟩ := flows_of_endsInRoom ⟨_, _, _, _, otherLeads⟩ otherSmooth
  have isolation : Isolation heartbeat (Context.new "web01") 0 1 past otherPast world other :=
    isolation_of_flows (by decide) (by decide) rfl rfl flows otherFlows
  exact ⟨past, otherPast, world, other, leads, otherLeads, isolation, times,
    (isolation.ends (ends.trans otherEnds.symm) rest otherRest).1, failures⟩

end World

end Telemetry
