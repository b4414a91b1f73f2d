/-
This file says what the ticks of a collector are, one after the other.

As long as the others change neither the settings nor the failures of the collector, what is seen of
a tick that is over depends on the settings, on the moment of the tick and on that of the report
alone, and on the state that the ticks before have left. Of a tick that is not over yet all is seen
but the points that still have to come into the queue.
-/

import Telemetry.Proofs.Happenings
import Telemetry.Proofs.Rhythm

namespace Telemetry

/-- What comes into the queue of some points. -/
def sent (points : List Point) : List Point := points.filterMap fun point => point.clean.toOption

@[simp] theorem sent_nil : sent [] = [] := rfl

theorem sent_append (left right : List Point) : sent (left ++ right) = sent left ++ sent right :=
  List.filterMap_append

theorem sent_cons_of_error {point : Point} {refusal : Refusal}
    (refused : point.clean = .error refusal) (rest : List Point) :
    sent (point :: rest) = sent rest := by
  rw [sent, List.filterMap_cons_none (by rw [refused]; rfl)]
  rfl

theorem sent_cons_of_ok {point clean : Point} (cleaned : point.clean = .ok clean)
    (rest : List Point) : sent (point :: rest) = clean :: sent rest := by
  rw [sent, List.filterMap_cons_some (by rw [cleaned]; rfl)]
  rfl

namespace IntervalState

/-- The tick at a moment, with the settings of a context. -/
def tickAt (state : IntervalState) (context : Context) (moment : Moment) : Tick :=
  state.tick context moment.timestamp moment.surroundings

/-- The points of a collector about itself, with the settings of a context. -/
def selfPoints (state : IntervalState) (context : Context) (moment : Moment) (failed : Bool) :
    List Point :=
  (context.addAll [] moment.timestamp (state.selfReadings failed)).2

/-- The points of a report, if the tick was not left out and there is a report on it. -/
def reportPoints (state : IntervalState) (context : Context) :
    Option Bool → Option Moment → List Point
  | some failed, some moment => sent (state.selfPoints context moment failed)
  | _, _ => []

/-- What is seen of a tick that is over, when so many failures were counted before it and the report
began at a moment. -/
def beat (state : IntervalState) (context : Context) (failures : Nat) (moment : Moment)
    (reported : Option Moment) : Beat :=
  let tick := state.tickAt context moment
  { moment := moment
    calls := tick.calls
    failures := failures + if tick.failed = some true then 1 else 0
    reported := reported
    points := sent tick.batch ++ tick.state.reportPoints context tick.failed reported }

/-- A tick at which the collector is disabled gives no points. -/
theorem batch_of_idle {state : IntervalState} {context : Context} {moment : Moment}
    (idle : (state.tickAt context moment).failed = none) :
    (state.tickAt context moment).batch = [] := by
  unfold tickAt tick at idle ⊢
  split at idle
  · rfl
  · unfold collect unavailable at idle
    split at idle <;> cases idle

theorem points_beat_none (state : IntervalState) (context : Context) (failures : Nat)
    (moment : Moment) :
    (state.beat context failures moment none).points =
      sent (state.tickAt context moment).batch := by
  rw [beat]
  cases (state.tickAt context moment).failed <;> exact List.append_nil _

theorem points_beat_some {state : IntervalState} {context : Context} {moment : Moment}
    {failed : Bool} (enabled : (state.tickAt context moment).failed = some failed) (failures : Nat)
    (later : Moment) :
    (state.beat context failures moment (some later)).points =
      sent (state.tickAt context moment).batch ++
        sent ((state.tickAt context moment).state.selfPoints context later failed) := by
  rw [beat, enabled]
  rfl

theorem beat_of_idle {state : IntervalState} {context : Context} {moment : Moment}
    (idle : (state.tickAt context moment).failed = none) (failures : Nat) :
    { state.beat context failures moment none with points := [] } =
      state.beat context failures moment none := by
  rw [beat, batch_of_idle idle, idle]
  rfl

end IntervalState

/-- Ticks that are over, from a state and a number of failures on, and what they lead to. A report
follows every tick at which the collector was enabled, if collectors report on themselves. -/
inductive Complete (context : Context) (start : IntervalState) (failures : Nat) :
    List Beat → IntervalState → Nat → Prop where
  | none : Complete context start failures [] start failures
  | tick {beats : List Beat} {state : IntervalState} {count : Nat}
      (complete : Complete context start failures beats state count) (moment : Moment)
      (reported : Option Moment)
      (due : reported.isSome =
        ((state.tickAt context moment).failed.isSome && context.collectorStats)) :
      Complete context start failures (beats ++ [state.beat context count moment reported])
          (state.tickAt context moment).state
          (count + if (state.tickAt context moment).failed = some true then 1 else 0)

/-- How far a job is with its ticks. Only a job that never began has stopped. -/
inductive Stands (context : Context) (start : IntervalState) (failures : Nat) :
    List Beat → IntervalPhase → IntervalState → Nat → Prop where
  | stopped : Stands context start failures [] .stopped start failures
  | waiting {beats : List Beat} {state : IntervalState} {count : Nat} (ticker : Ticker)
      (complete : Complete context start failures beats state count) :
      Stands context start failures beats (.waiting ticker) state count
  | running {beats : List Beat} {state : IntervalState} {count : Nat} (ticker : Ticker)
      (moment : Moment) {rest points : List Point} {failed : Bool}
      (complete : Complete context start failures beats state count)
      (enabled : (state.tickAt context moment).failed = some failed)
      (remaining : points ++ sent rest = sent (state.tickAt context moment).batch) :
      Stands context start failures
        (beats ++ [{ state.beat context count moment none with points := points }])
        (.emitting ticker rest (some failed)) (state.tickAt context moment).state
        (count + if (state.tickAt context moment).failed = some true then 1 else 0)
  | reporting {beats : List Beat} {state : IntervalState} {count : Nat} (ticker : Ticker)
      (moment later : Moment) {rest points : List Point} {failed : Bool}
      (complete : Complete context start failures beats state count)
      (enabled : (state.tickAt context moment).failed = some failed)
      (reports : context.collectorStats = true)
      (remaining :
        points ++ sent rest = (state.beat context count moment (some later)).points) :
      Stands context start failures
        (beats ++ [{ state.beat context count moment (some later) with points := points }])
        (.emitting ticker rest none) (state.tickAt context moment).state
        (count + if (state.tickAt context moment).failed = some true then 1 else 0)

namespace Stands

variable {context : Context} {start state : IntervalState} {failures count : Nat}
  {beats : List Beat} {ticker : Ticker} {point : Point} {rest : List Point} {outcome : Option Bool}
  {failed : Bool}

theorem rejected
    (stands :
      Stands context start failures beats (.emitting ticker (point :: rest) outcome) state count)
    {refusal : Refusal} (refused : point.clean = .error refusal) :
    Stands context start failures beats (.emitting ticker rest outcome) state count := by
  cases stands with
  | running _ moment complete enabled remaining =>
    rw [sent_cons_of_error refused] at remaining
    exact .running ticker moment complete enabled remaining
  | reporting _ moment later complete enabled reports remaining =>
    rw [sent_cons_of_error refused] at remaining
    exact .reporting ticker moment later complete enabled reports remaining

theorem queued
    (stands :
      Stands context start failures beats (.emitting ticker (point :: rest) outcome) state count)
    {clean : Point} (cleaned : point.clean = .ok clean) :
    Stands context start failures
      (Beat.amend (fun beat => { beat with points := beat.points ++ [clean] }) beats)
      (.emitting ticker rest outcome) state count := by
  cases stands with
  | running _ moment complete enabled remaining =>
    rw [sent_cons_of_ok cleaned, List.append_cons] at remaining
    rw [Beat.amend_append_singleton]
    exact .running ticker moment complete enabled remaining
  | reporting _ moment later complete enabled reports remaining =>
    rw [sent_cons_of_ok cleaned, List.append_cons] at remaining
    rw [Beat.amend_append_singleton]
    exact .reporting ticker moment later complete enabled reports remaining

theorem quiet
    (stands : Stands context start failures beats (.emitting ticker [] (some failed)) state count)
    (silent : context.collectorStats = false) :
    Stands context start failures beats (.waiting ticker) state count := by
  cases stands with
  | @running beats state count _ moment _ points _ complete enabled remaining =>
    have full : points = (state.beat context count moment none).points := by
      rw [state.points_beat_none, ← remaining, sent_nil, List.append_nil]
    rw [full]
    exact .waiting ticker (complete.tick moment none (by rw [silent, Bool.and_false]; rfl))

theorem report
    (stands : Stands context start failures beats (.emitting ticker [] (some failed)) state count)
    (reports : context.collectorStats = true) (later : Moment) :
    Stands context start failures
      (Beat.amend (fun beat => { beat with reported := some later }) beats)
      (.emitting ticker (state.selfPoints context later failed) none) state count := by
  cases stands with
  | running _ moment complete enabled remaining =>
    rw [Beat.amend_append_singleton]
    refine .reporting ticker moment later complete enabled reports ?_
    rw [sent_nil, List.append_nil] at remaining
    rw [IntervalState.points_beat_some enabled, remaining]

theorem done
    (stands : Stands context start failures beats (.emitting ticker [] none) state count) :
    Stands context start failures beats (.waiting ticker) state count := by
  cases stands with
  | reporting _ moment later complete enabled reports remaining =>
    rw [sent_nil, List.append_nil] at remaining
    rw [remaining]
    exact .waiting ticker (complete.tick moment (some later) (by rw [enabled, reports]; rfl))

end Stands

namespace IntervalJob

/-- The others spare a job: they change neither the settings nor its failures, they tell nobody to
stop, and the consumer does not go. -/
structure Spared (job : IntervalJob) (scene later : Scene) : Prop where
  going : later.moment.cancelled = false
  opened : later.shared.dispatcher.receiver ≠ .dropped
  settings : later.shared.context.settings = scene.shared.context.settings
  failures : later.shared.failuresOf job.state.name = scene.shared.failuresOf job.state.name

/-- The job has come somewhere from a start with some settings. -/
structure Follows (context : Context) (start : IntervalState) (failures : Nat) (beats : List Beat)
    (job : IntervalJob) (scene : Scene) : Prop where
  going : scene.moment.cancelled = false
  opened : scene.shared.dispatcher.receiver ≠ .dropped
  settings : scene.shared.context.settings = context.settings
  name : job.state.name = start.name
  stands : Stands context start failures beats job.phase job.state
    (scene.shared.failuresOf start.name)

variable {context : Context} {start : IntervalState} {failures : Nat} {beats : List Beat}
  {job next : IntervalJob} {scene later : Scene} {after : Shared}

theorem Follows.others (follows : Follows context start failures beats job scene)
    (spared : job.Spared scene later) : Follows context start failures beats job later where
  going := spared.going
  opened := spared.opened
  settings := spared.settings.trans follows.settings
  name := follows.name
  stands := by
    have same := spared.failures
    rw [follows.name] at same
    rw [same]
    exact follows.stands

/-- What a tick leads to is what the settings make of it. -/
theorem tickAt_eq (job : IntervalJob)
    (settings : scene.shared.context.settings = context.settings) :
    let tick := job.state.tickAt scene.shared.context scene.moment
    let made := job.state.tickAt context scene.moment
    tick.state = made.state ∧ tick.batch = made.batch ∧ tick.failed = made.failed ∧
      tick.calls = made.calls := by
  have same : (job.state.tickAt scene.shared.context scene.moment).result =
      (job.state.tickAt context scene.moment).result :=
    job.state.tick_congr scene.moment.timestamp scene.moment.surroundings settings
  simpa only [Tick.result, Prod.mk.injEq] using same

theorem failures_tickAt (settings : scene.shared.context.settings = context.settings)
    (name : job.state.name = start.name) :
    (job.state.tickAt scene.shared.context scene.moment).context.health.failures.count start.name =
      scene.shared.failuresOf start.name +
        if (job.state.tickAt context scene.moment).failed = some true then 1 else 0 := by
  have counted := job.state.failures_tick scene.moment.timestamp scene.moment.surroundings
    scene.shared.context
  obtain ⟨_, _, failed, _⟩ := job.tickAt_eq settings
  rw [IntervalState.tickAt, counted, ← IntervalState.tickAt, Tick.countIn, failed, name]
  split
  · rw [Table.count_increase, if_pos rfl]
    rfl
  · rfl

/-- What is seen of a tick that has just been taken. -/
theorem beatOf_eq (settings : scene.shared.context.settings = context.settings)
    (name : job.state.name = start.name) :
    job.beatOf scene =
      { job.state.beat context (scene.shared.failuresOf start.name) scene.moment none with
        points := [] } := by
  obtain ⟨_, _, _, calls⟩ := job.tickAt_eq settings
  have counted := failures_tickAt settings name
  rw [← name] at counted ⊢
  show Beat.mk scene.moment (job.state.tickAt scene.shared.context scene.moment).calls
    ((job.state.tickAt scene.shared.context scene.moment).context.health.failures.count
      job.state.name) none [] = _
  rw [calls, counted]
  rfl

/-- A tick is taken, and its points begin to come into the queue. -/
theorem stands_tick (settings : scene.shared.context.settings = context.settings)
    (name : job.state.name = start.name) {ticker : Ticker}
    (stands : Stands context start failures beats (.waiting ticker) job.state
      (scene.shared.failuresOf start.name)) :
    Stands context start failures (beats ++ [job.beatOf scene])
      (job.tick ticker scene.moment scene.shared).1.phase
      (job.tick ticker scene.moment scene.shared).1.state
      ((job.tick ticker scene.moment scene.shared).2.failuresOf start.name) := by
  obtain ⟨state, batch, failed, _⟩ := job.tickAt_eq settings
  rw [beatOf_eq settings name]
  have made : job.state.tick scene.shared.context scene.moment.timestamp
      scene.moment.surroundings = job.state.tickAt scene.shared.context scene.moment := rfl
  simp only [IntervalJob.tick, Shared.failuresOf, made]
  rw [failures_tickAt settings name, failed, batch, state]
  cases stands with
  | waiting _ complete =>
    cases enabled : (job.state.tickAt context scene.moment).failed with
    | none =>
      have ended := complete.tick scene.moment none (by rw [enabled]; rfl)
      rw [enabled] at ended
      rw [IntervalState.beat_of_idle enabled _]
      exact .waiting _ ended
    | some failed =>
      have running := Stands.running (ticker.taken scene.moment.now) scene.moment complete enabled
        (List.nil_append (sent (job.state.tickAt context scene.moment).batch))
      rwa [enabled] at running

/-- Adding readings leaves the settings and the failures as they are. -/
theorem keeps_of_addAll {made : Context} {batch points : List Point} {timestamp : Int64}
    {readings : List Reading}
    (done : context.addAll batch timestamp readings = (made, points)) :
    made.settings = context.settings ∧ made.health.failures = context.health.failures := by
  have steady := Context.steady_addAll batch timestamp readings
  have settings := steady.settings context
  have failures := steady.failures context
  rw [done] at settings failures
  exact ⟨settings, failures⟩

/-- The report on a tick begins, and its points come into the queue after those of the run. -/
theorem stands_report (settings : scene.shared.context.settings = context.settings)
    {ticker : Ticker} {failed : Bool}
    (stands : Stands context start failures beats (.emitting ticker [] (some failed)) job.state
      (scene.shared.failuresOf start.name))
    (reports : scene.shared.context.collectorStats = true) {made : Context} {batch : List Point}
    (done : scene.shared.context.addAll [] scene.moment.timestamp
      (job.state.selfReadings failed) = (made, batch)) :
    Stands context start failures
      (Beat.amend (fun beat => { beat with reported := some scene.moment }) beats)
      (.emitting ticker batch none) job.state
      (Shared.failuresOf { scene.shared with context := made } start.name) := by
  have steady :=
    Context.steady_addAll [] scene.moment.timestamp (job.state.selfReadings failed)
  have points : batch = job.state.selfPoints context scene.moment failed := by
    rw [IntervalState.selfPoints, ← steady.result _ _ settings, done]
  rw [Context.collectorStats_of_settings settings] at reports
  rw [Shared.failuresOf, (keeps_of_addAll done).2, points]
  exact stands.report reports scene.moment

theorem Follows.step (follows : Follows context start failures beats job scene)
    (step : job.step? scene.moment scene.shared = some (next, after)) :
    Follows context start failures (job.note scene next after beats) next
      { scene with shared := after } := by
  have receiver := job.step?_receiver step
  have stands := follows.stands
  have move := move_of_step beats step
  generalize job.note scene next after beats = seen at move
  cases move with
  | told waiting cancelled =>
    rw [follows.going] at cancelled
    cases cancelled
  | closed emitting gone => exact absurd gone follows.opened
  | tick waiting due =>
    rw [waiting] at stands
    exact
      { going := follows.going
        opened := follows.opened
        settings := (job.state.settings_tick _ _ _).trans follows.settings
        name := (job.state.name_tick _ _ _).trans follows.name
        stands := stands_tick follows.settings follows.name stands }
  | rejected emitting refused =>
    rw [emitting] at stands
    exact ⟨follows.going, follows.opened, follows.settings, follows.name, stands.rejected refused⟩
  | queued emitting cleaned kept =>
    rw [emitting] at stands
    refine ⟨follows.going, follows.opened, follows.settings, follows.name, ?_⟩
    rw [Shared.failuresOf, kept]
    exact stands.queued cleaned
  | report emitting reports done =>
    rw [emitting] at stands
    exact ⟨follows.going, follows.opened, (keeps_of_addAll done).1.trans follows.settings,
      follows.name, stands_report follows.settings stands reports done⟩
  | quiet emitting silent =>
    rw [emitting] at stands
    rw [Context.collectorStats_of_settings follows.settings] at silent
    exact ⟨follows.going, follows.opened, follows.settings, follows.name, stands.quiet silent⟩
  | done emitting =>
    rw [emitting] at stands
    exact ⟨follows.going, follows.opened, follows.settings, follows.name, stands.done⟩

/-- A job that was just started follows. -/
theorem follows_start (collector : IntervalCollector) {origin : Scene}
    (going : origin.moment.cancelled = false)
    (opened : origin.shared.dispatcher.receiver ≠ .dropped) :
    Follows origin.shared.context collector.start (origin.shared.failuresOf collector.name) []
      (IntervalJob.start collector origin.shared.context origin.moment.now) origin := by
  refine ⟨going, opened, rfl, rfl, ?_⟩
  unfold IntervalJob.start
  dsimp only
  cases Ticker.start? collector.interval origin.shared.context.frequency origin.moment.now with
  | none => exact .stopped
  | some ticker => exact .waiting ticker .none

/-- Among others that spare it a job follows. -/
theorem Course.follows {first : IntervalJob} {origin : Scene}
    (course : Course Spared first origin beats job scene)
    (begins : Follows context start failures [] first origin) :
    Follows context start failures beats job scene := by
  induction course with
  | start => exact begins
  | others _ spared inductionHypothesis => exact inductionHypothesis.others spared
  | step _ step inductionHypothesis => exact inductionHypothesis.step step

end IntervalJob

/-- In a world whose collectors have different names, the rest of the world leaves the settings and
the failures of a job as they are. -/
theorem World.leaves_of_perform {world after : World} {action : Action}
    (performed : world.perform? action = some after)
    (distinct : (world.jobs.map Job.name).Nodup) {place : Nat} {job : IntervalJob}
    (found : world.jobs[place]? = some (.interval job)) (other : action ≠ .work place) :
    after.shared.context.settings = world.shared.context.settings ∧
      after.shared.failuresOf job.state.name = world.shared.failuresOf job.state.name := by
  cases deed_of_perform performed with
  | @work index worker next shared occupied step =>
    have spares := (Job.spares_of_step step).2
    have different := name_ne_of_place_ne distinct found occupied fun same =>
      other (congrArg Action.work same)
    exact ⟨spares.settings, spares.failures _ different⟩
  | _ => exact ⟨rfl, rfl⟩

/-- So it spares the job as long as the consumer does not go. -/
theorem World.spared_of_perform {world after : World} {action : Action}
    (performed : world.perform? action = some after) (going : world.cancelled = false)
    (distinct : (world.jobs.map Job.name).Nodup) {place : Nat} {job : IntervalJob}
    (found : world.jobs[place]? = some (.interval job)) (other : action ≠ .work place)
    (opened : after.dispatcher.receiver ≠ .dropped) : job.Spared world.scene after.scene := by
  have told : after.cancelled = false := (moment_of_perform performed).1.trans going
  obtain ⟨settings, failures⟩ := leaves_of_perform performed distinct found other
  exact ⟨told, opened, settings, failures⟩

/-- Nobody is told to stop, and the names of the collectors stay different. -/
theorem World.Leads.distinct {start world : World} {past : List Happening}
    (leads : start.Leads past world) (going : start.cancelled = false)
    (distinct : (start.jobs.map Job.name).Nodup) :
    ∀ happening ∈ past, (happening.before.cancelled = false ∧
        (happening.before.jobs.map Job.name).Nodup) ∧
      happening.before.perform? happening.action = some happening.after :=
  (leads.keeps (fun world => world.cancelled = false ∧ (world.jobs.map Job.name).Nodup)
    (fun _ _ _ holds performed =>
      ⟨(moment_of_perform performed).1.trans holds.1, names_of_perform performed ▸ holds.2⟩)
    ⟨going, distinct⟩).2

/-- So a job takes a course among others that spare it. -/
theorem World.Leads.course_spared {start world : World} {past : List Happening}
    (leads : start.Leads past world) (going : start.cancelled = false)
    (distinct : (start.jobs.map Job.name).Nodup)
    (opened : ∀ happening ∈ past, happening.after.dispatcher.receiver ≠ .dropped) {place : Nat}
    {job : IntervalJob} (found : start.jobs[place]? = some (.interval job)) :
    ∃ next, world.jobs[place]? = some (.interval next) ∧
      IntervalJob.Course IntervalJob.Spared job start.scene (Happening.beatsOf place past) next
        world.scene := by
  refine leads.course IntervalJob.Spared found fun happening member other job here => ?_
  obtain ⟨⟨told, names⟩, performed⟩ := leads.distinct going distinct happening member
  exact spared_of_perform performed told names here other (opened happening member)

/-! ### Single ticks -/

/-- The moments of ticks. -/
def Beat.moments (beats : List Beat) : List Moment := beats.map (·.moment)

theorem Beat.length_moments_take {beats : List Beat} {number : Nat} {beat : Beat}
    (found : beats[number]? = some beat) : (Beat.moments (beats.take number)).length = number := by
  have inside := (List.getElem?_eq_some_iff.mp found).1
  rw [Beat.moments, List.length_map, List.length_take]
  omega

/-- What is seen of a tick, when it may not be over yet. -/
structure Beat.Shows (beat full : Beat) : Prop where
  calls : beat.calls = full.calls
  failures : beat.failures = full.failures
  points : beat.points <+: full.points

theorem Beat.shows_of_eq {beat full : Beat} (same : beat = full) : beat.Shows full := by
  rw [same]
  exact ⟨rfl, rfl, List.prefix_rfl⟩

/-- A tick with a report exactly where there has to be one. -/
structure Beat.Over (beat : Beat) (context : Context) (state : IntervalState) (count : Nat) :
    Prop where
  same : beat = state.beat context count beat.moment beat.reported
  report : beat.reported.isSome =
    ((state.tickAt context beat.moment).failed.isSome && context.collectorStats)

variable {context : Context} {start state : IntervalState} {failures count : Nat}
  {beats : List Beat} {phase : IntervalPhase}

/-- Every tick that is over is what the state makes of it that the ticks before have left. -/
theorem Complete.at (complete : Complete context start failures beats state count) {number : Nat}
    {beat : Beat} (found : beats[number]? = some beat) :
    ∃ before counted, Complete context start failures (beats.take number) before counted ∧
      beat.Over context before counted := by
  induction complete with
  | none => simp at found
  | @tick beats before counted complete moment reported due inductionHypothesis =>
    rcases mem_at_append_singleton found with earlier | ⟨rfl, rfl⟩
    · have inside := (List.getElem?_eq_some_iff.mp earlier).1
      rw [List.take_append_of_le_length (Nat.le_of_lt inside)]
      exact inductionHypothesis earlier
    · rw [List.take_left]
      exact ⟨before, counted, complete, rfl, due⟩

/-- The same of the ticks before one that may not be over, and of that one as far as it has come. -/
theorem Complete.at_or_last (complete : Complete context start failures beats state count)
    {last : Beat} (shows : last.Shows (state.beat context count last.moment last.reported))
    {number : Nat} {beat : Beat} (found : (beats ++ [last])[number]? = some beat) :
    ∃ before counted,
      Complete context start failures ((beats ++ [last]).take number) before counted ∧
        beat.Shows (before.beat context counted beat.moment beat.reported) ∧
        (number + 1 < (beats ++ [last]).length → beat.Over context before counted) := by
  rcases mem_at_append_singleton found with earlier | ⟨rfl, rfl⟩
  · have inside := (List.getElem?_eq_some_iff.mp earlier).1
    rw [List.take_append_of_le_length (Nat.le_of_lt inside)]
    obtain ⟨before, counted, shorter, ended⟩ := complete.at earlier
    exact ⟨before, counted, shorter, Beat.shows_of_eq ended.same, fun _ => ended⟩
  · rw [List.take_left]
    refine ⟨state, count, complete, shows, fun more => ?_⟩
    rw [List.length_append, List.length_singleton] at more
    exact absurd more (Nat.lt_irrefl _)

/-- The same of the ticks of a job. None of them but the last one can be unfinished, and that one
only as long as the job does not wait. -/
theorem Stands.at (stands : Stands context start failures beats phase state count) {number : Nat}
    {beat : Beat} (found : beats[number]? = some beat) :
    ∃ before counted, Complete context start failures (beats.take number) before counted ∧
      beat.Shows (before.beat context counted beat.moment beat.reported) ∧
      ((number + 1 < beats.length ∨ ∃ ticker, phase = .waiting ticker) →
        beat.Over context before counted) := by
  cases stands with
  | stopped => simp at found
  | waiting ticker complete =>
    obtain ⟨before, counted, shorter, ended⟩ := complete.at found
    exact ⟨before, counted, shorter, Beat.shows_of_eq ended.same, fun _ => ended⟩
  | @running _ earlier total _ moment _ points _ complete enabled remaining =>
    rw [← earlier.points_beat_none context total] at remaining
    obtain ⟨before, counted, shorter, shows, ended⟩ :=
      complete.at_or_last ⟨rfl, rfl, ⟨_, remaining⟩⟩ found
    exact ⟨before, counted, shorter, shows, fun finished =>
      ended (finished.resolve_right fun ⟨_, same⟩ => by cases same)⟩
  | reporting _ moment later complete enabled reports remaining =>
    obtain ⟨before, counted, shorter, shows, ended⟩ :=
      complete.at_or_last ⟨rfl, rfl, ⟨_, remaining⟩⟩ found
    exact ⟨before, counted, shorter, shows, fun finished =>
      ended (finished.resolve_right fun ⟨_, same⟩ => by cases same)⟩

/-- The state of a job and its failures are those that the ticks would leave if all were over. -/
theorem Stands.completed (stands : Stands context start failures beats phase state count) :
    ∃ whole, Beat.moments whole = Beat.moments beats ∧
      whole.map (·.calls) = beats.map (·.calls) ∧
      Complete context start failures whole state count := by
  cases stands with
  | stopped => exact ⟨[], rfl, rfl, .none⟩
  | waiting _ complete => exact ⟨beats, rfl, rfl, complete⟩
  | running _ moment complete enabled _ =>
    refine ⟨_, ?_, ?_, complete.tick moment
      (if context.collectorStats then some moment else none) ?_⟩
    · simp [Beat.moments, IntervalState.beat]
    · simp [IntervalState.beat]
    · rw [enabled]
      cases context.collectorStats <;> rfl
  | reporting _ moment later complete enabled reports _ =>
    refine ⟨_, ?_, ?_, complete.tick moment (some later) (by rw [enabled, reports]; rfl)⟩
    · simp [Beat.moments]
    · simp

end Telemetry
