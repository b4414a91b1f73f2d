/-
This file says what becomes of a collector after the consumer has gone.

The collector learns of it by a point that can be cleaned and finds nobody. As long as it has no
such point to offer it goes on as if nothing had happened: its ticks are taken, its source runs, and
the report on it begins. So every tick but the last one has had nothing to offer; and the first one
that has something, be it a point of the run or one of the report, is the last. Points that were
under way when the consumer went count as well, and may stop the collector before its next tick.
-/

import Telemetry.Proofs.LifeCycle

namespace Telemetry

namespace IntervalJob

/-- The others leave a job alone that the consumer has deserted: nobody comes in its place, an order
to stop is not taken back, and neither the settings nor the failures of the collector change. -/
structure Deserted (job : IntervalJob) (scene later : Scene) : Prop where
  gone : later.shared.dispatcher.receiver = .dropped
  told : scene.moment.cancelled = true → later.moment.cancelled = true
  settings : later.shared.context.settings = scene.shared.context.settings
  failures : later.shared.failuresOf job.state.name = scene.shared.failuresOf job.state.name

/-- How far a job is that the consumer has deserted, with the ticks since then. -/
inductive Lingers (context : Context) (start : IntervalState) (failures : Nat) (told : Bool) :
    List Beat → IntervalPhase → IntervalState → Nat → Prop where
  /-- It still offers what was under way when the consumer went. -/
  | leftover (ticker : Ticker) (rest : List Point) (outcome : Option Bool) :
      Lingers context start failures told [] (.emitting ticker rest outcome) start failures
  /-- It goes on with its ticks, or has stopped before the first of them. -/
  | working {beats : List Beat} {phase : IntervalPhase} {state : IntervalState} {count : Nat}
      (stands : Stands context start failures beats phase state count) :
      Lingers context start failures told beats phase state count
  /-- A point that can be cleaned has found nobody. -/
  | unheard {beats : List Beat} {state : IntervalState} {count : Nat} {ticker : Ticker}
      {point clean : Point} {rest : List Point} {outcome : Option Bool}
      (stands :
        Stands context start failures beats (.emitting ticker (point :: rest) outcome) state count)
      (cleaned : point.clean = .ok clean) :
      Lingers context start failures told beats .stopped state count
  /-- It was told to stop while it waited. -/
  | dismissed {beats : List Beat} {state : IntervalState} {count : Nat} {ticker : Ticker}
      (stands : Stands context start failures beats (.waiting ticker) state count)
      (ordered : told = true) : Lingers context start failures told beats .stopped state count

/-- A deserted job has come somewhere, and none of its points has come anywhere. -/
structure Outlasts (context : Context) (start : IntervalState) (failures : Nat)
    (beats : List Beat) (job : IntervalJob) (scene : Scene) : Prop where
  gone : scene.shared.dispatcher.receiver = .dropped
  settings : scene.shared.context.settings = context.settings
  name : job.state.name = start.name
  lost : ∀ beat ∈ beats, beat.points = []
  lingers : Lingers context start failures scene.moment.cancelled beats job.phase job.state
    (scene.shared.failuresOf start.name)

variable {context : Context} {start : IntervalState} {failures : Nat} {beats : List Beat}
  {job next : IntervalJob} {scene later : Scene} {after : Shared} {told : Bool}
  {phase : IntervalPhase} {state : IntervalState} {count : Nat}

/-! ### Single steps -/

/-- A point that can be cleaned finds out that nobody is there, and any other one does not. -/
theorem emit_of_gone {moment : Moment} {shared : Shared} {ticker : Ticker} {point : Point}
    {rest : List Point} {outcome : Option Bool} (gone : shared.dispatcher.receiver = .dropped)
    (emitting : job.phase = .emitting ticker (point :: rest) outcome)
    (step : job.step? moment shared = some (next, after)) :
    (∃ refusal, point.clean = .error refusal) ∧ next.phase = .emitting ticker rest outcome ∨
      (∃ clean, point.clean = .ok clean) ∧ next.phase = .stopped := by
  have emits := shared.dispatcher.emits_emit shared.context.health job.state.name point
  rw [step?, emitting] at step
  dsimp only at step
  unfold emit at step
  generalize shared.dispatcher.emit shared.context.health job.state.name point = emission
    at emits step
  cases emits with
  | rejected refused =>
    obtain ⟨rfl, _⟩ := Prod.mk.inj (Option.some.inj step)
    exact .inl ⟨⟨_, refused⟩, rfl⟩
  | closed cleaned =>
    obtain ⟨rfl, _⟩ := Prod.mk.inj (Option.some.inj step)
    exact .inr ⟨⟨_, cleaned⟩, rfl⟩
  | queued _ here => exact absurd gone here
  | full _ here => exact absurd gone here

theorem Lingers.told_mono (lingers : Lingers context start failures told beats phase state count)
    {now : Bool} (kept : told = true → now = true) :
    Lingers context start failures now beats phase state count := by
  cases lingers with
  | leftover ticker rest outcome => exact .leftover ticker rest outcome
  | working stands => exact .working stands
  | unheard stands cleaned => exact .unheard stands cleaned
  | dismissed stands ordered => exact .dismissed stands (kept ordered)

theorem Outlasts.others (outlasts : Outlasts context start failures beats job scene)
    (deserted : job.Deserted scene later) : Outlasts context start failures beats job later where
  gone := deserted.gone
  settings := deserted.settings.trans outlasts.settings
  name := outlasts.name
  lost := outlasts.lost
  lingers := by
    have same := deserted.failures
    rw [outlasts.name] at same
    rw [same]
    exact outlasts.lingers.told_mono deserted.told

theorem lost_amend {change : Beat → Beat} (kept : ∀ beat, (change beat).points = beat.points)
    (lost : ∀ beat ∈ beats, beat.points = []) :
    ∀ beat ∈ Beat.amend change beats, beat.points = [] := by
  intro beat member
  rw [Beat.amend, List.mem_append, Option.mem_toList, Option.map_eq_some_iff] at member
  rcases member with before | ⟨last, found, rfl⟩
  · exact lost beat (List.dropLast_subset beats before)
  · rw [kept]
    exact lost last (List.mem_of_getLast? found)

theorem Outlasts.step (outlasts : Outlasts context start failures beats job scene)
    (step : job.step? scene.moment scene.shared = some (next, after)) :
    Outlasts context start failures (job.note scene next after beats) next
      { scene with shared := after } := by
  have receiver := (job.step?_receiver step).trans outlasts.gone
  have lingers := outlasts.lingers
  have move := move_of_step beats step
  generalize job.note scene next after beats = seen at move
  cases move with
  | told waiting cancelled =>
    rw [waiting] at lingers
    refine ⟨receiver, outlasts.settings, outlasts.name, outlasts.lost, ?_⟩
    cases lingers with
    | working stands => exact .dismissed stands cancelled
  | tick waiting due =>
    rw [waiting] at lingers
    cases lingers with
    | working stands =>
      exact
        { gone := receiver
          settings := (job.state.settings_tick _ _ _).trans outlasts.settings
          name := (job.state.name_tick _ _ _).trans outlasts.name
          lost := fun beat member => by
            rcases List.mem_append.mp member with earlier | last
            · exact outlasts.lost beat earlier
            · rw [List.mem_singleton.mp last]
              rfl
          lingers := .working (stands_tick outlasts.settings outlasts.name stands) }
  | rejected emitting refused =>
    rw [emitting] at lingers
    refine ⟨receiver, outlasts.settings, outlasts.name, outlasts.lost, ?_⟩
    cases lingers with
    | leftover => exact .leftover _ _ _
    | working stands => exact .working (stands.rejected refused)
  | queued emitting cleaned kept =>
    rcases emit_of_gone outlasts.gone emitting step with ⟨⟨_, refused⟩, _⟩ | ⟨_, stopped⟩
    · rw [cleaned] at refused
      cases refused
    · cases stopped
  | closed emitting gone =>
    obtain ⟨clean, cleaned⟩ : ∃ clean, _ :=
      ((emit_of_gone gone emitting step).resolve_left fun both => by cases both.2).1
    rw [emitting] at lingers
    refine ⟨receiver, outlasts.settings, outlasts.name, outlasts.lost, ?_⟩
    cases lingers with
    | leftover => exact .working .stopped
    | working stands => exact .unheard stands cleaned
  | @report _ _ made _ emitting reports done =>
    rw [emitting] at lingers
    obtain ⟨settings, counted⟩ := keeps_of_addAll done
    refine ⟨receiver, settings.trans outlasts.settings, outlasts.name,
      lost_amend (fun _ => rfl) outlasts.lost, ?_⟩
    cases lingers with
    | leftover =>
      show Lingers context _ _ _ [] _ _ (made.health.failures.count job.state.name)
      rw [counted]
      exact .leftover _ _ _
    | working stands => exact .working (stands_report outlasts.settings stands reports done)
  | quiet emitting silent =>
    rw [emitting] at lingers
    rw [Context.collectorStats_of_settings outlasts.settings] at silent
    refine ⟨receiver, outlasts.settings, outlasts.name, outlasts.lost, ?_⟩
    cases lingers with
    | leftover => exact .working (.waiting _ .none)
    | working stands => exact .working (stands.quiet silent)
  | done emitting =>
    rw [emitting] at lingers
    refine ⟨receiver, outlasts.settings, outlasts.name, outlasts.lost, ?_⟩
    cases lingers with
    | leftover => exact .working (.waiting _ .none)
    | working stands => exact .working stands.done

/-- A job that the consumer has deserted begins so, whatever it is doing. -/
theorem outlasts_start (gone : scene.shared.dispatcher.receiver = .dropped) :
    Outlasts scene.shared.context job.state (scene.shared.failuresOf job.state.name) [] job
      scene where
  gone := gone
  settings := rfl
  name := rfl
  lost _ member := absurd member List.not_mem_nil
  lingers := by
    cases phase : job.phase with
    | waiting ticker => exact .working (.waiting ticker .none)
    | emitting ticker rest outcome => exact .leftover ticker rest outcome
    | stopped => exact .working .stopped

theorem Course.outlasts {origin : Scene} (course : Course Deserted job origin beats next scene)
    (begins : Outlasts context start failures [] job origin) :
    Outlasts context start failures beats next scene := by
  induction course with
  | start => exact begins
  | others _ deserted inductionHypothesis => exact inductionHypothesis.others deserted
  | step _ step inductionHypothesis => exact inductionHypothesis.step step

/-! ### Single ticks -/

/-- Every tick but the last one is over, and the last one is as soon as the job waits again. -/
theorem Lingers.at (lingers : Lingers context start failures told beats phase state count)
    {number : Nat} {beat : Beat} (found : beats[number]? = some beat) :
    ∃ before counted, Complete context start failures (beats.take number) before counted ∧
      beat.Shows (before.beat context counted beat.moment beat.reported) ∧
      ((number + 1 < beats.length ∨ ∃ ticker, phase = .waiting ticker) →
        beat.Over context before counted) := by
  have stopped {former : IntervalPhase}
      (stands : Stands context start failures beats former state count) :
      ∃ before counted, Complete context start failures (beats.take number) before counted ∧
        beat.Shows (before.beat context counted beat.moment beat.reported) ∧
        ((number + 1 < beats.length ∨ ∃ ticker, IntervalPhase.stopped = .waiting ticker) →
          beat.Over context before counted) := by
    obtain ⟨before, counted, complete, shows, ended⟩ := stands.at found
    refine ⟨before, counted, complete, shows, fun finished => ended (.inl ?_)⟩
    exact finished.resolve_right fun ⟨_, same⟩ => by cases same
  cases lingers with
  | leftover => simp at found
  | working stands => exact stands.at found
  | unheard stands _ => exact stopped stands
  | dismissed stands _ => exact stopped stands

/-- A point that is still to come in belongs to the last tick, which so has something to offer. -/
theorem exists_offer_of_stands {ticker : Ticker} {point clean : Point} {rest : List Point}
    {outcome : Option Bool}
    (stands :
      Stands context start failures beats (.emitting ticker (point :: rest) outcome) state count)
    (cleaned : point.clean = .ok clean) :
    ∃ earlier last before counted, beats = earlier ++ [last] ∧
      Complete context start failures earlier before counted ∧
      (before.beat context counted last.moment last.reported).points ≠ [] := by
  have more (points : List Point) : points ++ sent (point :: rest) ≠ [] := by
    rw [sent_cons_of_ok cleaned]
    exact List.append_ne_nil_of_right_ne_nil _ (List.cons_ne_nil _ _)
  cases stands with
  | @running earlier before counted _ moment _ points _ complete _ remaining =>
    refine ⟨earlier, _, before, counted, rfl, complete, ?_⟩
    show (before.beat context counted moment none).points ≠ []
    rw [before.points_beat_none, ← remaining]
    exact more points
  | @reporting earlier before counted _ moment later _ points _ complete _ _ remaining =>
    refine ⟨earlier, _, before, counted, rfl, complete, ?_⟩
    show (before.beat context counted moment (some later)).points ≠ []
    rw [← remaining]
    exact more points

/-- A deserted job that has stopped was told to, or was offering what had been under way, or its
last tick had something to offer. -/
theorem Lingers.exists_offer
    (lingers : Lingers context start failures told beats .stopped state count) :
    told = true ∨ beats = [] ∨ ∃ earlier last before counted, beats = earlier ++ [last] ∧
      Complete context start failures earlier before counted ∧
      (before.beat context counted last.moment last.reported).points ≠ [] := by
  cases lingers with
  | working stands =>
    cases stands with
    | stopped => exact .inr (.inl rfl)
  | unheard stands cleaned => exact .inr (.inr (exists_offer_of_stands stands cleaned))
  | dismissed _ ordered => exact .inl ordered

end IntervalJob

/-! ### Worlds -/

/-- The consumer does not come back. -/
theorem World.gone_of_perform {world after : World} {action : Action}
    (performed : world.perform? action = some after)
    (gone : world.dispatcher.receiver = .dropped) : after.dispatcher.receiver = .dropped := by
  cases deed_of_perform performed with
  | work found step => exact (Job.step?_receiver step).trans gone
  | leave =>
    show world.dispatcher.dropReceiver.receiver = .dropped
    unfold Dispatcher.dropReceiver
    split
    · rfl
    · exact gone
  | _ => exact gone

/-- In a world without a consumer whose collectors have different names, a job takes a course among
others that leave it alone. -/
theorem World.Leads.course_deserted {start world : World} {past : List Happening}
    (leads : start.Leads past world) (gone : start.dispatcher.receiver = .dropped)
    (distinct : (start.jobs.map Job.name).Nodup) {place : Nat} {job : IntervalJob}
    (found : start.jobs[place]? = some (.interval job)) :
    ∃ next, world.jobs[place]? = some (.interval next) ∧
      IntervalJob.Course IntervalJob.Deserted job start.scene (Happening.beatsOf place past) next
        world.scene := by
  have always := (leads.keeps
    (fun world => world.dispatcher.receiver = .dropped ∧ (world.jobs.map Job.name).Nodup)
    (fun _ _ _ holds performed =>
      ⟨gone_of_perform performed holds.1, names_of_perform performed ▸ holds.2⟩)
    ⟨gone, distinct⟩).2
  refine leads.course IntervalJob.Deserted found fun happening member other job here => ?_
  obtain ⟨⟨stillGone, names⟩, performed⟩ := always happening member
  obtain ⟨settings, failures⟩ := leaves_of_perform performed names here other
  exact ⟨gone_of_perform performed stillGone,
    fun told => (moment_of_perform performed).1.trans told, settings, failures⟩

end Telemetry
