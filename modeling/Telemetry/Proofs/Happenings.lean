/-
This file says what can happen in a world, and that every job takes a course among the others.

An action does to a world what one of five cases says. Only one of them touches a job, and only one
moves the clock. So what a world leads to is, for the job of a single collector, a course in which
the others do whatever the rest of the world did.
-/

import Telemetry.Proofs.Moves
import Telemetry.Proofs.ProgramMoves
import Telemetry.Proofs.Steady

namespace Telemetry

/-! ### What a step leaves to the others -/

/-- Nothing is changed that the collectors with other names depend on. -/
structure Shared.Spares (collector : String) (shared after : Shared) : Prop where
  settings : after.context.settings = shared.context.settings
  failures : ∀ name, name ≠ collector → after.failuresOf name = shared.failuresOf name

/-- Where no failed run is counted, all are spared. -/
theorem Shared.spares_of_failures {collector : String} {shared after : Shared}
    (settings : after.context.settings = shared.context.settings)
    (failures : after.context.health.failures = shared.context.health.failures) :
    shared.Spares collector after :=
  ⟨settings, fun name _ => congrArg (Table.count · name) failures⟩

theorem IntervalJob.spares_of_step {job next : IntervalJob} {moment : Moment}
    {shared after : Shared} (step : job.step? moment shared = some (next, after)) :
    next.state.name = job.state.name ∧ shared.Spares job.state.name after := by
  have same : shared.Spares job.state.name shared := Shared.spares_of_failures rfl rfl
  obtain ⟨seen, move⟩ : ∃ seen, Move job ⟨moment, shared⟩ [] next after seen :=
    ⟨_, move_of_step [] step⟩
  cases move with
  | tick =>
    refine ⟨job.state.name_tick _ _ _, job.state.settings_tick _ _ _, fun name other => ?_⟩
    have failures := job.state.failures_tick moment.timestamp moment.surroundings shared.context
    rw [Tick.countIn] at failures
    rw [Shared.failuresOf, tick, failures]
    split
    · rw [Table.count_increase, if_neg other]
      rfl
    · rfl
  | queued _ _ kept => exact ⟨rfl, Shared.spares_of_failures rfl kept⟩
  | rejected => exact ⟨rfl, Shared.spares_of_failures rfl rfl⟩
  | @report _ failed _ _ _ _ made =>
    have steady := Context.steady_addAll [] moment.timestamp (job.state.selfReadings failed)
    have settings := steady.settings shared.context
    have failures := steady.failures shared.context
    rw [made] at settings failures
    exact ⟨rfl, Shared.spares_of_failures settings failures⟩
  | _ => exact ⟨rfl, same⟩

/-- Reading a line of a program counts no failed run of a collector. -/
theorem Context.takeLine_spares (context : Context) (line : Bytes) :
    (context.takeLine line).1.settings = context.settings ∧
      (context.takeLine line).1.health.failures = context.health.failures := by
  unfold takeLine
  split
  · exact ⟨rfl, rfl⟩
  · exact ⟨rfl, rfl⟩
  · split <;> exact ⟨rfl, rfl⟩

theorem ProgramJob.spares_of_move {job next : ProgramJob} {scene : Scene} {after : Shared}
    (move : Move job scene next after) :
    next.program = job.program ∧ scene.shared.Spares job.program.name after := by
  have spares {counted : Shared} (counts : Counted scene.shared counted) :
      scene.shared.Spares job.program.name counted := by
    obtain ⟨_, context⟩ := counts.context
    refine Shared.spares_of_failures ?_ counts.failures
    rw [context]
    rfl
  cases move with
  | launch _ _ fits starts =>
    have launched := launched_of_launch fits starts
    exact ⟨launched.program, spares launched.counted⟩
  | unfit => exact ⟨rfl, spares (counted_countStart job _)⟩
  | turnedBack => exact ⟨rfl, spares (counted_countStart job _)⟩
  | @line _ _ line =>
    obtain ⟨settings, failures⟩ := scene.shared.context.takeLine_spares line
    exact ⟨rfl, Shared.spares_of_failures settings failures⟩
  | _ => exact ⟨rfl, Shared.spares_of_failures rfl rfl⟩

theorem IntervalJob.spares_of_take {job next : IntervalJob} {heed : Heed} {moment : Moment}
    {shared after : Shared} (step : job.take? heed moment shared = some (next, after)) :
    next.state.name = job.state.name ∧ shared.Spares job.state.name after := by
  cases heed with
  | atOnce => exact job.spares_of_step step
  | late => cases step
  | notYet => exact job.spares_of_step step

theorem Job.spares_of_take {job next : Job} {heed : Heed} {moment : Moment} {shared after : Shared}
    (step : job.take? heed moment shared = some (next, after)) :
    next.name = job.name ∧ shared.Spares job.name after := by
  cases job with
  | interval job =>
    obtain ⟨⟨now, changed⟩, own, same⟩ := Option.map_eq_some_iff.mp step
    obtain ⟨rfl, rfl⟩ := Prod.mk.inj same
    exact job.spares_of_take own
  | program job =>
    obtain ⟨⟨now, changed⟩, own, same⟩ := Option.map_eq_some_iff.mp step
    obtain ⟨rfl, rfl⟩ := Prod.mk.inj same
    have move : ProgramJob.Move job ⟨moment, shared⟩ now changed := ProgramJob.move_of_take own
    obtain ⟨program, spares⟩ := ProgramJob.spares_of_move move
    exact ⟨congrArg Program.name program, spares⟩

/-- A step is one that heeds the order to stop at once. -/
theorem Job.take_atOnce (job : Job) (moment : Moment) (shared : Shared) :
    job.take? .atOnce moment shared = job.step? moment shared := by
  cases job <;> rfl

theorem Job.spares_of_step {job next : Job} {moment : Moment} {shared after : Shared}
    (step : job.step? moment shared = some (next, after)) :
    next.name = job.name ∧ shared.Spares job.name after :=
  spares_of_take ((job.take_atOnce moment shared).trans step)

namespace World

/-- What actions do. -/
inductive Deed (world : World) : Action → World → Prop where
  | report {ticker : Ticker} (found : world.reporter = some ticker)
      (due : ticker.due ≤ world.now) :
      Deed world .report
        { world.withDispatcher world.dispatcher.snapshot.2 with
          reporter := some { ticker with due := ticker.due + ticker.period } }
  | work {index : Nat} {job next : Job} {shared : Shared} (found : world.jobs[index]? = some job)
      (step : job.step? world.moment world.shared = some (next, shared)) :
      Deed world (.work index) { world with jobs := world.jobs.set index next, shared := shared }
  | receive {point : Point} {rest : List Point} (queue : world.dispatcher.queue = point :: rest) :
      Deed world .receive
        { world.withDispatcher { world.dispatcher with queue := rest } with
          consumer := world.consumer.take world.now point }
  | leave : Deed world .leave (world.withDispatcher world.dispatcher.dropReceiver)
  | advance {moment : Nat} (still : world.act? = none) (next : world.next? = some moment) :
      Deed world .advance { world with now := moment }

theorem deed_of_perform {world after : World} {action : Action}
    (performed : world.perform? action = some after) : world.Deed action after := by
  cases action with
  | report =>
    simp only [perform?, report?] at performed
    split at performed
    · cases performed
    · rename_i ticker found
      split at performed
      · rename_i due
        rw [← Option.some.inj performed]
        exact .report found due
      · cases performed
  | work index =>
    simp only [perform?, work?] at performed
    split at performed
    · cases performed
    · rename_i job found
      split at performed
      · cases performed
      · rename_i next shared step
        rw [← Option.some.inj performed]
        exact .work found step
  | receive =>
    simp only [perform?, receive?] at performed
    split at performed
    · split at performed
      · cases performed
      · rename_i point rest queue
        rw [← Option.some.inj performed]
        exact .receive queue
    · cases performed
  | leave =>
    simp only [perform?, leave?] at performed
    split at performed
    · rw [← Option.some.inj performed]
      exact .leave
    · cases performed
  | advance =>
    simp only [perform?, advance?] at performed
    split at performed
    · cases performed
    · rename_i still
      obtain ⟨moment, next, same⟩ := Option.map_eq_some_iff.mp performed
      rw [← same]
      exact .advance still next

/-! ### What stays as it is -/

/-- Only its own step changes a job. -/
theorem getElem?_jobs_of_perform {world after : World} {action : Action}
    (performed : world.perform? action = some after) {index : Nat} (other : action ≠ .work index) :
    after.jobs[index]? = world.jobs[index]? := by
  cases deed_of_perform performed with
  | work found step =>
    exact List.getElem?_set_ne fun same => other (congrArg Action.work same)
  | _ => rfl

/-- The clock moves by an advance alone, and nothing else of the moment changes. -/
theorem moment_of_perform {world after : World} {action : Action}
    (performed : world.perform? action = some after) :
    after.cancelled = world.cancelled ∧ after.surroundings = world.surroundings ∧
      (action ≠ .advance → after.now = world.now) := by
  cases deed_of_perform performed with
  | advance => exact ⟨rfl, rfl, fun other => absurd rfl other⟩
  | _ => exact ⟨rfl, rfl, fun _ => rfl⟩

/-- The collectors stay the same. -/
theorem names_of_perform {world after : World} {action : Action}
    (performed : world.perform? action = some after) :
    after.jobs.map Job.name = world.jobs.map Job.name := by
  cases deed_of_perform performed with
  | @work index job next shared found step =>
    obtain ⟨here, same⟩ := List.getElem?_eq_some_iff.mp found
    show (world.jobs.set index next).map Job.name = world.jobs.map Job.name
    rw [List.map_set, (Job.spares_of_step step).1, ← same, ← List.getElem_map Job.name,
      List.set_getElem_self]
    rwa [List.length_map]
  | _ => rfl

/-- The jobs have the names of the collectors that are started. -/
theorem names_jobOf (registry : Registry) (context : Context) (now : Nat)
    (lives : String → Nat → Life) :
    (registry.collectors.map (jobOf context now lives)).map Job.name = registry.names := by
  rw [List.map_map, Registry.names]
  refine List.map_congr_left fun collector _ => ?_
  cases collector <;> rfl

/-- Where the collectors have different names, jobs at different places have. -/
theorem name_ne_of_place_ne {world : World} (distinct : (world.jobs.map Job.name).Nodup)
    {place index : Nat} {job worker : Job} (found : world.jobs[place]? = some job)
    (occupied : world.jobs[index]? = some worker) (other : index ≠ place) :
    job.name ≠ worker.name := by
  intro same
  have inside := (List.getElem?_eq_some_iff.mp found).1
  have names : (world.jobs.map Job.name)[place]? = (world.jobs.map Job.name)[index]? := by
    rw [List.getElem?_map, List.getElem?_map, found, occupied]
    exact congrArg some same
  exact other ((List.getElem?_inj (by rwa [List.length_map]) distinct).mp names).symm

/-- What every action keeps holds wherever a world leads. -/
theorem Leads.keeps (Holds : World → Prop)
    (kept : ∀ world action after, Holds world → world.perform? action = some after → Holds after)
    {start world : World} {past : List Happening} (begins : Holds start)
    (leads : start.Leads past world) :
    Holds world ∧ ∀ happening ∈ past, Holds happening.before ∧
      happening.before.perform? happening.action = some happening.after := by
  induction leads with
  | start => exact ⟨begins, fun _ member => absurd member List.not_mem_nil⟩
  | next action _ performed inductionHypothesis =>
    obtain ⟨holds, earlier⟩ := inductionHypothesis
    refine ⟨kept _ action _ holds performed, fun happening member => ?_⟩
    rcases List.mem_append.mp member with before | last
    · exact earlier happening before
    · rw [List.mem_singleton.mp last]
      exact ⟨holds, performed⟩

/-- What holds at the start and after everything that happened holds before everything as well. -/
theorem Leads.everywhere (Holds : World → Prop) {start world : World} {past : List Happening}
    (leads : start.Leads past world) (begins : Holds start)
    (after : ∀ happening ∈ past, Holds happening.after) :
    Holds world ∧ ∀ happening ∈ past, Holds happening.before := by
  induction leads with
  | start => exact ⟨begins, fun _ member => absurd member List.not_mem_nil⟩
  | @next past world later action _ _ inductionHypothesis =>
    obtain ⟨holds, earlier⟩ := inductionHypothesis fun happening member =>
      after happening (List.mem_append_left _ member)
    refine ⟨after _ (List.mem_append_right _ List.mem_cons_self), fun happening member => ?_⟩
    rcases List.mem_append.mp member with before | last
    · exact earlier happening before
    · rw [List.mem_singleton.mp last]
      exact holds

/-! ### The course of one job -/

/-- For the job at a place an action is its own step, or something that leaves it as it is. -/
theorem own_or_other {world after : World} {action : Action}
    (performed : world.perform? action = some after) {place : Nat} {job : Job}
    (found : world.jobs[place]? = some job) :
    (action = .work place ∧ ∃ next,
        job.step? world.moment world.shared = some (next, after.shared) ∧
        after.jobs[place]? = some next ∧
        after.scene = { world.scene with shared := after.shared }) ∨
      action ≠ .work place ∧ after.jobs[place]? = some job := by
  by_cases own : action = .work place
  · subst own
    cases deed_of_perform performed with
    | @work _ worker next _ occupied step =>
      rw [found] at occupied
      obtain rfl := Option.some.inj occupied
      obtain ⟨inside, _⟩ := List.getElem?_eq_some_iff.mp found
      exact .inl ⟨rfl, next, step, List.getElem?_set_self inside, rfl⟩
  · exact .inr ⟨own, (getElem?_jobs_of_perform performed own).trans found⟩

/-- A job takes a course in every world, among others that do what the rest of the world does. -/
theorem Leads.course (Others : IntervalJob → Scene → Scene → Prop) {start world : World}
    {past : List Happening} (leads : start.Leads past world) {index : Nat} {job : IntervalJob}
    (found : start.jobs[index]? = some (.interval job))
    (others : ∀ happening ∈ past, happening.action ≠ .work index → ∀ job,
      happening.before.jobs[index]? = some (.interval job) →
        Others job happening.before.scene happening.after.scene) :
    ∃ next, world.jobs[index]? = some (.interval next) ∧
      IntervalJob.Course Others job start.scene (Happening.beatsOf index past) next
        world.scene := by
  induction leads with
  | start => exact ⟨job, found, .start⟩
  | @next past world after action leads performed inductionHypothesis =>
    obtain ⟨now, here, course⟩ := inductionHypothesis fun happening member =>
      others happening (List.mem_append_left _ member)
    have beats : Happening.beatsOf index (past ++ [⟨world, action, after⟩]) =
        Happening.note index (Happening.beatsOf index past) ⟨world, action, after⟩ := by
      simp [Happening.beatsOf]
    rw [beats]
    rcases own_or_other performed here with ⟨rfl, moved, step, there, scene⟩ | ⟨other, kept⟩
    · obtain ⟨⟨next, changed⟩, own, same⟩ := Option.map_eq_some_iff.mp step
      obtain ⟨rfl, rfl⟩ := Prod.mk.inj same
      refine ⟨next, there, ?_⟩
      simp only [Happening.note, here, there, if_pos, scene]
      exact course.step own
    · refine ⟨now, kept, ?_⟩
      have unseen : Happening.note index (Happening.beatsOf index past) ⟨world, action, after⟩ =
          Happening.beatsOf index past := by
        simp [Happening.note, kept, here, other]
      rw [unseen]
      exact course.others (others _ (List.mem_append_right _ List.mem_cons_self) other now here)

/-- The job of a program takes a course in every world, among others that do what the rest of the
world does. -/
theorem Leads.programCourse (Others : ProgramJob → Scene → Scene → Prop) {start world : World}
    {past : List Happening} (leads : start.Leads past world) {place : Nat} {job : ProgramJob}
    (found : start.jobs[place]? = some (.program job))
    (others : ∀ happening ∈ past, happening.action ≠ .work place → ∀ job,
      happening.before.jobs[place]? = some (.program job) →
        Others job happening.before.scene happening.after.scene) :
    ∃ next, world.jobs[place]? = some (.program next) ∧
      ProgramJob.Course Others job start.scene (Happening.turnsOf place past) next
        world.scene := by
  induction leads with
  | start => exact ⟨job, found, .start⟩
  | @next past world after action leads performed inductionHypothesis =>
    obtain ⟨now, here, course⟩ := inductionHypothesis fun happening member =>
      others happening (List.mem_append_left _ member)
    rw [Happening.turnsOf, List.filterMap_append, ← Happening.turnsOf]
    rcases own_or_other performed here with ⟨rfl, moved, step, there, scene⟩ | ⟨other, kept⟩
    · obtain ⟨⟨next, changed⟩, own, same⟩ := Option.map_eq_some_iff.mp step
      obtain ⟨rfl, rfl⟩ := Prod.mk.inj same
      refine ⟨next, there, ?_⟩
      simp only [List.filterMap_cons, List.filterMap_nil, Happening.turn?, here, there, if_pos,
        scene]
      exact course.step .atOnce own
    · refine ⟨now, kept, ?_⟩
      have unseen : List.filterMap (Happening.turn? place) [⟨world, action, after⟩] = [] := by
        simp [Happening.turn?, kept, here, other]
      rw [unseen, List.append_nil]
      exact course.others (others _ (List.mem_append_right _ List.mem_cons_self) other now here)

end World

end Telemetry
