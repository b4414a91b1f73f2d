/-
This file holds what can be seen of a collector that runs at an interval while it is at work.

A job makes its steps among others, which change what they share and let the clock move on. A course
of the job is any such sequence, and what the others may do in it is given by a relation, so that
one can speak of a single job among unknown others. What is seen of the job are its ticks: when each
was taken, what the collector was asked to do, and which points came into the queue for it. All jobs
together take their courses in a world, where things may happen in any order in which they can.
-/

import Telemetry.Schedule.World

namespace Telemetry

/-- What a job has around it: the moment, and what all jobs share. -/
structure Scene where
  moment : Moment
  shared : Shared

/-- How many failed runs of a collector were counted. -/
def Shared.failuresOf (shared : Shared) (name : String) : Nat :=
  shared.context.health.failures.count name

/-- What is seen of one tick. -/
structure Beat where
  /-- When the tick was taken. -/
  moment : Moment
  /-- What the collector was asked to do. -/
  calls : List Call
  /-- How many failed runs of the collector were counted when it had done that. -/
  failures : Nat
  /-- When the collector began to report on itself, if it has. -/
  reported : Option Moment
  /-- The points that came into the queue. -/
  points : List Point

namespace Beat

/-- Changes the last tick. -/
def amend (change : Beat → Beat) (beats : List Beat) : List Beat :=
  beats.dropLast ++ (beats.getLast?.map change).toList

@[simp] theorem amend_append_singleton (change : Beat → Beat) (beats : List Beat) (beat : Beat) :
    amend change (beats ++ [beat]) = beats ++ [change beat] := by
  simp [amend]

end Beat

namespace IntervalJob

/-- The ticks that are seen after a step of the job, from those that were seen before. -/
def note (job : IntervalJob) (scene : Scene) (next : IntervalJob) (after : Shared)
    (beats : List Beat) : List Beat :=
  match job.phase, next.phase with
  | .stopped, _ => beats
  | .waiting _, .stopped => beats
  | .waiting _, _ =>
    beats ++ [
      { moment := scene.moment
        calls := (next.calls.drop job.calls.length).map (·.2)
        failures := after.failuresOf job.state.name
        reported := none
        points := [] }]
  | .emitting _ [] (some _), .emitting _ _ _ =>
    Beat.amend (fun beat => { beat with reported := some scene.moment }) beats
  | .emitting _ _ _, _ =>
    let queued := after.dispatcher.queue.drop scene.shared.dispatcher.queue.length
    Beat.amend (fun beat => { beat with points := beat.points ++ queued }) beats

/-- The courses of a job from a start, with the ticks that are seen. In between its steps the others
change what is around it; what they may do can depend on the job. -/
inductive Course (Others : IntervalJob → Scene → Scene → Prop) (start : IntervalJob)
    (origin : Scene) : List Beat → IntervalJob → Scene → Prop where
  | start : Course Others start origin [] start origin
  | others {beats : List Beat} {job : IntervalJob} {scene later : Scene} :
      Course Others start origin beats job scene → Others job scene later →
        Course Others start origin beats job later
  | step {beats : List Beat} {job next : IntervalJob} {scene : Scene} {after : Shared} :
      Course Others start origin beats job scene →
        job.step? scene.moment scene.shared = some (next, after) →
          Course Others start origin (job.note scene next after beats) next
            { scene with shared := after }

/-- A course among some others is one among others that may do more. -/
theorem Course.mono {Others More : IntervalJob → Scene → Scene → Prop}
    (more : ∀ job scene later, Others job scene later → More job scene later)
    {start job : IntervalJob} {origin scene : Scene} {beats : List Beat}
    (course : Course Others start origin beats job scene) :
    Course More start origin beats job scene := by
  induction course with
  | start => exact .start
  | others _ change inductionHypothesis => exact inductionHypothesis.others (more _ _ _ change)
  | step _ step inductionHypothesis => exact inductionHypothesis.step step

end IntervalJob

/-- Something that happened in a world. -/
structure Happening where
  before : World
  action : Action
  after : World

namespace World

/-- What a job has around it in a world. -/
def scene (world : World) : Scene := ⟨world.moment, world.shared⟩

/-- The worlds that a world can lead to, with all that happens in between. -/
inductive Leads (start : World) : List Happening → World → Prop where
  | start : Leads start [] start
  | next {past : List Happening} {world after : World} (action : Action) :
      Leads start past world → world.perform? action = some after →
        Leads start (past ++ [⟨world, action, after⟩]) after

/-- Nothing can happen any more. -/
def AtRest (world : World) : Prop := ∀ action, world.perform? action = none

/-- What happens when actions are taken in order, and the world after them, if they are possible. -/
def follow? (world : World) : List Action → Option (List Happening × World)
  | [] => some ([], world)
  | action :: rest =>
    match world.perform? action with
    | none => none
    | some after =>
      (after.follow? rest).map fun (later, final) => (⟨world, action, after⟩ :: later, final)

theorem Leads.follow {start world final : World} {past later : List Happening}
    {actions : List Action} (leads : start.Leads past world)
    (followed : world.follow? actions = some (later, final)) :
    start.Leads (past ++ later) final := by
  induction actions generalizing world past later with
  | nil =>
    obtain ⟨rfl, rfl⟩ := Prod.mk.inj (Option.some.inj followed)
    rwa [List.append_nil]
  | cons action rest inductionHypothesis =>
    rw [follow?] at followed
    split at followed
    · cases followed
    · rename_i after performed
      obtain ⟨⟨remaining, _⟩, further, same⟩ := Option.map_eq_some_iff.mp followed
      obtain ⟨rfl, rfl⟩ := Prod.mk.inj same
      have led := inductionHypothesis (leads.next action performed) further
      rwa [List.append_assoc] at led

theorem exists_perform_of_act {world after : World} (acted : world.act? = some after) :
    ∃ action, world.perform? action = some after := by
  simp only [act?, Option.or_eq_some_iff] at acted
  rcases acted with reported | ⟨_, gone | ⟨_, worked | ⟨_, received⟩⟩⟩
  · exact ⟨.report, reported⟩
  · exact ⟨.leave, gone⟩
  · obtain ⟨index, _, made⟩ := List.exists_of_findSome?_eq_some worked
    exact ⟨.work index, made⟩
  · exact ⟨.receive, received⟩

/-- What happens on the clock is among what can happen. -/
theorem exists_perform_of_step {world after : World} (step : world.step? = some after) :
    ∃ action, world.perform? action = some after := by
  unfold step? at step
  split at step
  · rcases Option.or_eq_some_iff.mp step with acted | ⟨_, moved⟩
    · exact exists_perform_of_act acted
    · exact ⟨.advance, moved⟩
  · cases step

/-- A world leads to the one in which the clock has ended. -/
theorem exists_leads_run {start world : World} {past : List Happening}
    (leads : start.Leads past world) : ∃ later, start.Leads (past ++ later) world.run := by
  fun_induction run world generalizing past with
  | case1 world ended => exact ⟨[], by rwa [List.append_nil]⟩
  | case2 world next step inductionHypothesis =>
    obtain ⟨action, performed⟩ := exists_perform_of_step step
    obtain ⟨later, led⟩ := inductionHypothesis (leads.next action performed)
    exact ⟨⟨world, action, next⟩ :: later, by rwa [List.append_assoc] at led⟩

end World

namespace Happening

/-- The ticks of the job at a place that are seen after something happened. -/
def note (place : Nat) (beats : List Beat) (happening : Happening) : List Beat :=
  match happening.before.jobs[place]?, happening.after.jobs[place]? with
  | some (.interval job), some (.interval next) =>
    if happening.action = .work place then
      job.note happening.before.scene next happening.after.shared beats
    else beats
  | _, _ => beats

/-- The ticks of the job at a place that were seen. -/
def beatsOf (place : Nat) (past : List Happening) : List Beat := past.foldl (note place) []

end Happening

end Telemetry
