/-
This file says who counts the restarts of a program.

Of all that the jobs do only a job of a program counts a restart, when a start is due, and what it
counts is one of its own program. So where the collectors have different names, the restarts of a
program are those that its own job has counted.
-/

import Telemetry.Proofs.Happenings
import Telemetry.Schedule.Supervision

namespace Telemetry

/-- Offering a point counts no restart. -/
theorem Dispatcher.emit_restarts (dispatcher : Dispatcher) (health : Health) (collector : String)
    (point : Point) :
    (dispatcher.emit health collector point).health.restarts = health.restarts := by
  unfold emit
  split
  · rfl
  · split
    · rfl
    · split <;> rfl

/-- Reading a line counts no restart. -/
theorem Context.takeLine_restarts (context : Context) (line : Bytes) :
    (context.takeLine line).1.health.restarts = context.health.restarts := by
  unfold takeLine
  split
  · rfl
  · rfl
  · split <;> rfl

namespace IntervalJob

variable {job next : IntervalJob} {moment : Moment} {shared after : Shared}

theorem restarts_of_emit {ticker : Ticker} {point : Point} {rest : List Point}
    {outcome : Option Bool}
    (step : job.emit ticker point rest outcome shared = some (next, after)) :
    after.context.health.restarts = shared.context.health.restarts := by
  have kept := shared.dispatcher.emit_restarts shared.context.health job.state.name point
  unfold emit at step
  dsimp only at step
  split at step
  · cases step
  · obtain ⟨rfl, rfl⟩ := Prod.mk.inj (Option.some.inj step)
    exact kept
  · obtain ⟨rfl, rfl⟩ := Prod.mk.inj (Option.some.inj step)
    exact kept

theorem restarts_reportSelf (job : IntervalJob) (ticker : Ticker) (failed : Bool) (moment : Moment)
    (shared : Shared) :
    (job.reportSelf ticker failed moment shared).2.context.health.restarts =
      shared.context.health.restarts := by
  have steady := Context.steady_addAll [] moment.timestamp (job.state.selfReadings failed)
  have kept := steady.restarts shared.context
  unfold reportSelf
  generalize shared.context.addAll [] _ _ = made at kept ⊢
  exact kept

/-- A collector that runs at an interval counts no restart. -/
theorem restarts_of_step (step : job.step? moment shared = some (next, after)) :
    after.context.health.restarts = shared.context.health.restarts := by
  have same (kept : after = shared) :
      after.context.health.restarts = shared.context.health.restarts := by rw [kept]
  unfold step? at step
  split at step
  · cases step
  · split at step
    · exact same (Prod.mk.inj (Option.some.inj step)).2.symm
    · split at step
      · rw [← (Prod.mk.inj (Option.some.inj step)).2]
        exact job.state.restarts_tick moment.timestamp moment.surroundings shared.context
      · cases step
  · exact restarts_of_emit step
  · rename_i ticker failed _
    split at step
    · have kept := job.restarts_reportSelf ticker failed moment shared
      rw [Option.some.inj step] at kept
      exact kept
    · exact same (Prod.mk.inj (Option.some.inj step)).2.symm
  · exact same (Prod.mk.inj (Option.some.inj step)).2.symm

end IntervalJob

namespace ProgramJob

variable {job next : ProgramJob} {scene : Scene} {after : Shared}

/-- Every start of a program but the first counts a restart of that program. -/
theorem restarts_countStart (job : ProgramJob) (shared : Shared) (name : String) :
    (job.countStart shared).restartsOf name = shared.restartsOf name +
      if job.starts ≠ 0 ∧ name = job.program.name then 1 else 0 := by
  show Table.count (Health.restarts (if _ then _ else _)) name = _
  by_cases first : job.starts = 0
  · rw [if_pos first, if_neg fun both => both.1 first]
    rfl
  · rw [if_neg first]
    show Table.count (Table.increase _ _ _) name = _
    rw [Table.count_increase]
    by_cases own : name = job.program.name
    · rw [if_pos own, if_pos ⟨first, own⟩]
      rfl
    · rw [if_neg own, if_neg fun both => own both.2]
      rfl

theorem restarts_of_launch {now : Nat} {shared : Shared}
    (launched : job.launch now shared = (next, after)) (name : String) :
    after.restartsOf name = shared.restartsOf name +
      if job.starts ≠ 0 ∧ name = job.program.name then 1 else 0 := by
  have counts := job.restarts_countStart shared name
  unfold launch at launched
  dsimp only at launched
  split at launched <;> rwa [← (Prod.mk.inj launched).2]

/-- The restarts of other programs are not touched. -/
theorem restarts_of_move (move : Move job scene next after) {name : String}
    (other : name ≠ job.program.name) :
    after.restartsOf name = scene.shared.restartsOf name := by
  have none : (if job.starts ≠ 0 ∧ name = job.program.name then 1 else 0) = 0 :=
    if_neg fun both => other both.2
  cases move with
  | launch _ _ _ launched => rw [restarts_of_launch launched, none, Nat.add_zero]
  | unfit => rw [restarts_countStart, none, Nat.add_zero]
  | turnedBack => rw [restarts_countStart, none, Nat.add_zero]
  | line => exact congrArg (Table.count · name) (Context.takeLine_restarts _ _)
  | _ => rfl

end ProgramJob

theorem IntervalJob.restarts_of_take {job next : IntervalJob} {heed : Heed} {moment : Moment}
    {shared after : Shared} (step : job.take? heed moment shared = some (next, after)) :
    after.context.health.restarts = shared.context.health.restarts := by
  cases heed with
  | atOnce => exact job.restarts_of_step step
  | late => cases step
  | notYet => exact job.restarts_of_step step

theorem Job.restarts_of_take {job next : Job} {heed : Heed} {moment : Moment}
    {shared after : Shared} (step : job.take? heed moment shared = some (next, after))
    {name : String} (other : name ≠ job.name) :
    after.restartsOf name = shared.restartsOf name := by
  cases job with
  | interval job =>
    obtain ⟨_, own, same⟩ := Option.map_eq_some_iff.mp step
    rw [← (Prod.mk.inj same).2]
    exact congrArg (Table.count · name) (job.restarts_of_take own)
  | program job =>
    obtain ⟨⟨now, changed⟩, own, same⟩ := Option.map_eq_some_iff.mp step
    obtain ⟨rfl, rfl⟩ := Prod.mk.inj same
    have move : ProgramJob.Move job ⟨moment, shared⟩ now changed := ProgramJob.move_of_take own
    exact ProgramJob.restarts_of_move move other

/-- In a world whose collectors have different names, the rest of the world does not touch the
restarts of a program. -/
theorem World.restarts_of_perform {world after : World} {action : Action}
    (performed : world.perform? action = some after)
    (distinct : (world.jobs.map Job.name).Nodup) {place : Nat} {job : Job}
    (found : world.jobs[place]? = some job) (other : action ≠ .work place) :
    after.shared.restartsOf job.name = world.shared.restartsOf job.name := by
  cases deed_of_perform performed with
  | work occupied step =>
    refine Job.restarts_of_take ((Job.take_atOnce _ _ _).trans step)
      (name_ne_of_place_ne distinct found occupied fun same => ?_)
    exact other (congrArg Action.work same)
  | _ => rfl

end Telemetry
