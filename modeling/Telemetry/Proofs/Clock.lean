/-
This file says how the clock of a world moves.

It stands still while anything can act, and then moves to the first moment for which something
waits. So a moment is over when the clock has passed it, or when nothing can happen any more up to
it. The scheduler takes the actions in one order of many, and goes on until nothing can happen any
more.
-/

import Telemetry.Proofs.Happenings

namespace Telemetry

namespace World

/-- A point of the job at a place waits for room in the queue. -/
def HoldsUp (world : World) (place : Nat) : Prop :=
  ∃ job, world.jobs[place]? = some (.interval job) ∧ job.HeldUp world.shared

/-- A moment is over: the clock has passed it, or nothing can happen any more up to that moment. -/
def IsOver (world : World) (moment : Nat) : Prop :=
  moment < world.now ∨ world.AtRest ∧ (moment ≤ world.now ∨ moment < world.horizon)

/-! ### What the clock means for a job -/

theorem work_none_iff {world : World} {place : Nat} {job : Job}
    (found : world.jobs[place]? = some job) :
    world.work? place = none ↔ job.step? world.moment world.shared = none := by
  rw [work?, found]
  dsimp only
  cases job.step? world.moment world.shared <;> simp

theorem step_none_of_work_none {world : World} {place : Nat} (stuck : world.work? place = none)
    {job : IntervalJob} (found : world.jobs[place]? = some (.interval job)) :
    job.step? world.moment world.shared = none :=
  Option.map_eq_none_iff.mp ((work_none_iff found).mp stuck)

/-- A job that cannot make a step has stopped, waits for a later moment, or waits for room. -/
theorem still_of_work_none {world : World} {place : Nat} (stuck : world.work? place = none)
    {job : IntervalJob} (found : world.jobs[place]? = some (.interval job)) :
    job.phase = .stopped ∨ (∃ ticker, job.phase = .waiting ticker ∧ world.now < ticker.due) ∨
      job.HeldUp world.shared :=
  @IntervalJob.still_of_no_step job world.scene (step_none_of_work_none stuck found)

theorem work_none_of_act_none {world : World} (still : world.act? = none) {place : Nat}
    (inside : place < world.jobs.length) : world.work? place = none := by
  simp only [act?, Option.or_eq_none_iff] at still
  exact List.findSome?_eq_none_iff.mp still.2.2.1 place (List.mem_range.mpr inside)

/-- A job that waits for a tick is among those for which the clock stops. -/
theorem mem_wakes {world : World} {place : Nat} {job : IntervalJob} {ticker : Ticker}
    (found : world.jobs[place]? = some (.interval job)) (waiting : job.phase = .waiting ticker) :
    ticker.due ∈ world.wakes := by
  have wakes : (Job.interval job).wakes = some ticker.due := by
    show job.wakes = _
    rw [IntervalJob.wakes, waiting]
  refine List.mem_append_left _ (List.mem_append_left _ ?_)
  exact List.mem_filterMap.mpr ⟨_, List.mem_of_getElem? found, wakes⟩

/-- The clock moves to no later moment than one for which something waits. -/
theorem next_le {world : World} {moment due : Nat} (next : world.next? = some moment)
    (waits : due ∈ world.wakes) (later : world.now < due) : moment ≤ due := by
  obtain ⟨found, least⟩ := List.min?_eq_some_iff.mp next
  simp only [List.mem_filter, Bool.and_eq_true, decide_eq_true_eq] at found least
  rcases Nat.lt_or_ge due world.horizon with before | after
  · exact least due ⟨waits, later, before⟩
  · exact Nat.le_trans (Nat.le_of_lt found.2.2) after

/-- Where nothing can happen any more, no job waits for a moment before the clock ends. -/
theorem horizon_le_due {world : World} (rest : world.AtRest) {due : Nat}
    (waits : due ∈ world.wakes) (later : world.now < due) : world.horizon ≤ due := by
  have still : world.act? = none := by
    cases acted : world.act? with
    | none => rfl
    | some after =>
      obtain ⟨action, performed⟩ := exists_perform_of_act acted
      rw [rest action] at performed
      cases performed
  have moves : world.advance? = none := rest .advance
  rw [advance?, still] at moves
  have none : world.next? = none := Option.map_eq_none_iff.mp moves
  have empty := List.min?_eq_none_iff.mp none
  refine Nat.le_of_not_lt fun before => ?_
  have member : due ∈ world.wakes.filter fun moment =>
      world.now < moment && moment < world.horizon := by
    simp [List.mem_filter, waits, later, before]
  rw [empty] at member
  cases member

/-- The clock moves forward, and not to its end. -/
theorem now_lt_of_next {world : World} {moment : Nat} (next : world.next? = some moment) :
    world.now < moment ∧ moment < world.horizon := by
  have found := List.min?_mem next
  simp only [List.mem_filter, Bool.and_eq_true, decide_eq_true_eq] at found
  exact found.2

theorem now_le_of_perform {world after : World} {action : Action}
    (performed : world.perform? action = some after) : world.now ≤ after.now := by
  cases deed_of_perform performed with
  | advance _ next => exact Nat.le_of_lt (now_lt_of_next next).1
  | _ => exact Nat.le_refl _

/-! ### The end -/

/-- When the scheduler finds nothing more to do before the end of the clock, nothing can happen. -/
theorem atRest_of_step_none {world : World} (early : world.now < world.horizon)
    (still : world.step? = none) : world.AtRest := by
  rw [step?, if_pos early, Option.or_eq_none_iff] at still
  have act := still.1
  simp only [act?, Option.or_eq_none_iff] at act
  intro action
  cases action with
  | report => exact act.1
  | work index =>
    rcases Nat.lt_or_ge index world.jobs.length with inside | outside
    · exact work_none_of_act_none still.1 inside
    · show world.work? index = none
      rw [work?, List.getElem?_eq_none outside]
  | receive => exact act.2.2.2
  | leave => exact act.2.1
  | advance => exact still.2

theorem early_of_perform {world after : World} {action : Action}
    (performed : world.perform? action = some after) (early : world.now < world.horizon) :
    after.now < after.horizon := by
  cases deed_of_perform performed with
  | advance _ next => exact (now_lt_of_next next).2
  | _ => exact early

/-- The scheduler goes on until nothing can happen any more. -/
theorem atRest_run (world : World) (early : world.now < world.horizon) : world.run.AtRest := by
  fun_induction run world with
  | case1 world ended => exact atRest_of_step_none early ended
  | case2 world next step inductionHypothesis =>
    obtain ⟨_, performed⟩ := exists_perform_of_step step
    exact inductionHypothesis (early_of_perform performed early)

end World

end Telemetry
