/-
This file says when collectors tick in a world.

The clock stands still while anything can act, and then moves to the first moment for which
something waits. So it never passes the tick of a job unless the job waits for room in the queue.
Whatever the other collectors, the queue and the consumer do, ticks are never early and never made
up for; and as long as no point has to wait for room, each tick is taken at the moment at which it
is due.
-/

import Telemetry.Proofs.Clock
import Telemetry.Proofs.Rhythm

namespace Telemetry

namespace IntervalCollector

/-- The time between two ticks of a collector. Without an interval, or with one of zero, it is the
common frequency. -/
def period (collector : IntervalCollector) (context : Context) : Nat :=
  match collector.interval with
  | none => context.frequency
  | some 0 => context.frequency
  | some interval => interval

/-- When a tick is due at the earliest after a start, by its number from zero. The first one is due
after a period, or at once for an interval of zero. -/
def earliest (collector : IntervalCollector) (context : Context) (start number : Nat) : Nat :=
  if collector.interval = some 0 then start + number * collector.period context
  else start + (number + 1) * collector.period context

theorem start_phase {collector : IntervalCollector} {context : Context} {now : Nat}
    {first : Ticker}
    (starts : Ticker.start? collector.interval context.frequency now = some first) :
    (IntervalJob.start collector context now).phase = .waiting first := by
  rw [IntervalJob.start, starts]

/-- A collector with a period waits for its first tick. -/
theorem exists_first {collector : IntervalCollector} {context : Context}
    (positive : 0 < collector.period context) (now : Nat) :
    ∃ first, (IntervalJob.start collector context now).phase = .waiting first ∧
      now ≤ first.due ∧ first.period = collector.period context ∧
      ∀ number, first.earliest number = collector.earliest context now number := by
  have delayed : ∀ number period,
      now + period + number * period = now + (number + 1) * period := by
    intro number period
    rw [Nat.succ_mul]
    omega
  match interval : collector.interval with
  | none =>
    rw [period, interval] at positive
    refine ⟨⟨now + context.frequency, context.frequency, positive⟩, start_phase ?_,
      Nat.le_add_right _ _, ?_, fun number => ?_⟩
    · rw [interval]
      exact dif_pos positive
    · rw [period, interval]
    · rw [earliest, period, interval, if_neg nofun]
      exact delayed number context.frequency
  | some 0 =>
    rw [period, interval] at positive
    refine ⟨⟨now + 0, context.frequency, positive⟩, start_phase ?_, Nat.le_refl now, ?_,
      fun number => ?_⟩
    · rw [interval]
      exact dif_pos positive
    · rw [period, interval]
      rfl
    · rw [earliest, period, interval, if_pos rfl]
      rfl
  | some (less + 1) =>
    refine ⟨⟨now + (less + 1), less + 1, Nat.succ_pos less⟩, start_phase ?_, Nat.le_add_right _ _,
      ?_, fun number => ?_⟩
    · rw [interval]
      show Ticker.after? (less + 1) (less + 1) now = _
      exact dif_pos (Nat.succ_pos less)
    · rw [period, interval]
      rfl
    · rw [earliest, period, interval, if_neg (by simp)]
      exact delayed number (less + 1)

/-- Without a period a collector never begins. -/
theorem start_stopped {collector : IntervalCollector} {context : Context}
    (never : ¬0 < collector.period context) (now : Nat) :
    (IntervalJob.start collector context now).phase = .stopped := by
  have absent : Ticker.start? collector.interval context.frequency now = none := by
    match interval : collector.interval with
    | none =>
      rw [period, interval] at never
      exact dif_neg never
    | some 0 =>
      rw [period, interval] at never
      exact dif_neg never
    | some (less + 1) =>
      rw [period, interval] at never
      exact absurd (Nat.succ_pos less) never
  rw [IntervalJob.start, absent]

end IntervalCollector

namespace World

/-- The rest of a world is prompt, as long as the clock moves only when no point of the job waits
for room. -/
theorem prompt_of_perform {world after : World} {action : Action}
    (performed : world.perform? action = some after) (going : world.cancelled = false)
    {place : Nat} {job : IntervalJob} (found : world.jobs[place]? = some (.interval job))
    (free : action = .advance → ¬world.HoldsUp place) (other : action ≠ .work place) :
    job.Prompt world.scene after.scene where
  going := (moment_of_perform performed).1.trans going
  forward := now_le_of_perform performed
  surroundings := (moment_of_perform performed).2.1
  gone ended := by
    cases deed_of_perform performed with
    | leave =>
      show world.dispatcher.dropReceiver.receiver = .dropped
      unfold Dispatcher.dropReceiver
      split
      · rfl
      · exact ended
    | work _ step => exact (Job.step?_receiver step).trans ended
    | _ => exact ended
  clock moved ticker here := by
    have advances : action = .advance :=
      Decidable.byContradiction fun stays => moved ((moment_of_perform performed).2.2 stays)
    subst advances
    cases deed_of_perform performed with
    | advance still next =>
      have inside := (List.getElem?_eq_some_iff.mp found).1
      rcases still_of_work_none (work_none_of_act_none still inside) found with
        stopped | ⟨now, waiting, later⟩ | heldUp
      · rw [IntervalJob.ticker?, stopped] at here
        cases here
      · rw [IntervalJob.ticker?, waiting] at here
        obtain rfl := Option.some.inj here
        exact ⟨waiting, next_le next (mem_wakes found waiting) later⟩
      · exact absurd ⟨job, found, heldUp⟩ (free rfl)

/-! ### Cadence -/

/-- What is to be said of the ticks of a collector in a world that was led to from its start. -/
structure Cadence (collector : IntervalCollector) (context : Context) (start place : Nat)
    (past : List Happening) (world : World) : Prop where
  /-- No tick is early. -/
  early : ∀ number time, (Beat.times (Happening.beatsOf place past))[number]? = some time →
    collector.earliest context start number ≤ time
  /-- Ticks that were missed are not made up for. -/
  apart : ∀ number time next, (Beat.times (Happening.beatsOf place past))[number]? = some time →
    (Beat.times (Happening.beatsOf place past))[number + 1]? = some next →
      time + collector.period context ≤ next + Ticker.slack
  /-- As long as the clock has not moved on while a point of the collector had to wait for room,
  every tick was taken when it was due. -/
  onTime : (∀ happening ∈ past, happening.action = .advance → ¬happening.before.HoldsUp place) →
    ∀ number time, (Beat.times (Happening.beatsOf place past))[number]? = some time →
      time = collector.earliest context start number
  /-- Until then none was left out either, unless the consumer is gone. -/
  complete : (∀ happening ∈ past, happening.action = .advance → ¬happening.before.HoldsUp place) →
    world.dispatcher.receiver ≠ .dropped → ¬world.HoldsUp place →
      ∀ number, world.IsOver (collector.earliest context start number) →
        number < (Happening.beatsOf place past).length

theorem getElem?_jobs_start {registry : Registry} {place : Nat} {collector : IntervalCollector}
    (found : registry.collectors[place]? = some (.interval collector)) (context : Context)
    (surroundings : Surroundings) (lives : String → Nat → Life) (capacity reportPeriod : Nat)
    (consumer : Consumer) (now horizon : Nat) :
    (start registry context surroundings lives capacity reportPeriod consumer now
      horizon).jobs[place]? = some (.interval (IntervalJob.start collector context now)) := by
  show (registry.collectors.map (jobOf context now lives))[place]? = _
  rw [List.getElem?_map, found]
  rfl

/-- A job that goes on and is not held up is past every moment that is over. -/
theorem isPast_of_isOver {world : World} {place : Nat} {job : IntervalJob}
    (found : world.jobs[place]? = some (.interval job)) (goesOn : job.phase ≠ .stopped)
    (free : ¬world.HoldsUp place) {moment : Nat} (ended : world.IsOver moment) :
    job.IsPast world.scene moment := by
  rcases ended with passed | ⟨rest, before⟩
  · exact .inl passed
  · rcases still_of_work_none (rest (.work place)) found with
      stopped | ⟨ticker, waiting, later⟩ | heldUp
    · exact absurd stopped goesOn
    · refine .inr ⟨ticker, waiting, ?_⟩
      rcases before with now | before
      · exact Nat.lt_of_le_of_lt now later
      · exact Nat.lt_of_lt_of_le before (horizon_le_due rest (mem_wakes found waiting) later)
    · exact absurd ⟨job, found, heldUp⟩ free

/-- Whatever the other collectors, the queue and the consumer do, a collector with a period keeps
its cadence. -/
theorem cadence_of_leads {registry : Registry} {context : Context} {surroundings : Surroundings}
    {lives : String → Nat → Life} {capacity reportPeriod : Nat} {consumer : Consumer}
    {now horizon place : Nat} {collector : IntervalCollector}
    (found : registry.collectors[place]? = some (.interval collector))
    (positive : 0 < collector.period context) {past : List Happening} {world : World}
    (leads : (start registry context surroundings lives capacity reportPeriod consumer now
      horizon).Leads past world) :
    Cadence collector context now place past world := by
  obtain ⟨first, starts, early, period, earliest⟩ := IntervalCollector.exists_first positive now
  have begun := getElem?_jobs_start found context surroundings lives capacity reportPeriod consumer
    now horizon
  have rhythm : (IntervalJob.start collector context now).ticker? = some first := by
    rw [IntervalJob.ticker?, starts]
  obtain ⟨_, _, course⟩ := leads.course (fun _ _ _ => True) begun fun _ _ _ _ _ => trivial
  obtain ⟨later, takes, _⟩ := course.takes rhythm
  have punctual : (∀ happening ∈ past, happening.action = .advance →
      ¬happening.before.HoldsUp place) →
      ∃ job, world.jobs[place]? = some (.interval job) ∧
        IntervalJob.Punctual first (Happening.beatsOf place past) job world.scene := by
    intro free
    obtain ⟨_, going⟩ := leads.keeps (fun world => world.cancelled = false)
      (fun _ _ _ going performed => (moment_of_perform performed).1.trans going) rfl
    obtain ⟨job, here, course⟩ := leads.course IntervalJob.Prompt begun
      fun happening member other job found =>
        prompt_of_perform (going happening member).2 (going happening member).1 found
          (free happening member) other
    exact ⟨job, here, course.punctual starts early rfl⟩
  refine ⟨fun number time found => ?_, fun number time next found foundNext => ?_,
    fun free number time found => ?_, fun free opened notHeld number ended => ?_⟩
  · rw [← earliest]
    exact takes.early found
  · rw [← period]
    exact takes.apart found foundNext
  · obtain ⟨_, _, punctual⟩ := punctual free
    rw [← earliest]
    exact punctual.times number time found
  · obtain ⟨job, here, punctual⟩ := punctual free
    rw [← earliest] at ended
    have past := isPast_of_isOver here (punctual.goesOn opened) notHeld ended
    exact Nat.lt_of_not_le fun fewer => absurd (punctual.lt_earliest opened past)
      (Nat.not_lt.mpr (first.earliest_mono fewer))

/-- A collector that gives two points every three seconds. -/
def heartbeat : IntervalCollector :=
  let point (metric : String) : Point := ⟨metric, 0, .integer 1, ∅⟩
  ⟨"heartbeat", some (3 * second), none, none,
    .script fun _ => ⟨[.raw (point "up"), .raw (point "ok")], .succeeded⟩⟩

/-- The queue has room for one point, and its consumer pauses for ten seconds after each. -/
def slowWorld : World :=
  start ⟨[.interval heartbeat]⟩ (Context.new "web01") Surroundings.none (fun _ _ => ⟨none, 0⟩) 1 0
    (Consumer.start (10 * second) none 0) 0 (30 * second)

/-- What happens in it up to the third tick. -/
def slowActions : List Action :=
  [.advance, .work 0, .work 0, .receive, .work 0, .work 0, .advance, .work 0, .advance, .receive,
    .work 0, .advance, .receive, .work 0, .work 0, .work 0]

/-- The points of the second tick are held up for seventeen seconds, and the third tick follows. -/
theorem cadence_of_slowWorld :
    ∃ past world, slowWorld.Leads past world ∧
      Cadence heartbeat (Context.new "web01") 0 0 past world ∧
      Beat.times (Happening.beatsOf 0 past) = [3 * second, 6 * second, 23 * second] := by
  have seen : (slowWorld.follow? slowActions).map
      (fun result => Beat.times (Happening.beatsOf 0 result.1)) =
      some [3 * second, 6 * second, 23 * second] := by decide +kernel
  obtain ⟨⟨past, world⟩, followed, times⟩ := Option.map_eq_some_iff.mp seen
  have leads : slowWorld.Leads past world := Leads.start.follow followed
  exact ⟨past, world, leads, cadence_of_leads rfl (by decide) leads, times⟩

end World

end Telemetry
