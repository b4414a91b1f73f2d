/-
This file says which runs of a scripted collector follow after the consumer has gone.

From the script follows what every tick has to offer. Another tick is taken as long as there was
nothing, so silent runs follow each other without end. Where every tick at which the collector is
enabled has something to offer, at most one run follows; and that is so whatever the script, when
collectors report on themselves and the name of the collector can be cleaned.
-/

import Telemetry.Proofs.Desertion

namespace Telemetry

/-- Whether a call is a run. -/
def Call.isRun : Call → Bool
  | .run _ => true
  | _ => false

/-- When only the last tick can have a call of some kind, and has one at most, there is one at most
altogether. -/
theorem Beat.countP_calls_le {kind : Call → Bool} {beats : List Beat}
    (none : ∀ number beat, beats[number]? = some beat → number + 1 < beats.length →
      beat.calls.countP kind = 0)
    (few : ∀ beat ∈ beats, beat.calls.countP kind ≤ 1) :
    (beats.flatMap (·.calls)).countP kind ≤ 1 := by
  induction beats with
  | nil => exact Nat.zero_le 1
  | cons beat rest inductionHypothesis =>
    rw [List.flatMap_cons, List.countP_append]
    by_cases last : rest = []
    · rw [last, List.flatMap_nil, List.countP_nil, Nat.add_zero]
      exact few beat List.mem_cons_self
    · have here : beat.calls.countP kind = 0 := by
        refine none 0 beat rfl ?_
        rw [List.length_cons]
        exact Nat.succ_lt_succ (List.length_pos_iff.mpr last)
      rw [here, Nat.zero_add]
      refine inductionHypothesis (fun number other found before => ?_) fun other member =>
        few other (List.mem_cons_of_mem _ member)
      exact none (number + 1) other found (Nat.succ_lt_succ before)

namespace IntervalCollector

variable {collector : IntervalCollector} {runs : Nat → Run} {context : Context}
  {earlier : List Moment} {moment : Moment} {beats : List Beat}

theorem runs_callsAt_of_disabled (disabled : collector.isEnabled earlier.length moment = false) :
    (collector.callsAt runs earlier moment).countP Call.isRun = 0 := by
  rw [callsAt, disabled]
  cases collector.enabled.isSome <;> rfl

/-- At a tick there is one run at most. -/
theorem runs_callsAt_le (collector : IntervalCollector) (runs : Nat → Run)
    (earlier : List Moment) (moment : Moment) :
    (collector.callsAt runs earlier moment).countP Call.isRun ≤ 1 := by
  cases enabled : collector.isEnabled earlier.length moment with
  | false =>
    rw [runs_callsAt_of_disabled enabled]
    exact Nat.zero_le 1
  | true =>
    have question : (if collector.enabled.isSome then [Call.enabled true] else []).countP
        Call.isRun = 0 := by
      cases collector.enabled.isSome <;> rfl
    have prepared : ((collector.preparationLeft earlier).toList.map Call.prepare).countP
        Call.isRun = 0 := by
      cases collector.preparationLeft earlier <;> rfl
    rw [callsAt, enabled]
    cases collector.isLostBy runs (collector.enabledTicks earlier) with
    | true =>
      rw [List.countP_append, question]
      exact Nat.zero_le 1
    | false =>
      show List.countP _ (_ ++ (_ ++ _)) ≤ 1
      rw [List.countP_append, List.countP_append, question, prepared]
      cases collector.runDue? (collector.enabledTicks earlier) with
      | none => exact Nat.zero_le 1
      | some run => exact Nat.le_refl 1

/-- What is to be said of the ticks of a scripted collector since the consumer has gone, when it has
had some before. -/
structure Unheard (collector : IntervalCollector) (runs : Nat → Run) (context : Context)
    (earlier : List Moment) (beats : List Beat) (job : IntervalJob) (scene : Scene) : Prop where
  /-- The collector is asked to do what the script says, no more and no less. -/
  calls : ∀ number beat, beats[number]? = some beat →
    beat.calls = collector.callsAt runs (earlier ++ Beat.moments (beats.take number)) beat.moment
  /-- Nothing comes into the queue. -/
  lost : ∀ beat ∈ beats, beat.points = []
  /-- When the next tick was taken, or the job waits for it, there was nothing to offer, neither of
  a run nor of a report. -/
  silent : ∀ number beat, beats[number]? = some beat →
    (number + 1 < beats.length ∨ ∃ ticker, job.phase = .waiting ticker) →
      collector.pointsAt runs context (earlier ++ Beat.moments (beats.take number)) beat.moment
        beat.reported = [] ∧
      beat.reported.isSome =
        (collector.isEnabled (earlier.length + number) beat.moment && context.collectorStats)
  /-- A job that has stopped was told to, or was offering what had been under way when the consumer
  went, or its last tick had something to offer. -/
  noticed : job.phase = .stopped → scene.moment.cancelled = true ∨ beats = [] ∨
    ∃ before last, beats = before ++ [last] ∧
      collector.pointsAt runs context (earlier ++ Beat.moments before) last.moment
        last.reported ≠ []
  /-- Where every tick at which the collector is enabled has something to offer, one run follows at
  most. -/
  once : (∀ past moment reported, collector.isEnabled past.length moment = true →
      reported.isSome = context.collectorStats →
        collector.pointsAt runs context past moment reported ≠ []) →
    (beats.flatMap (·.calls)).countP Call.isRun ≤ 1
  /-- And so it is whatever the runs append, when there is a report on each of them. -/
  reporting : context.collectorStats = true → (∃ label, clean collector.name = .ok label) →
    (beats.flatMap (·.calls)).countP Call.isRun ≤ 1

/-- A report has points unless the name of the collector cannot be cleaned. -/
theorem pointsAt_ne_nil_of_reported (runs : Nat → Run) (context : Context) {label : String}
    (cleaned : clean collector.name = .ok label)
    (enabled : collector.isEnabled earlier.length moment = true) {reported : Option Moment}
    (begun : reported.isSome = true) :
    collector.pointsAt runs context earlier moment reported ≠ [] := by
  obtain ⟨later, rfl⟩ := Option.isSome_iff_exists.mp begun
  rw [pointsAt, if_pos enabled]
  refine List.append_ne_nil_of_right_ne_nil _ ?_
  rw [selfReport, cleaned]
  exact List.cons_ne_nil _ _

/-- The points of a tick, when some ticks were before those that are seen. -/
theorem points_of_complete (valid : context.IsValid) {before : IntervalState} {failures count : Nat}
    (complete : Complete context (collector.stateAfter runs earlier) failures beats before count)
    (number : Nat) (moment : Moment) (reported : Option Moment) :
    (before.beat context number moment reported).points =
      collector.pointsAt runs context (earlier ++ Beat.moments beats) moment reported := by
  rw [stateAfter_of_complete complete, points_beat valid]

section

variable {failures count : Nat} {told : Bool} {phase : IntervalPhase} {state : IntervalState}
  (lingers : IntervalJob.Lingers context (collector.stateAfter runs earlier) failures told beats
    phase state count)
  {number : Nat} {beat : Beat} (found : beats[number]? = some beat)

include lingers found

theorem calls_of_lingers :
    beat.calls =
      collector.callsAt runs (earlier ++ Beat.moments (beats.take number)) beat.moment := by
  obtain ⟨before, _, complete, shows, _⟩ := lingers.at found
  rw [shows.calls, stateAfter_of_complete complete]
  exact (collector.tick_stateAfter runs _ _ beat.moment).2.1

/-- A tick that is over, and none of whose points has come anywhere, has had none to offer. -/
theorem silent_of_lingers (valid : context.IsValid) (lost : beat.points = [])
    (finished : number + 1 < beats.length ∨ ∃ ticker, phase = .waiting ticker) :
    collector.pointsAt runs context (earlier ++ Beat.moments (beats.take number)) beat.moment
        beat.reported = [] ∧
      beat.reported.isSome =
        (collector.isEnabled (earlier.length + number) beat.moment &&
          context.collectorStats) := by
  obtain ⟨before, counted, complete, _, ended⟩ := lingers.at found
  obtain ⟨whole, report⟩ := ended finished
  have failed := (collector.tick_stateAfter runs
    (earlier ++ Beat.moments (beats.take number)) context beat.moment).2.2.1
  refine ⟨?_, ?_⟩
  · rw [← points_of_complete valid complete counted, ← whole, lost]
  · rw [report, stateAfter_of_complete complete, failed, List.length_append,
      Beat.length_moments_take found]
    cases collector.isEnabled (earlier.length + number) beat.moment <;> rfl

end

/-- When every tick at which the collector is enabled would have something to offer, it is disabled
at all ticks but the last one. -/
theorem runs_le_of_silent
    (calls : ∀ number beat, beats[number]? = some beat →
      beat.calls = collector.callsAt runs (earlier ++ Beat.moments (beats.take number)) beat.moment)
    (silent : ∀ number beat, beats[number]? = some beat → number + 1 < beats.length →
      collector.pointsAt runs context (earlier ++ Beat.moments (beats.take number)) beat.moment
          beat.reported = [] ∧
        beat.reported.isSome =
          (collector.isEnabled (earlier.length + number) beat.moment && context.collectorStats))
    (heard : ∀ past moment reported, collector.isEnabled past.length moment = true →
      reported.isSome = context.collectorStats →
        collector.pointsAt runs context past moment reported ≠ []) :
    (beats.flatMap (·.calls)).countP Call.isRun ≤ 1 := by
  refine Beat.countP_calls_le (fun number beat found before => ?_) fun beat member => ?_
  · obtain ⟨nothing, report⟩ := silent number beat found before
    have length : (earlier ++ Beat.moments (beats.take number)).length =
        earlier.length + number := by
      rw [List.length_append, Beat.length_moments_take found]
    rw [calls number beat found]
    refine runs_callsAt_of_disabled ?_
    rw [length]
    refine Bool.eq_false_iff.mpr fun enabled => ?_
    rw [enabled, Bool.true_and] at report
    exact heard _ beat.moment beat.reported (by rw [length, enabled]) report nothing
  · obtain ⟨number, found⟩ := List.mem_iff_getElem?.mp member
    rw [calls number beat found]
    exact collector.runs_callsAt_le runs _ _

/-- Every course of a scripted collector that the consumer has deserted is as its script says, as
long as the others leave its settings and its failures alone. -/
theorem unheard_of_course {job next : IntervalJob} {origin scene : Scene}
    (state : job.state = collector.stateAfter runs earlier)
    (valid : origin.shared.context.IsValid)
    (gone : origin.shared.dispatcher.receiver = .dropped)
    (course : IntervalJob.Course IntervalJob.Deserted job origin beats next scene) :
    Unheard collector runs origin.shared.context earlier beats next scene := by
  have outlasts := course.outlasts (IntervalJob.outlasts_start gone)
  have lingers := outlasts.lingers
  rw [state] at lingers
  have calls (number : Nat) (beat : Beat) (found : beats[number]? = some beat) :=
    calls_of_lingers lingers found
  have silent (number : Nat) (beat : Beat) (found : beats[number]? = some beat) :=
    silent_of_lingers lingers found valid (outlasts.lost beat (List.mem_of_getElem? found))
  have once := runs_le_of_silent calls fun number beat found before =>
    silent number beat found (.inl before)
  refine
    { calls := calls
      lost := outlasts.lost
      silent := silent
      noticed := fun stopped => ?_
      once := once
      reporting := fun reports ⟨label, cleaned⟩ => once fun past moment reported enabled report =>
        pointsAt_ne_nil_of_reported runs _ cleaned enabled (report.trans reports) }
  rw [stopped] at lingers
  refine lingers.exists_offer.imp_right fun others => others.imp_right ?_
  rintro ⟨before, last, left, counted, split, complete, offers⟩
  refine ⟨before, last, split, ?_⟩
  rwa [← points_of_complete valid complete counted]

/-- The first run has nothing to offer, the second one has a point that cannot be cleaned, and the
later ones have a point that can. -/
def backupRuns : Nat → Run
  | 0 => ⟨[], .succeeded⟩
  | 1 => ⟨[.raw ⟨"?", 0, .integer 7, ∅⟩], .failed⟩
  | _ => ⟨[.raw ⟨"backup.age", 0, .integer 7, ∅⟩], .succeeded⟩

/-- A collector with these runs, one every second. -/
def backup : IntervalCollector :=
  { name := "backup"
    interval := some second
    enabled := none
    preparation := none
    source := .script backupRuns }

/-- A world in which the consumer has gone before the first tick. -/
def backupWorld : World :=
  let begun := World.start ⟨[.interval backup]⟩ (Context.new "web01") Surroundings.none
    (fun _ _ => ⟨none, 0⟩) 10 0 (Consumer.start 0 (some 0) 0) 0 (40 * second)
  begun.leave?.getD begun

/-- What happens in it up to the end of the third tick. -/
def backupActions : List Action :=
  [.advance, .work 0, .work 0, .advance, .work 0, .work 0, .work 0, .advance, .work 0, .work 0]

/-- What is seen of it: the runs, and that the job has come to its end. -/
theorem seen_of_backup :
    (backupWorld.follow? backupActions).map (fun result =>
        ((Happening.beatsOf 0 result.1).map (·.calls), result.2.jobs.map (Job.remaining 0))) =
      some ([[.run 0], [.run 1], [.run 2]], [0]) := by
  decide +kernel

/-- A job with no tick to come before any moment has stopped. -/
theorem stopped_of_remaining {job : IntervalJob} {horizon : Nat}
    (nothingLeft : job.remaining horizon = 0) : job.phase = .stopped := by
  unfold IntervalJob.remaining at nothingLeft
  split at nothingLeft
  · omega
  · omega
  · assumption

/-- The third run is the first one that has something to offer, and the last one. -/
theorem unheard_of_backup :
    ∃ beats job scene,
      Unheard backup backupRuns backupWorld.shared.context [] beats job scene ∧
      backupWorld.shared.dispatcher.receiver = .dropped ∧
      beats.map (·.calls) = [[.run 0], [.run 1], [.run 2]] ∧ job.phase = .stopped := by
  obtain ⟨⟨past, world⟩, followed, same⟩ := Option.map_eq_some_iff.mp seen_of_backup
  obtain ⟨beats, remains⟩ := Prod.mk.inj same
  have leads : backupWorld.Leads past world := World.Leads.start.follow followed
  have found : backupWorld.jobs[0]? =
      some (.interval (IntervalJob.start backup backupWorld.shared.context 0)) := rfl
  have gone : backupWorld.shared.dispatcher.receiver = .dropped := by decide
  obtain ⟨job, here, course⟩ := leads.course_deserted gone (by decide) found
  have valid : backupWorld.shared.context.IsValid :=
    ⟨⟨"web01", rfl⟩, fun _ member => absurd member List.not_mem_nil⟩
  have remaining := congrArg (·[0]?) remains
  simp only [List.getElem?_map, here, Option.map_some, List.getElem?_cons_zero,
    Option.some.injEq] at remaining
  exact ⟨_, job, _, unheard_of_course (start_eq rfl) valid gone course, gone, beats,
    stopped_of_remaining remaining⟩

/-- Without a consumer a collector whose runs have nothing to offer begins more runs than one. -/
theorem runs_go_on_unheard :
    ∃ past world, backupWorld.shared.dispatcher.receiver = .dropped ∧
      backupWorld.Leads past world ∧
      ((Happening.beatsOf 0 past).flatMap (·.calls)).countP Call.isRun = 3 := by
  obtain ⟨⟨past, world⟩, followed, same⟩ := Option.map_eq_some_iff.mp seen_of_backup
  have calls : (Happening.beatsOf 0 past).map (·.calls) = [[.run 0], [.run 1], [.run 2]] :=
    (Prod.mk.inj same).1
  refine ⟨past, world, by decide, World.Leads.start.follow followed, ?_⟩
  rw [List.flatMap_def, calls]
  rfl

end IntervalCollector

end Telemetry
