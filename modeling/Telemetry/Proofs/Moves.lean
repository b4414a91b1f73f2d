/-
This file says what the steps of a collector's job are, and what is seen of each.

There are eight kinds of steps. A step that can be made is one of them; and there is none to make
for a job that has stopped, that waits for a tick, or whose point waits for room.
-/

import Telemetry.Proofs.Stream
import Telemetry.Schedule.Course

namespace Telemetry

namespace Beat

theorem amend_self (beats : List Beat) : amend (fun beat => beat) beats = beats := by
  cases beats with
  | nil => rfl
  | cons beat rest =>
    rw [amend, List.getLast?_eq_some_getLast (List.cons_ne_nil beat rest)]
    exact List.dropLast_concat_getLast _

end Beat

namespace IntervalJob

/-- What is seen of a tick when it has just been taken. -/
def beatOf (job : IntervalJob) (scene : Scene) : Beat :=
  let tick :=
    job.state.tick scene.shared.context scene.moment.timestamp scene.moment.surroundings
  { moment := scene.moment
    calls := tick.calls
    failures := tick.context.health.failures.count job.state.name
    reported := none
    points := [] }

/-- The steps of a job, with the ticks that are seen before and after. -/
inductive Move (job : IntervalJob) (scene : Scene) (beats : List Beat) :
    IntervalJob → Shared → List Beat → Prop where
  /-- The job is told to stop while it waits for a tick. -/
  | told {ticker : Ticker} (waiting : job.phase = .waiting ticker)
      (cancelled : scene.moment.cancelled = true) :
      Move job scene beats { job with phase := .stopped } scene.shared beats
  /-- The tick is taken. -/
  | tick {ticker : Ticker} (waiting : job.phase = .waiting ticker)
      (due : ticker.due ≤ scene.moment.now) :
      Move job scene beats (job.tick ticker scene.moment scene.shared).1
        (job.tick ticker scene.moment scene.shared).2
        (beats ++ [job.beatOf scene])
  /-- A point cannot be cleaned. -/
  | rejected {ticker : Ticker} {point : Point} {rest : List Point} {outcome : Option Bool}
      {refusal : Refusal} (emitting : job.phase = .emitting ticker (point :: rest) outcome)
      (refused : point.clean = .error refusal) :
      Move job scene beats { job with phase := .emitting ticker rest outcome }
        { scene.shared with context := scene.shared.context.reject } beats
  /-- A point comes into the queue. -/
  | queued {ticker : Ticker} {point clean : Point} {rest : List Point} {outcome : Option Bool}
      {health : Health} (emitting : job.phase = .emitting ticker (point :: rest) outcome)
      (cleaned : point.clean = .ok clean)
      (kept : health.failures = scene.shared.context.health.failures) :
      Move job scene beats { job with phase := .emitting ticker rest outcome }
        ⟨{ scene.shared.context with health := health },
          scene.shared.dispatcher.enqueue job.state.name clean⟩
        (Beat.amend (fun beat => { beat with points := beat.points ++ [clean] }) beats)
  /-- A point finds the consumer gone. -/
  | closed {ticker : Ticker} {point : Point} {rest : List Point} {outcome : Option Bool}
      (emitting : job.phase = .emitting ticker (point :: rest) outcome)
      (gone : scene.shared.dispatcher.receiver = .dropped) :
      Move job scene beats { job with phase := .stopped } scene.shared beats
  /-- The points of a run are out, and the report on the collector begins. -/
  | report {ticker : Ticker} {failed : Bool} {context : Context} {batch : List Point}
      (emitting : job.phase = .emitting ticker [] (some failed))
      (reports : scene.shared.context.collectorStats = true)
      (made : scene.shared.context.addAll [] scene.moment.timestamp
        (job.state.selfReadings failed) = (context, batch)) :
      Move job scene beats { job with phase := .emitting ticker batch none }
        { scene.shared with context := context }
        (Beat.amend (fun beat => { beat with reported := some scene.moment }) beats)
  /-- The points of a run are out, and there is no report. -/
  | quiet {ticker : Ticker} {failed : Bool}
      (emitting : job.phase = .emitting ticker [] (some failed))
      (silent : scene.shared.context.collectorStats = false) :
      Move job scene beats { job with phase := .waiting ticker } scene.shared beats
  /-- The report is out. -/
  | done {ticker : Ticker} (emitting : job.phase = .emitting ticker [] none) :
      Move job scene beats { job with phase := .waiting ticker } scene.shared beats

theorem note_tick {job : IntervalJob} {ticker : Ticker} (waiting : job.phase = .waiting ticker)
    (scene : Scene) (beats : List Beat) :
    job.note scene (job.tick ticker scene.moment scene.shared).1
      (job.tick ticker scene.moment scene.shared).2 beats = beats ++ [job.beatOf scene] := by
  have calls : ((job.tick ticker scene.moment scene.shared).1.calls.drop job.calls.length).map
      (·.2) = (job.state.tick scene.shared.context scene.moment.timestamp
        scene.moment.surroundings).calls := by
    simp [tick, Function.comp_def]
  unfold note
  rw [waiting, calls]
  simp only [tick]
  cases (job.state.tick scene.shared.context scene.moment.timestamp
    scene.moment.surroundings).failed <;> rfl

/-- Of a step while points are put into the queue those are seen that came in, unless the step
begins the report. -/
theorem note_emitting {job next : IntervalJob} {ticker : Ticker} {rest : List Point}
    {outcome : Option Bool} (emitting : job.phase = .emitting ticker rest outcome) (scene : Scene)
    {after : Shared} (beats : List Beat) {points : List Point}
    (queue : after.dispatcher.queue = scene.shared.dispatcher.queue ++ points)
    (goesOn : rest ≠ [] ∨ ∀ ticker rest outcome, next.phase ≠ .emitting ticker rest outcome) :
    job.note scene next after beats =
      Beat.amend (fun beat => { beat with points := beat.points ++ points }) beats := by
  rw [note, emitting, queue, List.drop_left]
  cases rest with
  | cons point rest => cases outcome <;> rfl
  | nil =>
    have still := goesOn.resolve_left fun more => more rfl
    cases outcome with
    | none => rfl
    | some failed =>
      cases phase : next.phase with
      | emitting ticker rest outcome => exact absurd phase (still ticker rest outcome)
      | waiting ticker => rfl
      | stopped => rfl

/-- A step that leaves the queue as it is, and does not begin the report, is not seen. -/
theorem note_silent {job next : IntervalJob} {ticker : Ticker} {rest : List Point}
    {outcome : Option Bool} (emitting : job.phase = .emitting ticker rest outcome) (scene : Scene)
    {after : Shared} (beats : List Beat)
    (queue : after.dispatcher.queue = scene.shared.dispatcher.queue)
    (goesOn : rest ≠ [] ∨ ∀ ticker rest outcome, next.phase ≠ .emitting ticker rest outcome) :
    job.note scene next after beats = beats := by
  rw [note_emitting emitting scene beats (queue.trans (List.append_nil _).symm) goesOn]
  simp only [List.append_nil]
  exact Beat.amend_self beats

theorem move_of_emit {job next : IntervalJob} {scene : Scene} {after : Shared} {ticker : Ticker}
    {point : Point} {rest : List Point} {outcome : Option Bool} (beats : List Beat)
    (emitting : job.phase = .emitting ticker (point :: rest) outcome)
    (step : job.emit ticker point rest outcome scene.shared = some (next, after)) :
    Move job scene beats next after (job.note scene next after beats) := by
  have more : point :: rest ≠ [] := List.cons_ne_nil point rest
  have emits := scene.shared.dispatcher.emits_emit scene.shared.context.health job.state.name point
  unfold emit at step
  generalize scene.shared.dispatcher.emit scene.shared.context.health job.state.name point =
    emission at emits step
  cases emits with
  | rejected refused =>
    obtain ⟨rfl, rfl⟩ := Prod.mk.inj (Option.some.inj step)
    rw [note_silent emitting scene beats ?_ (.inl more)]
    · exact .rejected emitting refused
    · rfl
  | closed cleaned gone =>
    obtain ⟨rfl, rfl⟩ := Prod.mk.inj (Option.some.inj step)
    rw [note_silent emitting scene beats rfl (.inl more)]
    exact .closed emitting gone
  | queued cleaned here room =>
    obtain ⟨rfl, rfl⟩ := Prod.mk.inj (Option.some.inj step)
    rw [note_emitting emitting scene beats ?_ (.inl more)]
    · exact .queued emitting cleaned rfl
    · rfl
  | full cleaned here occupied => cases step

/-- Every step is one of the eight. -/
theorem move_of_step {job next : IntervalJob} {scene : Scene} {after : Shared} (beats : List Beat)
    (step : job.step? scene.moment scene.shared = some (next, after)) :
    Move job scene beats next after (job.note scene next after beats) := by
  unfold step? at step
  split at step
  · cases step
  · rename_i ticker waiting
    split at step
    · rename_i cancelled
      obtain ⟨rfl, rfl⟩ := Prod.mk.inj (Option.some.inj step)
      rw [note, waiting]
      exact .told waiting cancelled
    · split at step
      · rename_i due
        have same := Option.some.inj step
        rw [show next = (job.tick ticker scene.moment scene.shared).1 by rw [same],
          show after = (job.tick ticker scene.moment scene.shared).2 by rw [same],
          note_tick waiting]
        exact .tick waiting due
      · cases step
  · rename_i emitting
    exact move_of_emit beats emitting step
  · rename_i ticker failed emitting
    split at step
    · rename_i reports
      unfold reportSelf at step
      cases made : scene.shared.context.addAll [] scene.moment.timestamp
        (job.state.selfReadings failed) with
      | mk context batch =>
        rw [made] at step
        obtain ⟨rfl, rfl⟩ := Prod.mk.inj (Option.some.inj step)
        rw [note, emitting]
        exact .report emitting reports made
    · rename_i silent
      obtain ⟨rfl, rfl⟩ := Prod.mk.inj (Option.some.inj step)
      rw [note_silent emitting scene beats rfl (.inr ?_)]
      · exact .quiet emitting (eq_false_of_ne_true silent)
      · exact fun _ _ _ => by simp
  · rename_i ticker emitting
    obtain ⟨rfl, rfl⟩ := Prod.mk.inj (Option.some.inj step)
    rw [note_silent emitting scene beats rfl (.inr ?_)]
    · exact .done emitting
    · exact fun _ _ _ => by simp

/-- A tick that changes nothing leaves the job waiting for the next one. -/
theorem step_of_idle {job : IntervalJob} {scene : Scene} {ticker : Ticker} {state : IntervalState}
    {calls : List Call} (waiting : job.phase = .waiting ticker)
    (going : scene.moment.cancelled = false) (due : ticker.due ≤ scene.moment.now)
    (idle : job.state.tick scene.shared.context scene.moment.timestamp scene.moment.surroundings =
      ⟨state, scene.shared.context, [], none, calls⟩) :
    job.step? scene.moment scene.shared =
      some (⟨state, .waiting (ticker.taken scene.moment.now),
        job.calls ++ calls.map fun call => (scene.moment.now, call)⟩, scene.shared) := by
  rw [step?, waiting]
  dsimp only
  rw [going, if_neg Bool.false_ne_true, if_pos due, tick, idle]

/-- The job offers a point for which there is no room. -/
def HeldUp (job : IntervalJob) (shared : Shared) : Prop :=
  ∃ ticker point rest outcome, job.phase = .emitting ticker (point :: rest) outcome ∧
    shared.dispatcher.capacity ≤ shared.dispatcher.queue.length

/-- A job that can make no step has stopped, waits for a later moment, or waits for room. -/
theorem still_of_no_step {job : IntervalJob} {scene : Scene}
    (still : job.step? scene.moment scene.shared = none) :
    job.phase = .stopped ∨
      (∃ ticker, job.phase = .waiting ticker ∧ scene.moment.now < ticker.due) ∨
      job.HeldUp scene.shared := by
  unfold step? at still
  split at still
  · rename_i stopped
    exact .inl stopped
  · rename_i ticker waiting
    split at still
    · cases still
    · split at still
      · cases still
      · rename_i early
        exact .inr (.inl ⟨ticker, waiting, Nat.lt_of_not_le early⟩)
  · rename_i ticker point rest outcome emitting
    have emits :=
      scene.shared.dispatcher.emits_emit scene.shared.context.health job.state.name point
    unfold emit at still
    generalize scene.shared.dispatcher.emit scene.shared.context.health job.state.name point =
      emission at emits still
    cases emits with
    | rejected => cases still
    | closed => cases still
    | queued => cases still
    | full cleaned here occupied =>
      exact .inr (.inr ⟨ticker, point, rest, outcome, emitting, occupied⟩)
  · split at still <;> cases still
  · cases still

end IntervalJob

end Telemetry
