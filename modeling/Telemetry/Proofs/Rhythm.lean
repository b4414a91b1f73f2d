/-
This file says when the ticks of a job come.

A rhythm alone already keeps the ticks apart: whatever keeps a job from its ticks, each is taken
when it is due or later, and the next one is due a period after that, less the slack. When nothing
keeps the job from its ticks, and the clock does not pass a moment at which one is due, each is
taken at the very moment at which it is due.
-/

import Telemetry.Proofs.Moves

namespace Telemetry

/-- An element of a list with one more at its end is an old one, or it is that one. -/
theorem mem_at_append_singleton {Element : Type} {elements : List Element} {last element : Element}
    {number : Nat} (found : (elements ++ [last])[number]? = some element) :
    elements[number]? = some element ∨ number = elements.length ∧ element = last := by
  rcases Nat.lt_or_ge number elements.length with before | after
  · exact .inl (by rwa [List.getElem?_append_left before] at found)
  · rw [List.getElem?_append_right after] at found
    obtain ⟨inside, same⟩ := List.getElem?_eq_some_iff.mp found
    rw [List.length_singleton] at inside
    exact .inr ⟨by omega, by rw [← same, List.getElem_singleton]⟩

/-! ### The rhythm alone -/

namespace Ticker

/-- The rhythm that is left after ticks were taken at some moments. -/
inductive Takes (ticker : Ticker) : List Nat → Ticker → Prop where
  | none : Takes ticker [] ticker
  | tick {times : List Nat} {later : Ticker} {now : Nat} :
      Takes ticker times later → later.due ≤ now → Takes ticker (times ++ [now]) (later.taken now)

/-- When a tick is due at the earliest, by its number. -/
def earliest (ticker : Ticker) (number : Nat) : Nat := ticker.due + number * ticker.period

theorem earliest_succ (ticker : Ticker) (number : Nat) :
    ticker.earliest (number + 1) = ticker.earliest number + ticker.period := by
  rw [earliest, earliest, Nat.succ_mul, Nat.add_assoc]

theorem earliest_mono (ticker : Ticker) {number other : Nat} (fewer : number ≤ other) :
    ticker.earliest number ≤ ticker.earliest other :=
  Nat.add_le_add_left (Nat.mul_le_mul_right _ fewer) _

/-- After a tick at a moment the next one is due a period later, or a period after this one was. -/
theorem due_taken (ticker : Ticker) (now : Nat) :
    ticker.due + slack < now ∧ (ticker.taken now).due = now + ticker.period ∨
      now ≤ ticker.due + slack ∧ (ticker.taken now).due = ticker.due + ticker.period := by
  unfold taken
  split
  · rename_i late
    exact .inl ⟨late, rfl⟩
  · rename_i early
    exact .inr ⟨Nat.le_of_not_lt early, rfl⟩

variable {ticker later : Ticker} {times : List Nat}

theorem Takes.period (takes : ticker.Takes times later) : later.period = ticker.period := by
  induction takes with
  | none => rfl
  | tick _ _ inductionHypothesis => rw [taken_period, inductionHypothesis]

theorem Takes.due (takes : ticker.Takes times later) :
    ticker.earliest times.length ≤ later.due := by
  induction takes with
  | none => simp [earliest]
  | @tick times later now takes due inductionHypothesis =>
    have period := takes.period
    rw [List.length_append, List.length_singleton, earliest_succ]
    rcases later.due_taken now with ⟨_, next⟩ | ⟨_, next⟩
    · omega
    · omega

/-- No tick comes early. -/
theorem Takes.early (takes : ticker.Takes times later) {number time : Nat}
    (found : times[number]? = some time) : ticker.earliest number ≤ time := by
  induction takes with
  | none => simp at found
  | @tick times later now takes due inductionHypothesis =>
    rcases mem_at_append_singleton found with before | ⟨rfl, rfl⟩
    · exact inductionHypothesis before
    · exact Nat.le_trans takes.due due

/-- The next tick is due a period after the last one, less the slack. -/
theorem Takes.last (takes : ticker.Takes times later) {time : Nat}
    (found : times.getLast? = some time) : time + ticker.period ≤ later.due + slack := by
  cases takes with
  | none => simp at found
  | @tick times later now takes due =>
    have period := takes.period
    rw [List.getLast?_append, List.getLast?_singleton, Option.some_or] at found
    have same := Option.some.inj found
    rcases later.due_taken now with ⟨_, next⟩ | ⟨_, next⟩
    · omega
    · omega

/-- Ticks that follow each other are a period apart, less the slack. -/
theorem Takes.apart (takes : ticker.Takes times later) {number time next : Nat}
    (found : times[number]? = some time) (foundNext : times[number + 1]? = some next) :
    time + ticker.period ≤ next + slack := by
  induction takes with
  | none => simp at found
  | @tick times later now takes due inductionHypothesis =>
    rcases mem_at_append_singleton foundNext with before | ⟨same, rfl⟩
    · obtain ⟨inside, _⟩ := List.getElem?_eq_some_iff.mp before
      rw [List.getElem?_append_left (by omega)] at found
      exact inductionHypothesis found before
    · rw [List.getElem?_append_left (by omega)] at found
      have lastTime : times.getLast? = some time := by
        rw [List.getLast?_eq_getElem?, ← same]
        exact found
      have period := takes.last lastTime
      omega

end Ticker

/-! ### The rhythm of a job -/

/-- The moments of some ticks. -/
def Beat.times (beats : List Beat) : List Nat := beats.map (·.moment.now)

theorem Beat.getElem?_times {beats : List Beat} {number : Nat} {beat : Beat}
    (found : beats[number]? = some beat) : (Beat.times beats)[number]? = some beat.moment.now := by
  rw [times, List.getElem?_map, found]
  rfl

theorem Beat.times_amend (change : Beat → Beat) (kept : ∀ beat, (change beat).moment = beat.moment)
    (beats : List Beat) : Beat.times (Beat.amend change beats) = Beat.times beats := by
  rcases List.eq_nil_or_concat beats with rfl | ⟨earlier, last, rfl⟩
  · rfl
  · rw [List.concat_eq_append, Beat.amend_append_singleton]
    simp [Beat.times, kept]

namespace IntervalJob

/-- The rhythm of a job that has not stopped. -/
def ticker? (job : IntervalJob) : Option Ticker :=
  match job.phase with
  | .waiting ticker => some ticker
  | .emitting ticker _ _ => some ticker
  | .stopped => none

/-- What a step is to the rhythm: a tick, or nothing, or the end of it. -/
theorem Move.rhythm {job next : IntervalJob} {scene : Scene} {after : Shared}
    {beats seen : List Beat} (move : job.Move scene beats next after seen) :
    (∃ ticker, job.ticker? = some ticker ∧ ticker.due ≤ scene.moment.now ∧
        next.ticker? = some (ticker.taken scene.moment.now) ∧
        Beat.times seen = Beat.times beats ++ [scene.moment.now]) ∨
      Beat.times seen = Beat.times beats ∧
        (next.ticker? = job.ticker? ∨ next.ticker? = none ∧
          (scene.moment.cancelled = true ∨ scene.shared.dispatcher.receiver = .dropped)) := by
  have amended : ∀ change : Beat → Beat, (∀ beat, (change beat).moment = beat.moment) →
      Beat.times (Beat.amend change beats) = Beat.times beats := fun change kept =>
    Beat.times_amend change kept beats
  cases move with
  | told waiting cancelled => exact .inr ⟨rfl, .inr ⟨rfl, .inl cancelled⟩⟩
  | @tick ticker waiting due =>
    refine .inl ⟨ticker, by rw [ticker?, waiting], due, ?_, ?_⟩
    · simp only [ticker?, IntervalJob.tick]
      cases (job.state.tick scene.shared.context scene.moment.timestamp
        scene.moment.surroundings).failed <;> rfl
    · rw [Beat.times, List.map_append]
      rfl
  | rejected emitting => exact .inr ⟨rfl, .inl (by rw [ticker?, ticker?, emitting])⟩
  | queued emitting =>
    exact .inr ⟨amended _ fun _ => rfl, .inl (by rw [ticker?, ticker?, emitting])⟩
  | closed emitting gone => exact .inr ⟨rfl, .inr ⟨rfl, .inr gone⟩⟩
  | report emitting =>
    exact .inr ⟨amended _ fun _ => rfl, .inl (by rw [ticker?, ticker?, emitting])⟩
  | quiet emitting => exact .inr ⟨rfl, .inl (by rw [ticker?, ticker?, emitting])⟩
  | done emitting => exact .inr ⟨rfl, .inl (by rw [ticker?, ticker?, emitting])⟩

variable {Others : IntervalJob → Scene → Scene → Prop} {start job : IntervalJob}
  {origin scene : Scene} {beats : List Beat}

/-- In every course the ticks are those of a rhythm. -/
theorem Course.takes {first : Ticker} (course : Course Others start origin beats job scene)
    (starts : start.ticker? = some first) :
    ∃ ticker, first.Takes (Beat.times beats) ticker ∧
      ∀ now, job.ticker? = some now → now = ticker := by
  induction course with
  | start =>
    refine ⟨first, .none, fun now same => ?_⟩
    rw [starts] at same
    exact (Option.some.inj same).symm
  | others _ _ inductionHypothesis => exact inductionHypothesis
  | step _ step inductionHypothesis =>
    obtain ⟨ticker, takes, current⟩ := inductionHypothesis
    rcases (move_of_step _ step).rhythm with ⟨now, here, due, next, times⟩ | ⟨times, next⟩
    · rw [current now here] at due next
      refine ⟨_, times ▸ takes.tick due, fun later same => ?_⟩
      rw [next] at same
      exact (Option.some.inj same).symm
    · refine ⟨ticker, times ▸ takes, fun later same => ?_⟩
      rcases next with kept | ⟨ended, _⟩
      · exact current later (kept ▸ same)
      · rw [ended] at same
        cases same

/-! ### A job that nothing keeps from its ticks -/

/-- The others are prompt: they tell nobody to stop, and while a job has not stopped they move the
clock only when it waits for a tick, and no further than to that tick. -/
structure Prompt (job : IntervalJob) (scene later : Scene) : Prop where
  going : later.moment.cancelled = false
  forward : scene.moment.now ≤ later.moment.now
  surroundings : later.moment.surroundings = scene.moment.surroundings
  gone : scene.shared.dispatcher.receiver = .dropped → later.shared.dispatcher.receiver = .dropped
  clock : later.moment.now ≠ scene.moment.now → ∀ ticker, job.ticker? = some ticker →
    job.phase = .waiting ticker ∧ later.moment.now ≤ ticker.due

/-- The job is punctual: its ticks were taken when they were due, and the next one is still to
come. -/
structure Punctual (first : Ticker) (beats : List Beat) (job : IntervalJob) (scene : Scene) :
    Prop where
  going : scene.moment.cancelled = false
  times : ∀ number time, (Beat.times beats)[number]? = some time → time = first.earliest number
  passed : ∀ (number time : Nat), (Beat.times beats)[number]? = some time →
    time ≤ scene.moment.now
  period : ∀ ticker, job.ticker? = some ticker → ticker.period = first.period
  due : ∀ ticker, job.ticker? = some ticker → ticker.due = first.earliest beats.length
  now : ∀ ticker, job.ticker? = some ticker → scene.moment.now ≤ ticker.due
  stopped : job.ticker? = none → scene.shared.dispatcher.receiver = .dropped

/-- The job is past a moment: the clock is, or the job waits for a later one. -/
def IsPast (job : IntervalJob) (scene : Scene) (moment : Nat) : Prop :=
  moment < scene.moment.now ∨ ∃ ticker, job.phase = .waiting ticker ∧ moment < ticker.due

theorem ticker?_eq_none {job : IntervalJob} : job.ticker? = none ↔ job.phase = .stopped := by
  unfold ticker?
  split <;> simp [*]

theorem Punctual.goesOn {first : Ticker} (punctual : Punctual first beats job scene)
    (opened : scene.shared.dispatcher.receiver ≠ .dropped) : job.phase ≠ .stopped :=
  fun stopped => opened (punctual.stopped (ticker?_eq_none.mpr stopped))

/-- The next tick is due after every moment that the job is past. -/
theorem Punctual.lt_earliest {first : Ticker} (punctual : Punctual first beats job scene)
    (opened : scene.shared.dispatcher.receiver ≠ .dropped) {moment : Nat}
    (past : job.IsPast scene moment) : moment < first.earliest beats.length := by
  cases rhythm : job.ticker? with
  | none => exact absurd (punctual.stopped rhythm) opened
  | some ticker =>
    rw [← punctual.due ticker rhythm]
    rcases past with passed | ⟨other, waiting, later⟩
    · exact Nat.lt_of_lt_of_le passed (punctual.now ticker rhythm)
    · rw [ticker?, waiting] at rhythm
      rwa [← Option.some.inj rhythm]

theorem Punctual.others {first : Ticker} (punctual : Punctual first beats job scene) {later : Scene}
    (prompt : job.Prompt scene later) : Punctual first beats job later where
  going := prompt.going
  times := punctual.times
  passed number time found := Nat.le_trans (punctual.passed number time found) prompt.forward
  period := punctual.period
  due := punctual.due
  now ticker here := by
    by_cases moved : later.moment.now = scene.moment.now
    · rw [moved]
      exact punctual.now ticker here
    · exact (prompt.clock moved ticker here).2
  stopped ended := prompt.gone (punctual.stopped ended)

theorem Punctual.step {first : Ticker} (punctual : Punctual first beats job scene)
    {next : IntervalJob} {after : Shared}
    (step : job.step? scene.moment scene.shared = some (next, after)) :
    Punctual first (job.note scene next after beats) next { scene with shared := after } := by
  have receiver := job.step?_receiver step
  have move := move_of_step beats step
  generalize job.note scene next after beats = seen at move
  rcases move.rhythm with ⟨ticker, here, due, rhythm, times⟩ | ⟨times, rhythm⟩
  · -- The tick is due, and the clock has not passed it. So it is taken when it is due.
    have length : seen.length = beats.length + 1 := by
      simpa [Beat.times] using congrArg List.length times
    have period := punctual.period ticker here
    have expected := punctual.due ticker here
    have onTime : scene.moment.now = ticker.due :=
      Nat.le_antisymm (punctual.now ticker here) due
    have next : (ticker.taken scene.moment.now).due = ticker.due + ticker.period := by
      rcases ticker.due_taken scene.moment.now with ⟨late, _⟩ | ⟨_, next⟩
      · omega
      · exact next
    refine ⟨punctual.going, fun number time found => ?_, fun number time found => ?_,
      fun later same => ?_, fun later same => ?_, fun later same => ?_, fun ended => ?_⟩
    · rw [times] at found
      rcases mem_at_append_singleton found with before | ⟨rfl, rfl⟩
      · exact punctual.times number time before
      · rw [onTime, expected, Beat.times, List.length_map]
    · rw [times] at found
      rcases mem_at_append_singleton found with before | ⟨rfl, rfl⟩
      · exact punctual.passed number time before
      · exact Nat.le_refl _
    · rw [← Option.some.inj (rhythm.symm.trans same), Ticker.taken_period, period]
    · rw [← Option.some.inj (rhythm.symm.trans same), next, length, Ticker.earliest_succ, expected,
        period]
    · rw [← Option.some.inj (rhythm.symm.trans same), next, onTime]
      exact Nat.le_add_right _ _
    · rw [rhythm] at ended
      cases ended
  · have length : seen.length = beats.length := by
      simpa [Beat.times] using congrArg List.length times
    have kept : ∀ later, next.ticker? = some later → job.ticker? = some later := by
      intro later same
      rcases rhythm with unchanged | ⟨ended, _⟩
      · rwa [unchanged] at same
      · rw [ended] at same
        cases same
    refine ⟨punctual.going, fun number time found => punctual.times number time (times ▸ found),
      fun number time found => punctual.passed number time (times ▸ found),
      fun later same => punctual.period later (kept later same),
      fun later same => length ▸ punctual.due later (kept later same),
      fun later same => punctual.now later (kept later same), fun ended => ?_⟩
    show after.dispatcher.receiver = .dropped
    rw [receiver]
    rcases rhythm with unchanged | ⟨_, cancelled | gone⟩
    · exact punctual.stopped (unchanged ▸ ended)
    · rw [punctual.going] at cancelled
      cases cancelled
    · exact gone

/-- Among prompt others a job is punctual. -/
theorem Course.punctual {first : Ticker} (course : Course Prompt start origin beats job scene)
    (starts : start.phase = .waiting first) (early : origin.moment.now ≤ first.due)
    (going : origin.moment.cancelled = false) : Punctual first beats job scene := by
  induction course with
  | start =>
    have rhythm : start.ticker? = some first := by rw [ticker?, starts]
    refine ⟨going, fun number time found => ?_, fun number time found => ?_,
      fun ticker same => ?_, fun ticker same => ?_, fun ticker same => ?_, fun ended => ?_⟩
    · simp [Beat.times] at found
    · simp [Beat.times] at found
    · rw [← Option.some.inj (rhythm.symm.trans same)]
    · rw [← Option.some.inj (rhythm.symm.trans same)]
      simp [Ticker.earliest]
    · rwa [← Option.some.inj (rhythm.symm.trans same)]
    · rw [rhythm] at ended
      cases ended
  | others _ prompt inductionHypothesis => exact inductionHypothesis.others prompt
  | step _ step inductionHypothesis => exact inductionHypothesis.step step

end IntervalJob

end Telemetry
