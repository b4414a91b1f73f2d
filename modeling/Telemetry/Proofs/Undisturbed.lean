/-
This file says that nothing but the settings decides what is seen of a collector that is not held
up.

Among prompt others, each tick is taken at a moment that the start alone determines, and the report
on it begins at the same moment. Since what is seen of a tick follows from these moments and from
the state that the ticks before have left, two courses of the same collector show the same ticks as
far as both have come.
-/

import Telemetry.Proofs.Beats

namespace Telemetry

/-- The report begins at the moment of the tick. -/
def Beat.IsSharp (beat : Beat) : Prop :=
  ∀ moment, beat.reported = some moment → moment = beat.moment

/-! ### Ticks that follow from their moments -/

section

variable {context : Context} {start state otherState : IntervalState}
  {failures count otherCount : Nat} {beats others : List Beat}

theorem reported_congr {left right : Beat} (leftSharp : left.IsSharp) (rightSharp : right.IsSharp)
    (moment : left.moment = right.moment)
    (both : left.reported.isSome = right.reported.isSome) : left.reported = right.reported := by
  cases first : left.reported with
  | none =>
    rw [first] at both
    exact (Option.isSome_eq_false_iff.mp both.symm |> Option.isNone_iff_eq_none.mp).symm
  | some later =>
    rw [first] at both
    obtain ⟨other, second⟩ := Option.isSome_iff_exists.mp both.symm
    rw [second, leftSharp later first, rightSharp other second, moment]

/-- Complete ticks are determined by their moments, when the reports begin with them. -/
theorem Complete.unique (left : Complete context start failures beats state count)
    (right : Complete context start failures others otherState otherCount)
    (moments : Beat.moments beats = Beat.moments others) (sharp : ∀ beat ∈ beats, beat.IsSharp)
    (otherSharp : ∀ beat ∈ others, beat.IsSharp) :
    beats = others ∧ state = otherState ∧ count = otherCount := by
  induction left generalizing others otherState otherCount with
  | none =>
    cases right with
    | none => exact ⟨rfl, rfl, rfl⟩
    | tick => simp [Beat.moments] at moments
  | @tick beats state count complete moment reported due inductionHypothesis =>
    cases right with
    | none => simp [Beat.moments] at moments
    | @tick others otherState otherCount otherComplete otherMoment otherReported otherDue =>
      have split : Beat.moments beats = Beat.moments others ∧ moment = otherMoment := by
        simpa [Beat.moments, IntervalState.beat] using moments
      obtain ⟨earlier, rfl⟩ := split
      obtain ⟨rfl, rfl, rfl⟩ := inductionHypothesis otherComplete earlier
        (fun beat member => sharp beat (List.mem_append_left _ member))
        (fun beat member => otherSharp beat (List.mem_append_left _ member))
      have same : reported = otherReported :=
        reported_congr (sharp _ (List.mem_append_right _ List.mem_cons_self))
          (otherSharp _ (List.mem_append_right _ List.mem_cons_self)) rfl (due.trans otherDue.symm)
      rw [same]
      exact ⟨rfl, rfl, rfl⟩

/-- All ticks of a job are over, unless it is putting points into the queue. -/
theorem Stands.complete {phase : IntervalPhase}
    (stands : Stands context start failures beats phase state count)
    (ended : phase = .stopped ∨ ∃ ticker, phase = .waiting ticker) :
    Complete context start failures beats state count := by
  cases stands with
  | stopped => exact .none
  | waiting _ complete => exact complete
  | running => simp at ended
  | reporting => simp at ended

/-- A job that puts points into the queue has taken a tick. -/
theorem Stands.ne_nil {ticker : Ticker} {rest : List Point} {outcome : Option Bool}
    (stands : Stands context start failures beats (.emitting ticker rest outcome) state count) :
    beats ≠ [] := by
  cases stands <;> simp

end

/-! ### Reports without delay -/

/-- What holds of some ticks and is kept of the last one when it changes holds of them after that.
-/
theorem Beat.forall_amend {Holds : Beat → Prop} {change : Beat → Beat} {beats : List Beat}
    (all : ∀ beat ∈ beats, Holds beat)
    (last : ∀ beat, beats.getLast? = some beat → Holds beat → Holds (change beat)) :
    ∀ beat ∈ Beat.amend change beats, Holds beat := by
  rcases List.eq_nil_or_concat beats with rfl | ⟨earlier, final, rfl⟩
  · exact all
  · rw [List.concat_eq_append] at all last ⊢
    rw [Beat.amend_append_singleton]
    intro beat member
    rcases List.mem_append.mp member with before | same
    · exact all beat (List.mem_append_left _ before)
    · rw [List.mem_singleton.mp same]
      exact last final List.getLast?_concat (all final (by simp))

theorem Beat.getLast?_amend (change : Beat → Beat) (beats : List Beat) :
    (Beat.amend change beats).getLast? = beats.getLast?.map change := by
  rcases List.eq_nil_or_concat beats with rfl | ⟨earlier, final, rfl⟩
  · rfl
  · rw [List.concat_eq_append, Beat.amend_append_singleton, List.getLast?_concat,
      List.getLast?_concat]
    rfl

namespace IntervalJob

/-- The ticks were taken in the surroundings of the scene, the reports on them began at once, and a
tick whose points are still coming is one of the present moment. -/
structure Sharp (beats : List Beat) (job : IntervalJob) (scene : Scene) : Prop where
  going : scene.moment.cancelled = false
  moment : ∀ beat ∈ beats, beat.moment = { scene.moment with now := beat.moment.now }
  report : ∀ beat ∈ beats, beat.IsSharp
  current : ∀ ticker rest outcome, job.phase = .emitting ticker rest outcome →
    ∀ beat, beats.getLast? = some beat → beat.moment = scene.moment

variable {beats : List Beat} {job next : IntervalJob} {scene later : Scene} {after : Shared}

theorem Sharp.others (sharp : Sharp beats job scene) (prompt : job.Prompt scene later) :
    Sharp beats job later := by
  have same : ∀ now, { later.moment with now := now } = { scene.moment with now := now } := by
    intro now
    show Moment.mk now _ _ = Moment.mk now _ _
    rw [prompt.going, prompt.surroundings, sharp.going]
  refine ⟨prompt.going, fun beat member => ?_, sharp.report,
    fun ticker rest outcome emitting beat last => ?_⟩
  · rw [same]
    exact sharp.moment beat member
  · -- The clock stands still while the job is not waiting for a tick.
    have still : later.moment.now = scene.moment.now := by
      refine Decidable.byContradiction fun moved => ?_
      have waiting := (prompt.clock moved ticker (by rw [ticker?, emitting])).1
      rw [emitting] at waiting
      cases waiting
    rw [sharp.current ticker rest outcome emitting beat last]
    calc scene.moment = { scene.moment with now := later.moment.now } := by rw [still]
      _ = later.moment := (same _).symm

theorem Sharp.step (sharp : Sharp beats job scene)
    (step : job.step? scene.moment scene.shared = some (next, after)) :
    Sharp (job.note scene next after beats) next { scene with shared := after } := by
  have move := move_of_step beats step
  generalize job.note scene next after beats = seen at move
  cases move with
  | told _ cancelled =>
    rw [sharp.going] at cancelled
    cases cancelled
  | tick waiting due =>
    refine ⟨sharp.going, fun beat member => ?_, fun beat member => ?_,
      fun _ _ _ _ beat last => ?_⟩
    · rcases List.mem_append.mp member with before | now
      · exact sharp.moment beat before
      · rw [List.mem_singleton.mp now]
        rfl
    · rcases List.mem_append.mp member with before | now
      · exact sharp.report beat before
      · rw [List.mem_singleton.mp now]
        exact fun _ reported => by cases reported
    · rw [List.getLast?_concat] at last
      rw [← Option.some.inj last]
      rfl
  | rejected emitting =>
    exact ⟨sharp.going, sharp.moment, sharp.report,
      fun _ _ _ _ => sharp.current _ _ _ emitting⟩
  | queued emitting =>
    refine ⟨sharp.going, Beat.forall_amend sharp.moment fun _ _ holds => holds,
      Beat.forall_amend sharp.report fun _ _ holds => holds, fun _ _ _ _ beat last => ?_⟩
    rw [Beat.getLast?_amend] at last
    obtain ⟨old, found, rfl⟩ := Option.map_eq_some_iff.mp last
    exact sharp.current _ _ _ emitting old found
  | closed emitting => exact ⟨sharp.going, sharp.moment, sharp.report, nofun⟩
  | report emitting =>
    have now := sharp.current _ _ _ emitting
    refine ⟨sharp.going, Beat.forall_amend sharp.moment fun _ _ holds => holds,
      Beat.forall_amend sharp.report fun beat last _ moment reported => ?_,
      fun _ _ _ _ beat last => ?_⟩
    · rw [← Option.some.inj reported]
      exact (now beat last).symm
    · rw [Beat.getLast?_amend] at last
      obtain ⟨old, found, rfl⟩ := Option.map_eq_some_iff.mp last
      exact now old found
  | quiet emitting => exact ⟨sharp.going, sharp.moment, sharp.report, nofun⟩
  | done emitting => exact ⟨sharp.going, sharp.moment, sharp.report, nofun⟩

/-- Among prompt others the ticks of a job are sharp. -/
theorem Course.sharp {start : IntervalJob} {origin : Scene} {ticker : Ticker}
    (course : Course Prompt start origin beats job scene) (going : origin.moment.cancelled = false)
    (waiting : start.phase = .waiting ticker) : Sharp beats job scene := by
  induction course with
  | start =>
    refine ⟨going, nofun, nofun, fun ticker rest outcome emitting => ?_⟩
    rw [waiting] at emitting
    cases emitting
  | others _ prompt inductionHypothesis => exact inductionHypothesis.others prompt
  | step _ step inductionHypothesis => exact inductionHypothesis.step step

end IntervalJob

/-! ### The ticks up to a moment -/

/-- The ticks that were taken up to a moment. -/
def Beat.upTo (moment : Nat) (beats : List Beat) : List Beat :=
  beats.filter fun beat => beat.moment.now ≤ moment

/-- A moment that no tick is after cuts none off. -/
theorem Beat.upTo_eq_self {moment : Nat} {beats : List Beat}
    (passed : ∀ beat ∈ beats, beat.moment.now ≤ moment) : Beat.upTo moment beats = beats :=
  List.filter_eq_self.mpr fun beat member => decide_eq_true (passed beat member)

/-- A condition that holds exactly of the first elements of a list selects these. -/
theorem filter_eq_take {Element : Type} {elements : List Element} {keep : Element → Bool}
    {count : Nat}
    (first : ∀ number element, elements[number]? = some element →
      (keep element = true ↔ number < count)) :
    elements.filter keep = elements.take count := by
  induction elements generalizing count with
  | nil => simp
  | cons head rest inductionHypothesis =>
    have later : ∀ number element, rest[number]? = some element →
        (keep element = true ↔ number < count - 1) := by
      intro number element found
      rw [first (number + 1) element found]
      omega
    have here := first 0 head rfl
    cases count with
    | zero =>
      rw [List.filter_cons_of_neg (fun kept => absurd (here.mp kept) (Nat.lt_irrefl 0)),
        inductionHypothesis later]
      rfl
    | succ less =>
      rw [List.filter_cons_of_pos (here.mpr (Nat.succ_pos less)), inductionHypothesis later]
      rfl

/-- Up to every moment a rhythm has some first ticks. -/
theorem Ticker.exists_count (ticker : Ticker) (moment : Nat) :
    ∃ count, ∀ number, ticker.earliest number ≤ moment ↔ number < count := by
  have positive := ticker.positive
  by_cases before : moment < ticker.due
  · refine ⟨0, fun number => ⟨fun early => ?_, fun none => absurd none (Nat.not_lt_zero number)⟩⟩
    rw [earliest] at early
    omega
  · refine ⟨(moment - ticker.due) / ticker.period + 1, fun number => ?_⟩
    rw [Nat.lt_succ_iff, Nat.le_div_iff_mul_le positive, earliest]
    omega

namespace IntervalJob

variable {context : Context} {start : IntervalState} {failures : Nat} {beats : List Beat}
  {job : IntervalJob} {scene : Scene} {first : Ticker} {moment count : Nat}

/-- All ticks that were due up to a moment were taken. -/
theorem Punctual.count_le (punctual : Punctual first beats job scene)
    (opened : scene.shared.dispatcher.receiver ≠ .dropped) (past : job.IsPast scene moment)
    (counts : ∀ number, first.earliest number ≤ moment ↔ number < count) :
    count ≤ beats.length := by
  have late := punctual.lt_earliest opened past
  exact Nat.le_of_not_lt fun fewer => absurd ((counts beats.length).mpr fewer) (Nat.not_le.mpr late)

/-- And all of these are over. -/
theorem Follows.complete_take (follows : Follows context start failures beats job scene)
    (punctual : Punctual first beats job scene) (sharp : Sharp beats job scene)
    (past : job.IsPast scene moment)
    (counts : ∀ number, first.earliest number ≤ moment ↔ number < count) :
    ∃ state total, Complete context start failures (beats.take count) state total := by
  have fewer := punctual.count_le follows.opened past counts
  rcases Nat.lt_or_eq_of_le fewer with less | all
  · obtain ⟨state, total, complete, _⟩ :=
      follows.stands.at (List.getElem?_eq_getElem less)
    exact ⟨state, total, complete⟩
  · rw [all, List.take_length]
    have stands := follows.stands
    cases phase : job.phase with
    | stopped =>
      rw [phase] at stands
      exact ⟨_, _, stands.complete (.inl rfl)⟩
    | waiting ticker =>
      rw [phase] at stands
      exact ⟨_, _, stands.complete (.inr ⟨ticker, rfl⟩)⟩
    | emitting ticker rest outcome =>
      -- The last tick is one of the present moment, and that is not past.
      exfalso
      rw [phase] at stands
      have last := List.getLast?_eq_some_getLast stands.ne_nil
      have now := sharp.current ticker rest outcome phase _ last
      have time := punctual.times (beats.length - 1) _
        (Beat.getElem?_times (List.getLast?_eq_getElem?.symm.trans last))
      have positive := List.length_pos_iff.mpr stands.ne_nil
      have early := (counts (beats.length - 1)).mpr (by omega)
      rw [now] at time
      rcases past with passed | ⟨_, waiting, _⟩
      · omega
      · rw [phase] at waiting
        cases waiting

/-- What is seen up to a moment that is past are the first ticks. -/
theorem Punctual.upTo_eq (punctual : Punctual first beats job scene)
    (counts : ∀ number, first.earliest number ≤ moment ↔ number < count) :
    Beat.upTo moment beats = beats.take count := by
  refine filter_eq_take fun number beat found => ?_
  have time := punctual.times number beat.moment.now (Beat.getElem?_times found)
  rw [decide_eq_true_iff, time]
  exact counts number

/-- The moments of the first ticks. -/
theorem Punctual.moments_take (punctual : Punctual first beats job scene)
    (sharp : Sharp beats job scene) (fewer : count ≤ beats.length) :
    Beat.moments (beats.take count) =
      (List.range count).map fun number =>
        { scene.moment with now := first.earliest number } := by
  refine List.ext_getElem? fun number => ?_
  rw [Beat.moments, List.getElem?_map, List.getElem?_map, List.getElem?_take]
  rcases Nat.lt_or_ge number count with inside | outside
  · have found : beats[number]? = some (beats.get ⟨number, Nat.lt_of_lt_of_le inside fewer⟩) :=
      List.getElem?_eq_getElem _
    have time := punctual.times number _ (Beat.getElem?_times found)
    have moment := sharp.moment _ (List.mem_of_getElem? found)
    rw [if_pos inside, found, List.getElem?_range inside, Option.map_some, Option.map_some, moment,
      time]
  · rw [if_neg (Nat.not_lt.mpr outside), List.getElem?_eq_none (by simpa using outside)]
    rfl

/-- Two courses of a job among prompt others that spare it show the same ticks up to every moment
that is past in both. -/
theorem upTo_congr {otherBeats : List Beat} {otherJob : IntervalJob} {otherScene : Scene}
    (follows : Follows context start failures beats job scene)
    (otherFollows : Follows context start failures otherBeats otherJob otherScene)
    (punctual : Punctual first beats job scene)
    (otherPunctual : Punctual first otherBeats otherJob otherScene)
    (sharp : Sharp beats job scene) (otherSharp : Sharp otherBeats otherJob otherScene)
    (surroundings : scene.moment.surroundings = otherScene.moment.surroundings)
    (past : job.IsPast scene moment) (otherPast : otherJob.IsPast otherScene moment) :
    Beat.upTo moment beats = Beat.upTo moment otherBeats := by
  obtain ⟨count, counts⟩ := first.exists_count moment
  have fewer := punctual.count_le follows.opened past counts
  have otherFewer := otherPunctual.count_le otherFollows.opened otherPast counts
  obtain ⟨_, _, complete⟩ := follows.complete_take punctual sharp past counts
  obtain ⟨_, _, otherComplete⟩ :=
    otherFollows.complete_take otherPunctual otherSharp otherPast counts
  have moments : Beat.moments (beats.take count) = Beat.moments (otherBeats.take count) := by
    have same : ∀ now,
        { scene.moment with now := now } = { otherScene.moment with now := now } := by
      intro now
      show Moment.mk now _ _ = Moment.mk now _ _
      rw [surroundings, sharp.going, otherSharp.going]
    rw [punctual.moments_take sharp fewer, otherPunctual.moments_take otherSharp otherFewer]
    simp only [same]
  rw [punctual.upTo_eq counts, otherPunctual.upTo_eq counts]
  exact (complete.unique otherComplete moments
    (fun beat member => sharp.report beat (List.mem_of_mem_take member))
    (fun beat member => otherSharp.report beat (List.mem_of_mem_take member))).1

end IntervalJob

end Telemetry
