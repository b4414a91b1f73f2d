/-
This file says what becomes of a scripted collector, whatever its script.

The script gives the answers to the question whether the collector is enabled, how its preparation
ends, and what each run appends and how it ends. From these and the moments of the ticks follows all
that is seen of it. The collector is asked at every tick; it prepares itself at the first tick at
which it is enabled; and a run follows at every such tick, unless the preparation panicked at it or
the source is lost. It is lost by a panic with a loud payload and in no other way, so the attempts
before the first such panic decide what the later ticks can be.
-/

import Telemetry.Proofs.SelfReport

namespace Telemetry

/-- The point of an addition that comes into the queue, if there is one. -/
def Addition.point? (context : Context) (timestamp : Int64) : Addition → Option Point
  | .reading given => context.point? timestamp given
  | .raw point => point.clean.toOption

/-- The points of a run that come into the queue, in their order. -/
def Run.points (run : Run) (context : Context) (timestamp : Int64) : List Point :=
  run.additions.filterMap (Addition.point? context timestamp)

/-- Whether a call is the one to prepare. -/
def Call.isPreparation : Call → Bool
  | .prepare _ => true
  | _ => false

theorem Addition.point?_congr {context other : Context}
    (same : context.settings = other.settings) (timestamp : Int64) (addition : Addition) :
    addition.point? context timestamp = addition.point? other timestamp := by
  cases addition with
  | reading reading => exact Context.point?_congr same timestamp reading
  | raw point => rfl

/-- What an addition appends comes into the queue as far as it can be cleaned. -/
theorem Source.sent_append_one (context : Context) (batch : List Point) (timestamp : Int64)
    (addition : Addition) :
    sent (Source.append timestamp (context, batch) addition).2 =
      sent batch ++ (addition.point? context timestamp).toList := by
  cases addition with
  | reading reading =>
    have canonical : ∀ point ∈ (context.point? timestamp reading).toList, point.IsCanonical :=
      fun point member => Context.isCanonical_of_point? (Option.mem_toList.mp member)
    rw [Source.append, Context.add_snd, sent_append, sent_of_isCanonical canonical]
    rfl
  | raw point =>
    rw [Source.append, sent_append]
    cases cleaned : point.clean with
    | ok clean => rw [sent_cons_of_ok cleaned, Addition.point?, cleaned]; rfl
    | error refusal => rw [sent_cons_of_error cleaned, Addition.point?, cleaned]; rfl

theorem Source.sent_append (additions : List Addition) (context : Context) (batch : List Point)
    (timestamp : Int64) :
    sent (additions.foldl (Source.append timestamp) (context, batch)).2 =
      sent batch ++ additions.filterMap (Addition.point? context timestamp) := by
  induction additions generalizing context batch with
  | nil => exact (List.append_nil _).symm
  | cons addition rest inductionHypothesis =>
    have settings := (steady_append timestamp addition batch).settings context
    have same : Addition.point? (Source.append timestamp (context, batch) addition).1 timestamp =
        Addition.point? context timestamp :=
      funext fun _ => Addition.point?_congr settings timestamp _
    rw [List.foldl_cons, ← Prod.eta (Source.append timestamp (context, batch) addition),
      inductionHypothesis, sent_append_one, same, List.append_assoc]
    cases made : addition.point? context timestamp with
    | none => rw [List.filterMap_cons_none made]; rfl
    | some point => rw [List.filterMap_cons_some made]; rfl

namespace IntervalCollector

/-! ### What the script says -/

section

variable (collector : IntervalCollector) (runs : Nat → Run)

/-- Whether the collector is enabled at a tick, by the number of the tick. Without a question it
always is. -/
def isEnabled (number : Nat) (moment : Moment) : Bool :=
  match collector.enabled with
  | none => true
  | some answers => answers number moment.surroundings

/-- At how many ticks the collector was enabled. There was an attempt at each, the next one has this
number. -/
def enabledTicks (earlier : List Moment) : Nat :=
  earlier.zipIdx.countP fun tick => collector.isEnabled tick.2 tick.1

/-- The preparation that is still to be done. -/
def preparationLeft (earlier : List Moment) : Option Ending :=
  if collector.enabledTicks earlier = 0 then collector.preparation else none

/-- The payload of the panic in which the preparation ends, if it does. -/
def panic? : Option Payload := collector.preparation.bind Ending.payload?

/-- Which run is due at an attempt. None is at the first one when the preparation panics. -/
def runDue? (number : Nat) : Option Nat :=
  match collector.panic?, number with
  | some _, 0 => none
  | some _, number + 1 => some number
  | none, number => some number

/-- What an attempt makes, as long as there is a source. -/
def attemptAt (number : Nat) : Run :=
  match collector.panic?, number with
  | some payload, 0 => ⟨[], .panicked payload⟩
  | some _, number + 1 => runs number
  | none, number => runs number

/-- Whether one of the first attempts has lost the source: it ended in a panic with a loud
payload. -/
def isLostBy (number : Nat) : Bool :=
  (List.range number).any fun earlier =>
    (collector.attemptAt runs earlier).ending = .panicked .loud

/-- How many runs the first attempts have made. -/
def runsMade (number : Nat) : Nat :=
  (List.range number).countP fun earlier =>
    !collector.isLostBy runs earlier && (collector.runDue? earlier).isSome

/-- What the collector is asked to do at a tick, after some others. Without a source it is only
asked whether it is enabled. -/
def callsAt (earlier : List Moment) (moment : Moment) : List Call :=
  let enabled := collector.isEnabled earlier.length moment
  let attempt := collector.enabledTicks earlier
  (if collector.enabled.isSome then [.enabled enabled] else []) ++
    if enabled && !collector.isLostBy runs attempt then
      (collector.preparationLeft earlier).toList.map .prepare ++
        (collector.runDue? attempt).toList.map .run
    else []

/-- Whether a tick fails: the collector is enabled at it, and the source is lost, or the preparation
panics, or the run does not succeed. -/
def failsAt (earlier : List Moment) (moment : Moment) : Bool :=
  let attempt := collector.enabledTicks earlier
  collector.isEnabled earlier.length moment &&
    (collector.isLostBy runs attempt ||
      (collector.attemptAt runs attempt).ending ≠ .succeeded)

/-- How many ticks failed. -/
def failedTicks (moments : List Moment) : Nat :=
  moments.zipIdx.countP fun tick => collector.failsAt runs (moments.take tick.2) tick.1

/-- The points of the attempt at a tick. The attempt that loses the source loses its points too, and
the later ones have none. -/
def collectedAt (context : Context) (earlier : List Moment) (moment : Moment) : List Point :=
  let attempt := collector.enabledTicks earlier
  if collector.isLostBy runs (attempt + 1) then []
  else (collector.attemptAt runs attempt).points context moment.timestamp

/-- The points that come into the queue at a tick, when the report on it began at a moment. -/
def pointsAt (context : Context) (earlier : List Moment) (moment : Moment)
    (reported : Option Moment) : List Point :=
  if collector.isEnabled earlier.length moment then
    collector.collectedAt runs context earlier moment ++
      match reported with
      | none => []
      | some later =>
        collector.selfReport context later.timestamp (collector.failsAt runs earlier moment)
  else []

/-- The state of the collector after some ticks. -/
def stateAfter (earlier : List Moment) : IntervalState :=
  let attempts := collector.enabledTicks earlier
  { collector := collector
    source := if collector.isLostBy runs attempts then none else some (.script runs)
    preparation := collector.preparationLeft earlier
    questions := if collector.enabled.isSome then earlier.length else 0
    runs := collector.runsMade runs attempts }

end

/-! ### One more attempt -/

section

variable {collector : IntervalCollector} {runs : Nat → Run} {number : Nat}

theorem isLostBy_succ (collector : IntervalCollector) (runs : Nat → Run) (number : Nat) :
    collector.isLostBy runs (number + 1) =
      (collector.isLostBy runs number ||
        decide ((collector.attemptAt runs number).ending = .panicked .loud)) := by
  rw [isLostBy, List.range_succ, List.any_append, List.any_cons, List.any_nil, Bool.or_false]
  rfl

/-- A source that is lost does not come back. -/
theorem isLostBy_mono {later : Nat} (lost : collector.isLostBy runs number = true)
    (after : number ≤ later) : collector.isLostBy runs later = true := by
  obtain ⟨attempt, member, loud⟩ := List.any_eq_true.mp lost
  refine List.any_eq_true.mpr ⟨attempt, ?_, loud⟩
  rw [List.mem_range] at member ⊢
  exact Nat.lt_of_lt_of_le member after

/-- As long as no payload is loud the source is not lost, however the attempts end. -/
theorem not_isLostBy_of_quiet
    (quiet : ∀ attempt < number, (collector.attemptAt runs attempt).ending ≠ .panicked .loud) :
    collector.isLostBy runs number = false := by
  refine List.any_eq_false.mpr fun attempt member => ?_
  simpa using quiet attempt (List.mem_range.mp member)

theorem runsMade_succ (collector : IntervalCollector) (runs : Nat → Run) (number : Nat) :
    collector.runsMade runs (number + 1) = collector.runsMade runs number +
      if !collector.isLostBy runs number && (collector.runDue? number).isSome then 1 else 0 := by
  rw [runsMade, List.range_succ, List.countP_append, List.countP_singleton]
  rfl

theorem runDue?_succ (collector : IntervalCollector) (number : Nat) :
    collector.runDue? (number + 1) = some ((collector.runDue? number).elim 0 (· + 1)) := by
  unfold runDue?
  cases collector.panic? <;> cases number <;> rfl

/-- As long as there is a source, the run that is due is the next one. -/
theorem runsMade_of_due (kept : collector.isLostBy runs number = false) {run : Nat}
    (due : collector.runDue? number = some run) : collector.runsMade runs number = run := by
  induction number generalizing run with
  | zero =>
    unfold runDue? at due
    split at due
    · cases due
    · contradiction
    · exact Option.some.inj due
  | succ number inductionHypothesis =>
    rw [isLostBy_succ, Bool.or_eq_false_iff] at kept
    rw [runDue?_succ, Option.some.injEq] at due
    rw [runsMade_succ, kept.1]
    cases before : collector.runDue? number with
    | none =>
      rw [before] at due
      obtain rfl : 0 = run := due
      -- Nothing was due at the first attempt alone.
      cases number with
      | zero => rfl
      | succ number =>
        rw [runDue?_succ] at before
        cases before
    | some earlier =>
      rw [before] at due
      rw [inductionHypothesis kept.1 before]
      exact due

end

/-! ### One more tick -/

theorem enabledTicks_append (collector : IntervalCollector) (earlier : List Moment)
    (moment : Moment) :
    collector.enabledTicks (earlier ++ [moment]) =
      collector.enabledTicks earlier +
        if collector.isEnabled earlier.length moment then 1 else 0 := by
  simp [enabledTicks, List.zipIdx_append, List.countP_append, List.countP_singleton]

theorem failedTicks_append (collector : IntervalCollector) (runs : Nat → Run)
    (earlier : List Moment) (moment : Moment) :
    collector.failedTicks runs (earlier ++ [moment]) =
      collector.failedTicks runs earlier +
        if collector.failsAt runs earlier moment then 1 else 0 := by
  have before : ∀ tick ∈ earlier.zipIdx,
      collector.failsAt runs ((earlier ++ [moment]).take tick.2) tick.1 =
        collector.failsAt runs (earlier.take tick.2) tick.1 := by
    intro tick member
    have inside := (List.mem_zipIdx member).2.1
    rw [List.take_append_of_le_length (by omega)]
  rw [failedTicks, List.zipIdx_append, List.countP_append, List.zipIdx_singleton,
    List.countP_singleton, Nat.zero_add, List.take_left]
  refine congrArg (· + _) (List.countP_congr fun tick member => ?_)
  rw [before tick member]

theorem enabled?_stateAfter (collector : IntervalCollector) (runs : Nat → Run)
    (earlier : List Moment) (moment : Moment) :
    (collector.stateAfter runs earlier).enabled? moment.surroundings =
      if collector.enabled.isSome then some (collector.isEnabled earlier.length moment)
      else none := by
  unfold IntervalState.enabled? stateAfter isEnabled
  cases collector.enabled <;> rfl

theorem asked_stateAfter (collector : IntervalCollector) (runs : Nat → Run)
    (earlier : List Moment) :
    (collector.stateAfter runs earlier).asked =
      { collector.stateAfter runs earlier with
        questions := if collector.enabled.isSome then earlier.length + 1 else 0 } := by
  unfold IntervalState.asked stateAfter
  cases collector.enabled <;> rfl

/-- Only a collector that is asked can be disabled. -/
theorem isSome_enabled_of_disabled {collector : IntervalCollector} {number : Nat} {moment : Moment}
    (disabled : collector.isEnabled number moment = false) : collector.enabled.isSome = true := by
  cases asked : collector.enabled with
  | none => simp [isEnabled, asked] at disabled
  | some answers => rfl

/-- A tick at which the collector is disabled leaves everything but the number of questions as it
is. -/
theorem tick_of_disabled {collector : IntervalCollector} (runs : Nat → Run)
    {earlier : List Moment} {moment : Moment}
    (disabled : collector.isEnabled earlier.length moment = false) (context : Context) :
    (collector.stateAfter runs earlier).tickAt context moment =
      ⟨(collector.stateAfter runs earlier).asked, context, [], none, [.enabled false]⟩ := by
  rw [IntervalState.tickAt, IntervalState.tick, enabled?_stateAfter,
    if_pos (isSome_enabled_of_disabled disabled), disabled]

/-- A tick at which the collector is enabled is an attempt. -/
theorem tick_of_enabled {collector : IntervalCollector} (runs : Nat → Run)
    {earlier : List Moment} {moment : Moment}
    (enabled : collector.isEnabled earlier.length moment = true) (context : Context) :
    (collector.stateAfter runs earlier).tickAt context moment =
      let collected := (collector.stateAfter runs earlier).asked.collect context moment.timestamp
        moment.surroundings
      { collected with
        calls :=
          (if collector.enabled.isSome then [.enabled true] else []) ++ collected.calls } := by
  rw [IntervalState.tickAt, IntervalState.tick, enabled?_stateAfter, enabled]
  cases collector.enabled <;> rfl

section

variable {collector : IntervalCollector} {earlier : List Moment} {moment : Moment}

theorem stateAfter_of_disabled (runs : Nat → Run)
    (disabled : collector.isEnabled earlier.length moment = false) :
    collector.stateAfter runs (earlier ++ [moment]) =
      (collector.stateAfter runs earlier).asked := by
  have same : collector.enabledTicks (earlier ++ [moment]) = collector.enabledTicks earlier := by
    simp [enabledTicks_append, disabled]
  rw [asked_stateAfter, stateAfter, stateAfter, preparationLeft, preparationLeft, same,
    List.length_append, List.length_singleton]

/-- After a tick at which the collector was enabled there is nothing left to prepare. -/
theorem stateAfter_of_enabled (runs : Nat → Run)
    (enabled : collector.isEnabled earlier.length moment = true) :
    collector.stateAfter runs (earlier ++ [moment]) =
      { (collector.stateAfter runs earlier).asked with
        source := if collector.isLostBy runs (collector.enabledTicks earlier + 1) then none
          else some (.script runs)
        preparation := none
        runs := collector.runsMade runs (collector.enabledTicks earlier + 1) } := by
  have more : collector.enabledTicks (earlier ++ [moment]) =
      collector.enabledTicks earlier + 1 := by
    simp [enabledTicks_append, enabled]
  rw [asked_stateAfter, stateAfter, preparationLeft, more, if_neg (Nat.succ_ne_zero _),
    List.length_append, List.length_singleton]
  rfl

/-- Either the preparation panics at the next attempt, or a run is due. -/
theorem exists_payload_or_due (collector : IntervalCollector) (runs : Nat → Run)
    (earlier : List Moment) :
    (∃ payload, (collector.preparationLeft earlier).bind Ending.payload? = some payload ∧
        collector.runDue? (collector.enabledTicks earlier) = none ∧
        collector.attemptAt runs (collector.enabledTicks earlier) = ⟨[], .panicked payload⟩) ∨
      ∃ number, (collector.preparationLeft earlier).bind Ending.payload? = none ∧
        collector.runDue? (collector.enabledTicks earlier) = some number ∧
        collector.attemptAt runs (collector.enabledTicks earlier) = runs number := by
  unfold preparationLeft runDue? attemptAt panic?
  cases collector.enabledTicks earlier with
  | zero =>
    rw [if_pos rfl]
    cases collector.preparation.bind Ending.payload? with
    | none => exact .inr ⟨_, rfl, rfl, rfl⟩
    | some payload => exact .inl ⟨_, rfl, rfl, rfl⟩
  | succ number =>
    rw [if_neg (Nat.succ_ne_zero number)]
    cases collector.preparation.bind Ending.payload? with
    | none => exact .inr ⟨_, rfl, rfl, rfl⟩
    | some payload => exact .inr ⟨_, rfl, rfl, rfl⟩

end

/-- A scripted run at a tick, after what is left of the preparation. -/
theorem attempt_script (runs : Nat → Run) (preparation : Option Ending) (number : Nat)
    (context : Context) (timestamp : Int64) (surroundings : Surroundings)
    (goesOn : preparation.bind Ending.payload? = none) :
    IntervalState.attempt (.script runs) preparation number context timestamp surroundings =
      let collected := (runs number).additions.foldl (Source.append timestamp) (context, [])
      ⟨.script runs, number + 1, collected.1, collected.2, (runs number).ending,
        preparation.toList.map .prepare ++ [.run number]⟩ := by
  rw [IntervalState.attempt, goesOn]
  rfl

/-- The preparation panics, and no run follows. -/
theorem attempt_of_panic (source : Source) (preparation : Option Ending) (number : Nat)
    (context : Context) (timestamp : Int64) (surroundings : Surroundings) {payload : Payload}
    (panics : preparation.bind Ending.payload? = some payload) :
    IntervalState.attempt source preparation number context timestamp surroundings =
      ⟨source, number, context, [], .panicked payload, preparation.toList.map .prepare⟩ := by
  rw [IntervalState.attempt, panics]

/-- A tick at which the collector is enabled but has lost its source. -/
theorem tick_of_lost {collector : IntervalCollector} {runs : Nat → Run} {earlier : List Moment}
    {moment : Moment} (enabled : collector.isEnabled earlier.length moment = true)
    (lost : collector.isLostBy runs (collector.enabledTicks earlier) = true) (context : Context) :
    let tick := (collector.stateAfter runs earlier).tickAt context moment
    tick.state = collector.stateAfter runs (earlier ++ [moment]) ∧
      tick.calls = collector.callsAt runs earlier moment ∧
      tick.failed = some (collector.failsAt runs earlier moment) ∧
      sent tick.batch = collector.collectedAt runs context earlier moment := by
  have later : collector.isLostBy runs (collector.enabledTicks earlier + 1) = true :=
    isLostBy_mono lost (Nat.le_succ _)
  have second : collector.enabledTicks earlier ≠ 0 := fun first => by
    rw [first] at lost
    cases lost
  have prepared : collector.preparationLeft earlier = none := if_neg second
  rw [tick_of_enabled runs enabled, stateAfter_of_enabled runs enabled, callsAt, failsAt,
    collectedAt, enabled, lost, later, asked_stateAfter, runsMade_succ, lost]
  dsimp only [IntervalState.collect, stateAfter]
  rw [lost, prepared]
  refine ⟨rfl, ?_, rfl, rfl⟩
  simp [IntervalState.unavailable]

/-- A tick at which the collector is enabled and has its source. -/
theorem tick_of_kept {collector : IntervalCollector} {runs : Nat → Run} {earlier : List Moment}
    {moment : Moment} (enabled : collector.isEnabled earlier.length moment = true)
    (kept : collector.isLostBy runs (collector.enabledTicks earlier) = false) (context : Context) :
    let tick := (collector.stateAfter runs earlier).tickAt context moment
    tick.state = collector.stateAfter runs (earlier ++ [moment]) ∧
      tick.calls = collector.callsAt runs earlier moment ∧
      tick.failed = some (collector.failsAt runs earlier moment) ∧
      sent tick.batch = collector.collectedAt runs context earlier moment := by
  rw [tick_of_enabled runs enabled, stateAfter_of_enabled runs enabled, callsAt, failsAt,
    collectedAt, enabled, kept, asked_stateAfter, runsMade_succ, kept, isLostBy_succ, kept]
  dsimp only [IntervalState.collect, stateAfter]
  rw [kept, if_neg Bool.false_ne_true]
  dsimp only
  rcases collector.exists_payload_or_due runs earlier with
    ⟨payload, panics, due, made⟩ | ⟨number, goesOn, due, made⟩
  · rw [due, made, attempt_of_panic _ _ _ _ _ _ panics]
    cases payload <;> exact ⟨rfl, by simp, rfl, rfl⟩
  · rw [due, made, runsMade_of_due kept due, attempt_script _ _ _ _ _ _ goesOn]
    dsimp only [Attempt.returned?]
    by_cases loud : (runs number).ending = .panicked .loud
    · rw [if_pos loud, loud]
      exact ⟨rfl, rfl, rfl, rfl⟩
    · rw [if_neg loud, decide_eq_false loud]
      exact ⟨rfl, rfl, rfl,
        Source.sent_append (runs number).additions context [] moment.timestamp⟩

/-- All that a tick of a scripted collector leads to. -/
theorem tick_stateAfter (collector : IntervalCollector) (runs : Nat → Run)
    (earlier : List Moment) (context : Context) (moment : Moment) :
    let tick := (collector.stateAfter runs earlier).tickAt context moment
    tick.state = collector.stateAfter runs (earlier ++ [moment]) ∧
      tick.calls = collector.callsAt runs earlier moment ∧
      tick.failed = (if collector.isEnabled earlier.length moment then
        some (collector.failsAt runs earlier moment) else none) ∧
      sent tick.batch = if collector.isEnabled earlier.length moment then
        collector.collectedAt runs context earlier moment else [] := by
  cases enabled : collector.isEnabled earlier.length moment with
  | false =>
    rw [tick_of_disabled runs enabled, stateAfter_of_disabled runs enabled, callsAt, enabled,
      if_pos (isSome_enabled_of_disabled enabled)]
    exact ⟨rfl, rfl, rfl, rfl⟩
  | true =>
    rw [if_pos rfl, if_pos rfl]
    cases lost : collector.isLostBy runs (collector.enabledTicks earlier) with
    | false => exact tick_of_kept enabled lost context
    | true => exact tick_of_lost enabled lost context

/-! ### All ticks -/

variable {collector : IntervalCollector} {runs : Nat → Run} {context : Context}
  {failures : Nat}

/-- The points of a tick that is over. -/
theorem points_beat (valid : context.IsValid) (earlier : List Moment) (count : Nat)
    (moment : Moment) (reported : Option Moment) :
    ((collector.stateAfter runs earlier).beat context count moment reported).points =
      collector.pointsAt runs context earlier moment reported := by
  obtain ⟨state, _, failed, batch⟩ := collector.tick_stateAfter runs earlier context moment
  unfold pointsAt
  rw [IntervalState.beat]
  dsimp only
  rw [batch, failed, state]
  cases collector.isEnabled earlier.length moment with
  | false => rfl
  | true =>
    cases reported with
    | none => rfl
    | some later =>
      rw [if_pos rfl, if_pos rfl, if_pos rfl, IntervalState.reportPoints,
        IntervalState.sent_selfPoints valid]
      rfl

theorem start_eq (script : collector.source = .script runs) :
    collector.start = collector.stateAfter runs [] := by
  rw [start, stateAfter, script, preparationLeft]
  cases collector.enabled.isSome <;> rfl

theorem moments_append_beat (beats : List Beat) (state : IntervalState) (count : Nat)
    (moment : Moment) (reported : Option Moment) :
    Beat.moments (beats ++ [state.beat context count moment reported]) =
      Beat.moments beats ++ [moment] := by
  simp [Beat.moments, IntervalState.beat]

/-- The state of a scripted collector follows from the moments of its ticks. -/
theorem stateAfter_of_complete {earlier : List Moment} {beats : List Beat} {state : IntervalState}
    {count : Nat}
    (complete : Complete context (collector.stateAfter runs earlier) failures beats state count) :
    state = collector.stateAfter runs (earlier ++ Beat.moments beats) := by
  induction complete with
  | none => exact congrArg (collector.stateAfter runs) (List.append_nil earlier).symm
  | tick _ moment reported _ inductionHypothesis =>
    rw [inductionHypothesis, (collector.tick_stateAfter runs _ context moment).1,
      moments_append_beat, List.append_assoc]

/-- The same from the start on, and its failures follow from them as well. -/
theorem state_of_complete (script : collector.source = .script runs) {beats : List Beat}
    {state : IntervalState} {count : Nat}
    (complete : Complete context collector.start failures beats state count) :
    state = collector.stateAfter runs (Beat.moments beats) ∧
      count = failures + collector.failedTicks runs (Beat.moments beats) := by
  rw [start_eq script] at complete
  refine ⟨stateAfter_of_complete complete, ?_⟩
  induction complete with
  | none => rfl
  | @tick beats before counted complete moment reported _ inductionHypothesis =>
    obtain ⟨_, _, failed, _⟩ :=
      collector.tick_stateAfter runs (Beat.moments beats) context moment
    have same := stateAfter_of_complete complete
    rw [List.nil_append] at same
    rw [moments_append_beat, same, failed, inductionHypothesis, failedTicks_append]
    refine (Nat.add_assoc _ _ _).trans ?_
    cases enabled : collector.isEnabled (Beat.moments beats).length moment with
    | true => simp
    | false => simp [failsAt, enabled]

/-- One tick asks to prepare once at most, and only as long as the collector was never enabled. -/
theorem preparations_callsAt (collector : IntervalCollector) (runs : Nat → Run)
    (earlier : List Moment) (moment : Moment) :
    (collector.callsAt runs earlier moment).countP Call.isPreparation ≤
      if collector.isEnabled earlier.length moment ∧ collector.enabledTicks earlier = 0 then 1
      else 0 := by
  have question : ∀ answer, (if collector.enabled.isSome then [Call.enabled answer]
      else []).countP Call.isPreparation = 0 := by
    intro answer
    cases collector.enabled.isSome <;> rfl
  rw [callsAt, List.countP_append, question, Nat.zero_add]
  cases collector.isEnabled earlier.length moment with
  | false => exact Nat.zero_le _
  | true =>
    have run : ((collector.runDue? (collector.enabledTicks earlier)).toList.map
        Call.run).countP Call.isPreparation = 0 := by
      cases collector.runDue? (collector.enabledTicks earlier) <;> rfl
    cases collector.isLostBy runs (collector.enabledTicks earlier) with
    | true => exact Nat.zero_le _
    | false =>
      show List.countP _ (_ ++ _) ≤ _
      rw [List.countP_append, run, Nat.add_zero, preparationLeft]
      by_cases first : collector.enabledTicks earlier = 0
      · rw [if_pos first, if_pos ⟨rfl, first⟩]
        cases collector.preparation with
        | none => exact Nat.zero_le _
        | some ending => exact Nat.le_refl 1
      · rw [if_neg first]
        exact Nat.zero_le _

theorem preparations_le (script : collector.source = .script runs) {beats : List Beat}
    {state : IntervalState} {count : Nat}
    (complete : Complete context collector.start failures beats state count) :
    (beats.flatMap (·.calls)).countP Call.isPreparation ≤
      if collector.enabledTicks (Beat.moments beats) = 0 then 0 else 1 := by
  induction complete with
  | none => exact Nat.zero_le _
  | @tick beats before counted complete moment reported _ inductionHypothesis =>
    obtain ⟨same, _⟩ := state_of_complete script complete
    have calls : (before.beat context counted moment reported).calls =
        collector.callsAt runs (Beat.moments beats) moment := by
      rw [same]
      exact (collector.tick_stateAfter runs _ _ moment).2.1
    have more := preparations_callsAt collector runs (Beat.moments beats) moment
    rw [List.flatMap_append, List.countP_append, List.flatMap_singleton, calls,
      moments_append_beat, enabledTicks_append]
    -- Either nothing was prepared before, or nothing is now.
    cases enabled : collector.isEnabled (Beat.moments beats).length moment with
    | false =>
      rw [enabled, if_neg fun both => Bool.false_ne_true both.1] at more
      rw [if_neg Bool.false_ne_true, Nat.add_zero]
      omega
    | true =>
      rw [if_pos rfl, if_neg (Nat.succ_ne_zero _)]
      by_cases first : collector.enabledTicks (Beat.moments beats) = 0
      · rw [if_pos first] at inductionHypothesis
        rw [if_pos ⟨enabled, first⟩] at more
        omega
      · rw [if_neg first] at inductionHypothesis
        rw [if_neg fun both => first both.2] at more
        omega

/-- What is to be said of the ticks of a scripted collector, when `failures` failed runs of it were
counted before. -/
structure LifeCycle (collector : IntervalCollector) (runs : Nat → Run) (context : Context)
    (failures : Nat) (beats : List Beat) (job : IntervalJob) (scene : Scene) : Prop where
  /-- The collector is asked to do what the script says, no more and no less. -/
  calls : ∀ number beat, beats[number]? = some beat →
    beat.calls = collector.callsAt runs (Beat.moments (beats.take number)) beat.moment
  /-- It is prepared once at most. -/
  once : (beats.flatMap (·.calls)).countP Call.isPreparation ≤ 1
  /-- The points of a tick come into the queue in their order. -/
  points : ∀ number beat, beats[number]? = some beat →
    beat.points <+:
      collector.pointsAt runs context (Beat.moments (beats.take number)) beat.moment beat.reported
  /-- When the next tick was taken, or the job waits for it, all of them have come, and so has the
  report where there has to be one. -/
  ended : ∀ number beat, beats[number]? = some beat →
    (number + 1 < beats.length ∨ ∃ ticker, job.phase = .waiting ticker) →
      beat.points = collector.pointsAt runs context (Beat.moments (beats.take number)) beat.moment
        beat.reported ∧
      beat.reported.isSome = (collector.isEnabled number beat.moment && context.collectorStats)
  /-- The failures that were counted are those of the ticks that failed. -/
  counted : scene.shared.failuresOf collector.name =
    failures + collector.failedTicks runs (Beat.moments beats)
  /-- A tick at which the collector is disabled changes nothing that the jobs share, and the job
  waits for the next one. -/
  idle : ∀ ticker, job.phase = .waiting ticker → ticker.due ≤ scene.moment.now →
    collector.isEnabled beats.length scene.moment = false →
      ∃ next, job.step? scene.moment scene.shared = some (next, scene.shared) ∧
        next.phase = .waiting (ticker.taken scene.moment.now)
  /-- The source is there for the next run, unless an attempt has ended in a panic with a loud
  payload. -/
  ready : job.state.source.isSome =
    !collector.isLostBy runs (collector.enabledTicks (Beat.moments beats))

/-- Every course of a scripted collector is a life cycle, as long as it is not told to stop, the
consumer is there, and the others leave its settings and its failures alone. -/
theorem lifeCycle_of_course (script : collector.source = .script runs) {origin scene : Scene}
    (valid : origin.shared.context.IsValid) (going : origin.moment.cancelled = false)
    (opened : origin.shared.dispatcher.receiver ≠ .dropped) {beats : List Beat} {job : IntervalJob}
    (course : IntervalJob.Course IntervalJob.Spared
      (IntervalJob.start collector origin.shared.context origin.moment.now) origin beats job
      scene) :
    LifeCycle collector runs origin.shared.context (origin.shared.failuresOf collector.name) beats
      job scene := by
  have follows := course.follows (IntervalJob.follows_start collector going opened)
  obtain ⟨whole, moments, calls, complete⟩ := follows.stands.completed
  obtain ⟨state, counted⟩ := state_of_complete script complete
  rw [moments] at state counted
  refine
    { calls := fun number beat found => ?_
      once := ?_
      points := fun number beat found => ?_
      ended := fun number beat found finished => ?_
      counted := counted
      idle := fun ticker waiting due disabled => ?_
      ready := ?_ }
  · obtain ⟨before, count, earlier, shows, _⟩ := follows.stands.at found
    obtain ⟨same, _⟩ := state_of_complete script earlier
    rw [shows.calls, same]
    exact (collector.tick_stateAfter runs _ _ beat.moment).2.1
  · have few := preparations_le script complete
    rw [List.flatMap_def, ← calls, ← List.flatMap_def]
    split at few
    · omega
    · exact few
  · obtain ⟨before, count, earlier, shows, _⟩ := follows.stands.at found
    obtain ⟨same, _⟩ := state_of_complete script earlier
    rw [← points_beat valid _ count, ← same]
    exact shows.points
  · obtain ⟨before, count, earlier, _, ended⟩ := follows.stands.at found
    obtain ⟨same, _⟩ := state_of_complete script earlier
    obtain ⟨whole, report⟩ := ended finished
    have failed := (collector.tick_stateAfter runs (Beat.moments (beats.take number))
      origin.shared.context beat.moment).2.2.1
    refine ⟨?_, ?_⟩
    · rw [← points_beat valid _ count, ← same]
      exact congrArg Beat.points whole
    · rw [report, same, failed, Beat.length_moments_take found]
      cases collector.isEnabled number beat.moment <;> rfl
  · have length : (Beat.moments beats).length = beats.length := List.length_map _
    have tick := tick_of_disabled runs (length ▸ disabled) scene.shared.context
    rw [← state] at tick
    exact ⟨_, job.step_of_idle waiting follows.going due tick, rfl⟩
  · rw [state, stateAfter]
    cases collector.isLostBy runs (collector.enabledTicks (Beat.moments beats)) <;> rfl

/-- The first run fails after a point that can be cleaned and one that cannot, and the others panic
after a point that can, with a loud payload. -/
def diskRuns : Nat → Run
  | 0 => ⟨[.raw ⟨"used %", 0, .integer 7, ∅⟩, .raw ⟨"?", 0, .integer 7, ∅⟩], .failed⟩
  | _ => ⟨[.raw ⟨"used %", 0, .integer 8, ∅⟩], .panicked .loud⟩

/-- A collector with these runs that is disabled at first, and whose preparation panics. -/
def diskUsage : IntervalCollector :=
  { name := "disk usage"
    interval := some 0
    enabled := some fun number _ => number != 0
    preparation := some (.panicked .quiet)
    source := .script diskRuns }

/-- A world in which collectors report on themselves. -/
def diskWorld : World :=
  World.start ⟨[.interval diskUsage]⟩ { Context.new "web01" with collectorStats := true }
    Surroundings.none (fun _ _ => ⟨none, 0⟩) 10 0 (Consumer.start 0 none 0) 0 (80 * second)

/-- What happens in it up to the end of the fifth tick. -/
def diskActions : List Action :=
  let report : List Action := [.work 0, .work 0, .work 0, .work 0]
  [.work 0, .advance, .work 0] ++ report ++ [.receive, .receive, .advance, .work 0, .work 0,
    .work 0] ++ report ++ [.receive, .receive, .receive, .advance, .work 0] ++ report ++
    [.receive, .receive, .advance, .work 0] ++ report

/-- What is seen of the ticks: the calls, the failures so far and the metrics of the points. -/
def diskBeats : List (List Call × Nat × List String) :=
  let report := ["hostcollect.collector.duration", "hostcollect.collector.error"]
  [([.enabled false], 0, []),
    ([.enabled true, .prepare (.panicked .quiet)], 1, report),
    ([.enabled true, .run 0], 2, "used" :: report),
    ([.enabled true, .run 1], 3, report),
    ([.enabled true], 4, report)]

theorem seen_of_diskWorld :
    (diskWorld.follow? diskActions).map (fun result =>
      ((Happening.beatsOf 0 result.1).map fun beat =>
          (beat.calls, beat.failures, beat.points.map (·.metric)),
        decide (∀ happening ∈ result.1, happening.after.dispatcher.receiver ≠ .dropped))) =
      some (diskBeats, true) := by
  decide +kernel

/-- The second tick fails without a run, the third one with a point. The fourth one loses its point
and the source, so the fifth one fails without a run again. -/
theorem lifeCycle_of_diskUsage :
    ∃ beats job scene,
      LifeCycle diskUsage diskRuns diskWorld.shared.context
        (diskWorld.shared.failuresOf "disk usage") beats job scene ∧
      beats.map (fun beat => (beat.calls, beat.failures, beat.points.map (·.metric))) =
        diskBeats := by
  obtain ⟨⟨past, world⟩, followed, same⟩ := Option.map_eq_some_iff.mp seen_of_diskWorld
  obtain ⟨beats, opened⟩ := Prod.mk.inj same
  have leads : diskWorld.Leads past world := World.Leads.start.follow followed
  have found : diskWorld.jobs[0]? =
      some (.interval (IntervalJob.start diskUsage diskWorld.shared.context 0)) := rfl
  obtain ⟨job, _, course⟩ := leads.course_spared rfl (by decide) (of_decide_eq_true opened) found
  have valid : diskWorld.shared.context.IsValid :=
    ⟨⟨"web01", rfl⟩, fun _ member => absurd member List.not_mem_nil⟩
  have here : diskWorld.scene.shared.dispatcher.receiver ≠ .dropped := by decide
  exact ⟨_, _, _, lifeCycle_of_course rfl valid rfl here course, beats⟩

/-- Not every tick at which the collector is enabled makes a run, though the preparation is over:
the source is not always put back. -/
theorem not_always_run :
    ¬ ∀ past world, diskWorld.Leads past world →
      ∀ number beat, (Happening.beatsOf 0 past)[number]? = some beat → 1 < number →
        ∃ run, Call.run run ∈ beat.calls := by
  intro always
  obtain ⟨⟨past, world⟩, followed, same⟩ := Option.map_eq_some_iff.mp seen_of_diskWorld
  have leads : diskWorld.Leads past world := World.Leads.start.follow followed
  have calls : (Happening.beatsOf 0 past).map (·.calls) = diskBeats.map (·.1) := by
    rw [← (Prod.mk.inj same).1, List.map_map]
    rfl
  have fifth : ((Happening.beatsOf 0 past).map (·.calls))[4]? = some [.enabled true] := by
    rw [calls]
    rfl
  rw [List.getElem?_map] at fifth
  obtain ⟨beat, found, silent⟩ := Option.map_eq_some_iff.mp fifth
  obtain ⟨run, member⟩ := always past world leads 4 beat found (by decide)
  rw [silent] at member
  simp at member

end IntervalCollector

end Telemetry
