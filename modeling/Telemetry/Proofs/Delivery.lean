/-
This file says what a drain delivers, however the points arrive.

At any moment the sink has the lines of the first points, whole and in order, and the buffer has
those of the points that follow. A drain that fails has met more than the sink takes. One that ends
well without being told to stop has found the queue closed and empty and its buffer written out, so
it has delivered every point. And a drain whose queue is closed does end.
-/

import Telemetry.Output.Arrivals
import Telemetry.Proofs.Buffering

namespace Telemetry

theorem encoded_eq_flatten (points : List Point) :
    encoded points = (points.map Point.bytes).flatten := List.flatMap_def ..

namespace Drain

variable {limit : Option Nat} {points : List Point} {drain next : Drain}

/-! ### What the steps keep -/

/-- What is so of a drain that was fed with points: some of them were written, those after them
wait, and between the two is the point that could not be written, if there is one. -/
structure Keeps (limit : Option Nat) (points : List Point) (drain : Drain) : Prop where
  split : ∃ done lost, points = done ++ lost ++ drain.queue ∧ drain.written = done.length ∧
    drain.writer.Holds limit (done.map Point.bytes) ∧
    ((∀ failure, drain.phase ≠ .failed failure) → lost = [])
  exceeds : ∀ failure, drain.phase = .failed failure → Exceeds limit (points.map Point.bytes)
  /-- The last flush comes after the order to stop, or when no point can come any more. -/
  emptied : drain.phase = .closing ∨ drain.phase = .finished →
    drain.cancelled = true ∨ drain.closed = true ∧ drain.queue = []
  flushed : drain.phase = .finished → drain.writer.buffer = []

theorem keeps_start (limit : Option Nat) : (start [] false false limit).Keeps limit [] where
  split := ⟨[], [], rfl, rfl, Writer.holds_new limit, fun _ => rfl⟩
  exceeds _ failed := by cases failed
  emptied last := by rcases last with phase | phase <;> cases phase
  flushed phase := by cases phase

/-- A point is written, or the drain fails with more than the sink takes. -/
theorem Keeps.put (keeps : drain.Keeps limit points)
    (going : ∀ failure, drain.phase ≠ .failed failure) {point : Point} {rest : List Point}
    (waiting : drain.queue = point :: rest) : (drain.put point rest).Keeps limit points := by
  obtain ⟨done, lost, split, written, holds, none⟩ := keeps.split
  rw [none going, List.append_nil, waiting] at split
  have all : points = done ++ [point] ++ rest := by
    rw [split, List.append_assoc, List.singleton_append]
  rcases holds.write point.bytes with ⟨writer, made, stored⟩ | ⟨writer, made, kept, exceeds⟩
  · rw [Drain.put, made]
    refine ⟨⟨done ++ [point], [], ?_, ?_, ?_, fun _ => rfl⟩, ?_, ?_, ?_⟩
    · rw [List.append_nil, all]
    · rw [List.length_append, List.length_singleton, ← written]
    · rwa [List.map_append, List.map_singleton]
    · intro failure phase
      cases phase
    · rintro (phase | phase) <;> cases phase
    · intro phase
      cases phase
  · rw [Drain.put, made]
    refine ⟨⟨done, [point], all, written, kept, ?_⟩, ?_, ?_, ?_⟩
    · intro notFailed
      exact absurd rfl (notFailed .writing)
    · intro failure phase
      rw [all, List.map_append, List.map_append, List.map_singleton]
      exact exceeds.append _
    · rintro (phase | phase) <;> cases phase
    · intro phase
      cases phase

/-- The buffer is written out, or the drain fails with more than the sink takes. -/
theorem Keeps.flush (keeps : drain.Keeps limit points)
    (going : ∀ failure, drain.phase ≠ .failed failure) {phase : DrainPhase}
    (goesOn : ∀ failure, phase ≠ .failed failure)
    (last : phase = .closing ∨ phase = .finished →
      drain.cancelled = true ∨ drain.closed = true ∧ drain.queue = []) :
    (drain.flush phase).Keeps limit points := by
  obtain ⟨done, lost, split, written, holds, none⟩ := keeps.split
  unfold Drain.flush
  cases flushed : drain.writer.flush? with
  | none =>
    refine ⟨⟨done, lost, split, written, holds, fun _ => none going⟩, ?_, ?_, ?_⟩
    · intro failure _
      rw [split, List.map_append, List.map_append]
      exact ((holds.exceeds_of_flush flushed).append _).append _
    · rintro (same | same) <;> cases same
    · intro same
      cases same
  | some writer =>
    obtain ⟨stillHolds, empty⟩ := holds.flush flushed
    exact ⟨⟨done, lost, split, written, stillHolds, fun _ => none going⟩,
      fun failure failed => absurd failed (goesOn failure), last, fun _ => empty⟩

/-- Another phase, without anything else, is entered while the drain is at work. -/
theorem Keeps.enter (keeps : drain.Keeps limit points)
    (going : ∀ failure, drain.phase ≠ .failed failure) {phase : DrainPhase}
    (goesOn : ∀ failure, phase ≠ .failed failure) (notYet : phase ≠ .finished)
    (last : phase = .closing → drain.cancelled = true ∨ drain.closed = true ∧ drain.queue = []) :
    Keeps limit points { drain with phase := phase } := by
  obtain ⟨done, lost, split, written, holds, none⟩ := keeps.split
  exact ⟨⟨done, lost, split, written, holds, fun _ => none going⟩,
    fun failure failed => absurd failed (goesOn failure),
    fun either => last (either.resolve_right notYet), fun ended => absurd ended notYet⟩

theorem Keeps.step (keeps : drain.Keeps limit points) {heeds : Bool}
    (step : drain.step? heeds = some next) : next.Keeps limit points := by
  unfold step? at step
  split at step
  · rename_i point rest choosing waiting
    have going : ∀ failure, drain.phase ≠ .failed failure := by simp [choosing]
    split at step
    · rename_i told
      rw [← Option.some.inj step]
      have cancelled : drain.cancelled = true := ((Bool.and_eq_true _ _).mp told).1
      exact keeps.enter going (by simp) (by simp) fun _ => .inl cancelled
    · rw [← Option.some.inj step]
      exact keeps.put going waiting
  · rename_i choosing empty
    have going : ∀ failure, drain.phase ≠ .failed failure := by simp [choosing]
    split at step
    · rename_i ended
      rw [← Option.some.inj step]
      refine keeps.enter going (by simp) (by simp) fun _ => ?_
      exact ((Bool.or_eq_true _ _).mp ended).imp_right fun closed => ⟨closed, empty⟩
    · cases step
  · rename_i point rest emptying waiting
    rw [← Option.some.inj step]
    exact keeps.put (by simp [emptying]) waiting
  · rename_i emptying empty
    rw [← Option.some.inj step]
    exact keeps.enter (by simp [emptying]) (by simp) (by simp) (by simp)
  · rename_i flushing
    rw [← Option.some.inj step]
    exact keeps.flush (by simp [flushing]) (by simp) (by simp)
  · rename_i closing
    rw [← Option.some.inj step]
    exact keeps.flush (by simp [closing]) (by simp) fun _ => keeps.emptied (.inl closing)
  · cases step
  · cases step

/-- Every event keeps this. -/
theorem Keeps.after (keeps : drain.Keeps limit points) {event : Event}
    (happened : drain.after? event = some next) : next.Keeps limit (points ++ event.points) := by
  obtain ⟨done, lost, split, written, holds, none⟩ := keeps.split
  cases event with
  | arrive burst =>
    rw [after?] at happened
    split at happened
    · cases happened
    · rename_i opened
      rw [← Option.some.inj happened]
      refine ⟨⟨done, lost, ?_, written, holds, none⟩, fun failure failed => ?_, fun last => ?_,
        keeps.flushed⟩
      · rw [split, List.append_assoc, Event.points]
      · rw [List.map_append]
        exact (keeps.exceeds failure failed).append _
      · exact .inl ((keeps.emptied last).resolve_right fun both => opened both.1)
  | close =>
    rw [← Option.some.inj happened, Event.points_close, List.append_nil]
    exact ⟨⟨done, lost, split, written, holds, none⟩, keeps.exceeds,
      fun last => (keeps.emptied last).imp_right fun both => ⟨rfl, both.2⟩, keeps.flushed⟩
  | cancel =>
    rw [← Option.some.inj happened, Event.points_cancel, List.append_nil]
    exact ⟨⟨done, lost, split, written, holds, none⟩, keeps.exceeds, fun _ => .inl rfl,
      keeps.flushed⟩
  | work heeds =>
    rw [Event.points_work, List.append_nil]
    exact keeps.step happened

theorem Fed.keeps (fed : Fed limit points drain) : drain.Keeps limit points := by
  induction fed with
  | start => exact keeps_start limit
  | next event _ happened inductionHypothesis => exact inductionHypothesis.after happened

/-! ### The end of a drain -/

theorem put_flags (drain : Drain) (point : Point) (rest : List Point) :
    (drain.put point rest).closed = drain.closed ∧
      (drain.put point rest).cancelled = drain.cancelled := by
  unfold put
  split <;> exact ⟨rfl, rfl⟩

theorem flush_flags (drain : Drain) (phase : DrainPhase) :
    (drain.flush phase).closed = drain.closed ∧
      (drain.flush phase).cancelled = drain.cancelled := by
  unfold flush
  split <;> exact ⟨rfl, rfl⟩

/-- A step neither closes the queue nor tells the drain to stop. -/
theorem flags_of_step {heeds : Bool} (step : drain.step? heeds = some next) :
    next.closed = drain.closed ∧ next.cancelled = drain.cancelled := by
  unfold step? at step
  split at step
  · split at step
    · rw [← Option.some.inj step]
      exact ⟨rfl, rfl⟩
    · rw [← Option.some.inj step]
      exact put_flags _ _ _
  · split at step
    · rw [← Option.some.inj step]
      exact ⟨rfl, rfl⟩
    · cases step
  · rw [← Option.some.inj step]
    exact put_flags _ _ _
  · rw [← Option.some.inj step]
    exact ⟨rfl, rfl⟩
  · rw [← Option.some.inj step]
    exact flush_flags _ _
  · rw [← Option.some.inj step]
    exact flush_flags _ _
  · cases step
  · cases step

/-- A drain whose queue is closed, or that is told to stop, can go on until it has returned. -/
theorem exists_result_of_no_step (ends : (drain.cancelled || drain.closed) = true) {heeds : Bool}
    (still : drain.step? heeds = none) : ∃ result, drain.result? = some result := by
  unfold step? at still
  split at still
  · split at still <;> cases still
  · rw [if_pos ends] at still
    cases still
  · cases still
  · cases still
  · cases still
  · cases still
  · rename_i finished
    exact ⟨_, by rw [result?, finished]⟩
  · rename_i failure failed
    exact ⟨_, by rw [result?, failed]⟩

/-- So it does return when nothing else happens. -/
theorem exists_result_run_of_ends (ends : (drain.cancelled || drain.closed) = true) :
    ∃ result, drain.run.result? = some result := by
  fun_induction Drain.run drain with
  | case1 drain still => exact exists_result_of_no_step ends still
  | case2 drain next step inductionHypothesis =>
    obtain ⟨closed, cancelled⟩ := flags_of_step step
    rw [← closed, ← cancelled] at ends
    exact inductionHypothesis ends

theorem exists_result_run (closed : drain.closed = true) :
    ∃ result, drain.run.result? = some result :=
  exists_result_run_of_ends (by rw [closed, Bool.or_true])

theorem cancelled_run (drain : Drain) : drain.run.cancelled = drain.cancelled := by
  fun_induction Drain.run drain with
  | case1 drain still => rfl
  | case2 drain next step inductionHypothesis =>
    exact inductionHypothesis.trans (flags_of_step step).2

/-! ### What is delivered -/

/-- The sink has the lines of the first points. -/
theorem Keeps.whole (keeps : drain.Keeps limit points) :
    ∃ count ≤ points.length, drain.writer.sink.taken = encoded (points.take count) := by
  obtain ⟨done, lost, split, _, holds, _⟩ := keeps.split
  obtain ⟨count, few, taken⟩ := holds.taken_eq_take
  rw [List.length_map] at few
  refine ⟨count, ?_, ?_⟩
  · rw [split, List.append_assoc, List.length_append]
    omega
  · rw [taken, ← List.map_take, ← encoded_eq_flatten, split, List.append_assoc,
      List.take_append_of_le_length few]

/-- A drain that was not told to stop ends well with all points written. -/
theorem Keeps.all (keeps : drain.Keeps limit points) (going : drain.cancelled = false)
    (finished : drain.phase = .finished) :
    drain.written = points.length ∧ drain.writer.sink.taken = encoded points := by
  obtain ⟨done, lost, split, written, holds, none⟩ := keeps.split
  have untold : ¬drain.cancelled = true := by simp [going]
  obtain ⟨_, empty⟩ := (keeps.emptied (.inr finished)).resolve_left untold
  rw [none (by simp [finished]), empty, List.append_nil, List.append_nil] at split
  rw [split, encoded_eq_flatten, ← holds.taken_eq (keeps.flushed finished)]
  exact ⟨written, rfl⟩

theorem Keeps.within {most : Nat} (keeps : drain.Keeps (some most) points) :
    drain.writer.sink.taken.length ≤ most := by
  obtain ⟨_, _, _, _, holds, _⟩ := keeps.split
  exact holds.within most rfl

theorem Keeps.beyond {most : Nat} (keeps : drain.Keeps (some most) points)
    {failure : OutputFailure} (failed : drain.phase = .failed failure) :
    most < (encoded points).length := by
  obtain ⟨given, same, beyond⟩ := keeps.exceeds failure failed
  rw [encoded_eq_flatten, Option.some.inj same]
  exact beyond

/-- What a drain returns, when it was fed with points and its sink takes so many bytes. -/
structure Answers (most : Nat) (points : List Point) (drain : Drain)
    (result : Except OutputFailure Nat) : Prop where
  /-- It ends well exactly when the lines fit into the sink. -/
  ok_iff : (∃ number, result = .ok number) ↔ (encoded points).length ≤ most
  /-- Then it has written all points, and the sink has all lines. -/
  all : ∀ number, result = .ok number →
    number = points.length ∧ drain.writer.sink.taken = encoded points
  /-- Otherwise the sink has the lines of fewer points. -/
  fewer : ∀ failure, result = .error failure →
    ∃ count < points.length, drain.writer.sink.taken = encoded (points.take count)

theorem Keeps.answers {most : Nat} (keeps : drain.Keeps (some most) points)
    (going : drain.cancelled = false) {result : Except OutputFailure Nat}
    (returned : drain.result? = some result) : drain.Answers most points result := by
  unfold result? at returned
  split at returned
  · rename_i finished
    obtain ⟨written, taken⟩ := keeps.all going finished
    rw [← Option.some.inj returned]
    refine ⟨⟨fun _ => ?_, fun _ => ⟨_, rfl⟩⟩, fun number same => ?_, nofun⟩
    · rw [← taken]
      exact keeps.within
    · rw [← Except.ok.inj same]
      exact ⟨written, taken⟩
  · rename_i failure failed
    have beyond := keeps.beyond failed
    rw [← Option.some.inj returned]
    refine ⟨⟨nofun, fun fits => ?_⟩, nofun, fun _ _ => ?_⟩
    · omega
    · obtain ⟨count, few, taken⟩ := keeps.whole
      refine ⟨count, Nat.lt_of_le_of_ne few fun same => ?_, taken⟩
      -- With all lines the sink would be beyond its limit.
      have within := keeps.within
      rw [taken, same, List.take_length] at within
      omega
  · cases returned

/-- What is to be said of a drain that was fed with points, whenever one looks at it. -/
structure Delivers (most : Nat) (points : List Point) (drain : Drain) : Prop where
  /-- The sink has the lines of the first points, whole and in order. -/
  whole : ∃ count ≤ points.length, drain.writer.sink.taken = encoded (points.take count)
  /-- What it has returned, unless it was told to stop. -/
  returned : drain.cancelled = false → ∀ result, drain.result? = some result →
    drain.Answers most points result
  /-- It does return once the queue is closed. -/
  returns : drain.closed = true → drain.cancelled = false →
    ∃ result, drain.run.result? = some result ∧ drain.run.Answers most points result

/-- However points arrive, a drain delivers them. -/
theorem delivers_of_fed {most : Nat} (fed : Fed (some most) points drain) :
    drain.Delivers most points where
  whole := fed.keeps.whole
  returned going _ returned := fed.keeps.answers going returned
  returns closed going := by
    obtain ⟨result, returned⟩ := exists_result_run closed
    exact ⟨result, returned, fed.run.keeps.answers ((cancelled_run drain).trans going) returned⟩

/-- The reading of a sensor. -/
def sensorPoint (number : Int64) : Point := ⟨"sensor", 10, .integer number, ∅⟩

/-- Two points come at once, and a third one when the drain has written them out. Then the queue is
closed. -/
def sensorEvents : List Event :=
  [.arrive [sensorPoint 1, sensorPoint 2], .work false, .work false, .work false, .work false,
    .arrive [sensorPoint 3], .close]

/-- A sink that has no room for the third line has the first two. -/
theorem delivers_of_sensor :
    ∃ drain, Fed (some 120) [sensorPoint 1, sensorPoint 2, sensorPoint 3] drain ∧
      drain.Delivers 120 [sensorPoint 1, sensorPoint 2, sensorPoint 3] ∧
      drain.closed = true ∧ drain.cancelled = false ∧
      drain.run.result? = some (.error .flushing) ∧
      drain.run.writer.sink.taken = encoded [sensorPoint 1, sensorPoint 2] := by
  have followed : ((start [] false false (some 120)).follow? sensorEvents).map (fun result =>
      (result.1, result.2.closed, result.2.cancelled, result.2.run.phase,
        result.2.run.writer.sink.taken)) =
      some ([sensorPoint 1, sensorPoint 2, sensorPoint 3], true, false, .failed .flushing,
        encoded [sensorPoint 1, sensorPoint 2]) := by
    decide +kernel
  obtain ⟨⟨points, drain⟩, found, same⟩ := Option.map_eq_some_iff.mp followed
  obtain ⟨rfl, same⟩ := Prod.mk.inj same
  obtain ⟨closed, same⟩ := Prod.mk.inj same
  obtain ⟨going, same⟩ := Prod.mk.inj same
  obtain ⟨failed, taken⟩ := Prod.mk.inj same
  have fed := Fed.start.follow found
  have result : drain.run.result? = some (.error .flushing) := by rw [result?, failed]
  exact ⟨drain, fed, delivers_of_fed fed, closed, going, result, taken⟩

end Drain

end Telemetry
