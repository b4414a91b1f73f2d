/-
This file says what a drain still does once it has been told to stop.

The order counts between two rounds only. As long as a drain empties its queue it does not look, so
points that keep coming keep it at work: how much it writes is bounded by what waits and what comes,
and by nothing else. When no more points come it writes what waits, writes its buffer out, and
returns.
-/

import Telemetry.Proofs.Delivery

namespace Telemetry.Drain

variable {limit : Option Nat} {points arrived : List Point} {drain next told final : Drain}
  {events : List Event}

/-! ### What a step may do -/

/-- Whether an event is a step of the drain. -/
def Event.isWork : Event → Bool
  | .work _ => true
  | _ => false

/-- How far a drain may go from one moment to another one while points come: what it writes has
waited or come, every step it makes brings it nearer to its end, every point that comes brings it
further away, and it stays told to stop. -/
structure Advances (told : Drain) (steps : Nat) (arrived : List Point) (final : Drain) : Prop where
  written : final.written + final.queue.length ≤
    told.written + told.queue.length + arrived.length
  measure : steps + final.measure ≤ told.measure + 4 * arrived.length
  cancelled : told.cancelled = true → final.cancelled = true

theorem advances_refl (drain : Drain) : drain.Advances 0 [] drain :=
  ⟨Nat.le_refl _, Nat.le_of_eq (Nat.zero_add _), id⟩

theorem Advances.trans {steps more : Nat} {later : List Point}
    (first : told.Advances steps arrived drain) (second : drain.Advances more later final) :
    told.Advances (steps + more) (arrived ++ later) final := by
  have written := first.written
  have measure := first.measure
  have writtenLater := second.written
  have measureLater := second.measure
  refine ⟨?_, ?_, fun told => second.cancelled (first.cancelled told)⟩
  · rw [List.length_append]
    omega
  · rw [List.length_append]
    omega

theorem put_written (drain : Drain) (point : Point) (rest : List Point) :
    (drain.put point rest).written + (drain.put point rest).queue.length ≤
      drain.written + rest.length + 1 := by
  unfold put
  split
  · exact Nat.le_succ _
  · exact Nat.le_of_eq (Nat.add_right_comm _ _ _)

theorem flush_written (drain : Drain) (phase : DrainPhase) :
    (drain.flush phase).written + (drain.flush phase).queue.length ≤
      drain.written + drain.queue.length := by
  unfold flush
  split <;> exact Nat.le_refl _

/-- The writing out of the buffer writes no point, and does not lead into the queue. -/
theorem flush_unwritten (drain : Drain) {phase : DrainPhase} (outside : phase ≠ .emptying) :
    (drain.flush phase).written = drain.written ∧ (drain.flush phase).phase ≠ .emptying := by
  unfold flush
  split
  · exact ⟨rfl, nofun⟩
  · exact ⟨rfl, outside⟩

/-- What a step writes has waited. -/
theorem written_of_step {heeds : Bool} (step : drain.step? heeds = some next) :
    next.written + next.queue.length ≤ drain.written + drain.queue.length := by
  unfold step? at step
  split at step
  · rename_i point rest _ waiting
    split at step
    · obtain rfl := Option.some.inj step
      exact Nat.le_refl _
    · rw [← Option.some.inj step, waiting]
      exact put_written _ _ _
  · split at step
    · obtain rfl := Option.some.inj step
      exact Nat.le_refl _
    · cases step
  · rename_i point rest _ waiting
    rw [← Option.some.inj step, waiting]
    exact put_written _ _ _
  · obtain rfl := Option.some.inj step
    exact Nat.le_refl _
  · rw [← Option.some.inj step]
    exact flush_written _ _
  · rw [← Option.some.inj step]
    exact flush_written _ _
  · cases step
  · cases step

/-- How far one event takes a drain. -/
theorem advances_of_after {event : Event} (happened : drain.after? event = some next) :
    drain.Advances (if event.isWork then 1 else 0) event.points next := by
  cases event with
  | arrive burst =>
    rw [after?] at happened
    split at happened
    · cases happened
    · rw [← Option.some.inj happened]
      refine ⟨?_, ?_, id⟩
      · show drain.written + (drain.queue ++ burst).length ≤
          drain.written + drain.queue.length + burst.length
        exact Nat.le_of_eq (by rw [List.length_append, Nat.add_assoc])
      · show 0 + (4 * (drain.queue ++ burst).length + rank drain.phase) ≤
          4 * drain.queue.length + rank drain.phase + 4 * burst.length
        rw [List.length_append]
        omega
  | close =>
    rw [← Option.some.inj happened]
    exact ⟨Nat.le_refl _, Nat.le_of_eq (Nat.zero_add _), id⟩
  | cancel =>
    rw [← Option.some.inj happened]
    exact ⟨Nat.le_refl _, Nat.le_of_eq (Nat.zero_add _), fun _ => rfl⟩
  | work heeds =>
    refine ⟨written_of_step happened, ?_, fun told => ?_⟩
    · have less := measure_step?_lt happened
      show 1 + next.measure ≤ drain.measure + 0
      omega
    · rw [(flags_of_step happened).2, told]

/-- How far events take a drain, by induction on the events. -/
theorem advances_of_follow (followed : told.follow? events = some (arrived, final)) :
    told.Advances (events.countP Event.isWork) arrived final := by
  induction events generalizing told arrived with
  | nil =>
    obtain ⟨rfl, rfl⟩ := Prod.mk.inj (Option.some.inj followed)
    exact advances_refl told
  | cons event rest inductionHypothesis =>
    rw [follow?] at followed
    split at followed
    · cases followed
    · rename_i next happened
      obtain ⟨⟨others, _⟩, further, same⟩ := Option.map_eq_some_iff.mp followed
      obtain ⟨rfl, rfl⟩ := Prod.mk.inj same
      rw [List.countP_cons, Nat.add_comm]
      exact (advances_of_after happened).trans (inductionHypothesis further)

/-- Left alone a drain goes as far as steps take it. -/
theorem advances_run (drain : Drain) : ∃ steps, drain.Advances steps [] drain.run := by
  fun_induction Drain.run drain with
  | case1 drain still => exact ⟨0, advances_refl drain⟩
  | case2 drain next step inductionHypothesis =>
    obtain ⟨steps, advances⟩ := inductionHypothesis
    have first : drain.Advances 1 [] next :=
      advances_of_after (show drain.after? (.work true) = some next from step)
    exact ⟨1 + steps, first.trans advances⟩

/-! ### The order is heard -/

/-- A drain that has been told to stop and is not emptying its queue writes nothing in a step in
which it heeds the order. -/
theorem unwritten_of_step (cancelled : told.cancelled = true) (phase : told.phase ≠ .emptying)
    (step : told.step? true = some next) :
    next.written = told.written ∧ next.phase ≠ .emptying := by
  unfold step? at step
  split at step
  · rw [cancelled, Bool.and_self, if_pos rfl] at step
    rw [← Option.some.inj step]
    exact ⟨rfl, nofun⟩
  · rw [cancelled, Bool.true_or, if_pos rfl] at step
    rw [← Option.some.inj step]
    exact ⟨rfl, nofun⟩
  · contradiction
  · contradiction
  · rw [← Option.some.inj step]
    exact flush_unwritten _ nofun
  · rw [← Option.some.inj step]
    exact flush_unwritten _ nofun
  · cases step
  · cases step

theorem unwritten_of_after {event : Event} (cancelled : told.cancelled = true)
    (phase : told.phase ≠ .emptying) (heeds : ∀ heard, event = .work heard → heard = true)
    (happened : told.after? event = some next) :
    next.written = told.written ∧ next.phase ≠ .emptying := by
  cases event with
  | arrive burst =>
    rw [after?] at happened
    split at happened
    · cases happened
    · rw [← Option.some.inj happened]
      exact ⟨rfl, phase⟩
  | close =>
    rw [← Option.some.inj happened]
    exact ⟨rfl, phase⟩
  | cancel =>
    rw [← Option.some.inj happened]
    exact ⟨rfl, phase⟩
  | work heard =>
    obtain rfl := heeds heard rfl
    exact unwritten_of_step cancelled phase happened

/-- So it writes nothing any more, whatever comes. -/
theorem unwritten_of_follow (cancelled : told.cancelled = true) (phase : told.phase ≠ .emptying)
    (heeds : ∀ heard, Event.work heard ∈ events → heard = true)
    (followed : told.follow? events = some (arrived, final)) : final.written = told.written := by
  induction events generalizing told arrived with
  | nil =>
    obtain ⟨rfl, rfl⟩ := Prod.mk.inj (Option.some.inj followed)
    rfl
  | cons event rest inductionHypothesis =>
    rw [follow?] at followed
    split at followed
    · cases followed
    · rename_i next happened
      obtain ⟨⟨others, _⟩, further, same⟩ := Option.map_eq_some_iff.mp followed
      obtain ⟨rfl, rfl⟩ := Prod.mk.inj same
      have now : ∀ heard, event = .work heard → heard = true := fun heard is =>
        heeds heard (by rw [is]; exact List.mem_cons_self)
      have later : ∀ heard, Event.work heard ∈ rest → heard = true := fun heard member =>
        heeds heard (List.mem_cons_of_mem _ member)
      obtain ⟨written, outside⟩ := unwritten_of_after cancelled phase now happened
      rw [← written]
      exact inductionHypothesis ((advances_of_after happened).cancelled cancelled) outside later
        further

/-! ### The order is not heard -/

/-- With a sink that takes everything a drain that empties its queue writes the next point. -/
theorem exists_put_of_unlimited (fed : Fed none points drain) (emptying : drain.phase = .emptying)
    {point : Point} {rest : List Point} (waiting : drain.queue = point :: rest) (heeds : Bool) :
    ∃ next, drain.step? heeds = some next ∧ next.phase = .emptying ∧ next.queue = rest ∧
      next.written = drain.written + 1 := by
  obtain ⟨done, _, _, _, holds, _⟩ := fed.keeps.split
  rcases holds.write point.bytes with ⟨writer, made, _⟩ | ⟨_, _, _, most, given, _⟩
  · refine ⟨drain.put point rest, ?_, ?_, ?_, ?_⟩
    · rw [step?, emptying, waiting]
    · rw [put, made]
    · rw [put, made]
    · rw [put, made]
  · cases given

/-- The points come one by one, and after each of them the drain makes a step. -/
def oneByOne (burst : List Point) : List Event :=
  burst.flatMap fun point => [.arrive [point], .work true]

/-- All of them are written, and the drain goes on emptying a queue that is no shorter and no longer
than before. -/
theorem follow_oneByOne (fed : Fed none points drain) (emptying : drain.phase = .emptying)
    (opened : drain.closed = false) (burst : List Point) :
    ∃ last, drain.follow? (oneByOne burst) = some (burst, last) ∧ last.phase = .emptying ∧
      last.queue.length = drain.queue.length ∧ last.written = drain.written + burst.length := by
  induction burst generalizing drain points with
  | nil => exact ⟨drain, rfl, emptying, rfl, rfl⟩
  | cons point rest inductionHypothesis =>
    have arrived : drain.after? (.arrive [point]) =
        some { drain with queue := drain.queue ++ [point] } := by
      rw [after?, opened]
      rfl
    have fedMore := fed.next _ arrived
    -- The point that has waited longest is written, and the new one takes the last place.
    obtain ⟨first, others, waiting⟩ := List.exists_cons_of_ne_nil
      (List.append_ne_nil_of_right_ne_nil drain.queue (List.cons_ne_nil point []))
    obtain ⟨next, step, phase, queue, written⟩ :=
      exists_put_of_unlimited fedMore emptying waiting true
    have same : next.queue.length = drain.queue.length := by
      have lengths := congrArg List.length waiting
      rw [List.length_append, List.length_singleton, List.length_cons] at lengths
      rw [queue]
      exact (Nat.succ.inj lengths).symm
    have stillOpen : next.closed = false := (flags_of_step step).1.trans opened
    obtain ⟨last, followed, lastPhase, lastQueue, lastWritten⟩ :=
      inductionHypothesis (fedMore.next (.work true) step) phase stillOpen
    refine ⟨last, ?_, lastPhase, lastQueue.trans same, ?_⟩
    · have worked : Drain.after? { drain with queue := drain.queue ++ [point] } (.work true) =
          some next := step
      rw [oneByOne, List.flatMap_cons, List.cons_append, List.cons_append, List.nil_append,
        follow?, arrived]
      dsimp only
      rw [follow?, worked]
      dsimp only
      rw [← oneByOne, followed]
      rfl
    · rw [lastWritten, written, List.length_cons]
      exact Nat.add_right_comm _ _ _

/-! ### After the order -/

/-- What a drain does between the order to stop and a later moment, with the points that have
arrived since. -/
structure WindsUp (limit : Option Nat) (told : Drain) (events : List Event)
    (arrived : List Point) (final : Drain) : Prop where
  /-- What it writes has waited at the order or has arrived since. -/
  written : final.written ≤ told.written + told.queue.length + arrived.length
  /-- Nothing but what arrives keeps it at work: it makes four steps for a point at most. -/
  steps : events.countP Event.isWork ≤ told.measure + 4 * arrived.length
  /-- When nothing arrives any more it writes no more than has waited and arrived, and returns with
  its buffer written out unless it fails. -/
  returns : ∃ result, final.run.result? = some result ∧
    final.run.written ≤ told.written + told.queue.length + arrived.length ∧
    ∀ number, result = .ok number → final.run.writer.buffer = []
  /-- When it is not emptying its queue at the order, and heeds the order, it writes nothing. -/
  heard : told.phase ≠ .emptying → (∀ heard, Event.work heard ∈ events → heard = true) →
    final.written = told.written
  /-- As long as it empties its queue it goes on with what arrives, however much that is, though no
  more than one point waits in addition at any time. -/
  unheard : limit = none → final.phase = .emptying → final.closed = false →
    ∀ burst, ∃ last, final.follow? (oneByOne burst) = some (burst, last) ∧
      last.phase = .emptying ∧ last.queue.length = final.queue.length ∧
      last.written = final.written + burst.length

/-- How a drain winds up after the order to stop, whatever happens meanwhile. -/
theorem windsUp_of_cancelled (fed : Fed limit points told) (cancelled : told.cancelled = true)
    (followed : told.follow? events = some (arrived, final)) :
    told.WindsUp limit events arrived final := by
  have advances := advances_of_follow followed
  have fedFinal := fed.follow followed
  refine ⟨?_, ?_, ?_, ?_, ?_⟩
  · exact Nat.le_of_add_right_le advances.written
  · exact Nat.le_of_add_right_le advances.measure
  · have ends : (final.cancelled || final.closed) = true := by
      rw [advances.cancelled cancelled, Bool.true_or]
    obtain ⟨result, returned⟩ := exists_result_run_of_ends ends
    obtain ⟨more, alone⟩ := advances_run final
    have all := advances.trans alone
    rw [List.append_nil] at all
    refine ⟨result, returned, Nat.le_of_add_right_le all.written, fun number ok => ?_⟩
    rw [ok, result?] at returned
    split at returned
    · rename_i finished
      exact fedFinal.run.keeps.flushed finished
    · cases Option.some.inj returned
    · cases returned
  · intro phase heeds
    exact unwritten_of_follow cancelled phase heeds followed
  · rintro rfl emptying opened burst
    exact follow_oneByOne fedFinal emptying opened burst

/-- One point is written and the next one waits when the order comes. -/
theorem exists_told : ∃ told, Fed none [sensorPoint 1, sensorPoint 2] told ∧
    told.cancelled = true ∧ told.phase = .emptying ∧ told.closed = false ∧
    told.written = 1 ∧ told.queue.length = 1 := by
  have followed : ((start [] false false none).follow?
      [.arrive [sensorPoint 1], .work false, .arrive [sensorPoint 2], .cancel]).map (fun result =>
        (result.1, result.2.cancelled, result.2.phase, result.2.closed, result.2.written,
          result.2.queue.length)) =
      some ([sensorPoint 1, sensorPoint 2], true, .emptying, false, 1, 1) := by
    decide +kernel
  obtain ⟨⟨points, told⟩, found, same⟩ := Option.map_eq_some_iff.mp followed
  obtain ⟨rfl, same⟩ := Prod.mk.inj same
  obtain ⟨cancelled, same⟩ := Prod.mk.inj same
  obtain ⟨phase, same⟩ := Prod.mk.inj same
  obtain ⟨opened, same⟩ := Prod.mk.inj same
  obtain ⟨written, waits⟩ := Prod.mk.inj same
  exact ⟨told, Fed.start.follow found, cancelled, phase, opened, written, waits⟩

/-- Three more points come one by one after the order. All of them are written, and the drain
returns when it is left alone. -/
theorem windsUp_of_sensor :
    ∃ told final, Fed none [sensorPoint 1, sensorPoint 2] told ∧ told.cancelled = true ∧
      told.follow? (oneByOne [sensorPoint 3, sensorPoint 4, sensorPoint 5]) =
        some ([sensorPoint 3, sensorPoint 4, sensorPoint 5], final) ∧
      told.WindsUp none (oneByOne [sensorPoint 3, sensorPoint 4, sensorPoint 5])
        [sensorPoint 3, sensorPoint 4, sensorPoint 5] final ∧
      final.written = 4 ∧ ∃ result, final.run.result? = some result ∧ final.run.written ≤ 5 := by
  obtain ⟨told, fed, cancelled, emptying, opened, one, waits⟩ := exists_told
  obtain ⟨final, followed, _, _, written⟩ :=
    follow_oneByOne fed emptying opened [sensorPoint 3, sensorPoint 4, sensorPoint 5]
  have windsUp := windsUp_of_cancelled fed cancelled followed
  obtain ⟨result, returned, few, _⟩ := windsUp.returns
  rw [one, waits] at few
  rw [one] at written
  exact ⟨told, final, fed, cancelled, followed, windsUp, written, result, returned, few⟩

/-- A drain that has been told to stop may write more than what waits and one point more. -/
theorem not_bounded_by_queue :
    ¬∀ (limit : Option Nat) (points : List Point) (told : Drain) (events : List Event)
        (arrived : List Point) (final : Drain), Fed limit points told →
      told.cancelled = true → told.follow? events = some (arrived, final) →
        final.written ≤ told.written + told.queue.length + 1 := by
  intro always
  obtain ⟨told, fed, cancelled, emptying, opened, one, waits⟩ := exists_told
  obtain ⟨final, followed, _, _, written⟩ :=
    follow_oneByOne fed emptying opened [sensorPoint 3, sensorPoint 4, sensorPoint 5]
  have few := always none _ told _ _ final fed cancelled followed
  rw [written, one, waits] at few
  exact absurd few (by decide)

end Telemetry.Drain
