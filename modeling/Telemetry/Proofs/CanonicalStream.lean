/-
This file proves that nothing but canonical points is in the stream.

A point is cleaned when it is offered, whatever was done to it before, so what is queued is
canonical, and events only move points from there on. A point from the call site or from a line was
cleaned before, and cleaning it once more changes nothing: it is never rejected, and it arrives as
it was made.
-/

import Telemetry.Proofs.Log

namespace Telemetry

/-- The points that are made at the call site or read from a line, under any context. -/
inductive Point.Produced : Point → Prop where
  | canonicalized {context : Context} {metric : String} {timestamp : Int64} {value : Value}
      {tags : TagSet} {point : Point}
      (success : context.canonicalize metric timestamp value tags = .ok point) : Produced point
  | read {context : Context} {text : String} {line : Line}
      (success : Line.read context text = .ok line) : Produced line.point

theorem Point.Produced.isCanonical {point : Point} (produced : point.Produced) :
    point.IsCanonical := by
  cases produced with
  | canonicalized success => exact Context.isCanonical_of_canonicalize success
  | read success => exact Line.isCanonical_of_read success

namespace Dispatcher

/-- A canonical point is not rejected, and the queue takes it as it is. -/
theorem emit_of_isCanonical {point : Point} (canonical : point.IsCanonical)
    (dispatcher : Dispatcher) (health : Health) (collector : String) :
    (dispatcher.emit health collector point).outcome ≠ .rejected ∧
      ((dispatcher.emit health collector point).outcome = .queued →
        (dispatcher.emit health collector point).dispatcher.queue =
          dispatcher.queue ++ [point]) := by
  have same : point.clean = .ok point := Point.clean_of_isCanonical canonical
  have emits := dispatcher.emits_emit health collector point
  generalize dispatcher.emit health collector point = emission at emits
  cases emits with
  | rejected refused => cases same.symm.trans refused
  | closed => exact ⟨nofun, nofun⟩
  | queued cleaned here room =>
    rw [same] at cleaned
    refine ⟨nofun, fun _ => ?_⟩
    rw [← Except.ok.inj cleaned]
    rfl
  | full => exact ⟨nofun, nofun⟩

end Dispatcher

namespace Stream

/-- All points that were received or are in the queue are canonical. -/
def HoldsCanonical (stream : Stream) : Prop :=
  ∀ point ∈ stream.received ++ stream.dispatcher.queue, point.IsCanonical

/-- Points that were there before, received or queued, are canonical still. -/
theorem HoldsCanonical.mono {stream after : Stream} (canonical : stream.HoldsCanonical)
    (old : ∀ point ∈ after.received ++ after.dispatcher.queue,
      point ∈ stream.received ++ stream.dispatcher.queue) : after.HoldsCanonical :=
  fun point member => canonical point (old point member)

theorem holdsCanonical_of_step {stream after : Stream} {event : Event}
    (step : Step stream event after) (canonical : stream.HoldsCanonical) :
    after.HoldsCanonical := by
  cases step with
  | join => exact canonical
  | call => exact canonical
  | rejected => exact canonical
  | closed => exact canonical
  | @queued place emitter point clean rest found next cleaned here room =>
    intro asked member
    have inQueue : asked ∈ stream.received ++ (stream.dispatcher.queue ++ [clean]) := member
    rw [← List.append_assoc] at inQueue
    rcases List.mem_append.mp inQueue with before | new
    · exact canonical asked before
    · rw [List.mem_singleton.mp new]
      exact Point.isCanonical_of_clean cleaned
  | abandon => exact canonical
  | take =>
    refine canonical.mono fun point member => ?_
    rw [Dispatcher.takeReceiver_queue] at member
    exact member
  | receive taken queue =>
    refine canonical.mono fun point member => ?_
    rw [queue]
    simpa using member
  | leave =>
    refine canonical.mono fun point member => ?_
    rcases stream.dispatcher.dropReceiver_queue with empty | same
    · rw [empty, List.append_nil] at member
      exact List.mem_append_left _ member
    · rw [same] at member
      exact member
  | report => exact canonical

theorem Reachable.holdsCanonical {capacity : Nat} {health : Health} {stream : Stream}
    (reachable : Reachable capacity health stream) : stream.HoldsCanonical := by
  induction reachable with
  | start => exact fun point member => by cases member
  | next event before possible inductionHypothesis =>
    exact holdsCanonical_of_step (step_of_step? possible) inductionHypothesis

/-- What the stream does with a canonical point: an emitter that was told that the consumer is there
has put this very point into the log, and the point was not rejected. -/
theorem logged?_of_isCanonical {settled : Settled} (canonical : settled.point.IsCanonical) :
    settled.isRejected = false ∧
      (settled.answer = some true →
        settled.logged? = some (settled.collector, settled.point)) := by
  have same : settled.point.clean = .ok settled.point := Point.clean_of_isCanonical canonical
  exact ⟨Bool.eq_false_iff.mpr (Settled.not_isRejected_of_ok same),
    fun answer => Settled.logged?_of_ok answer same⟩

/-- In every run all points received or queued are canonical. A point from the call site or from a
line is rejected by no queue and joins it as it is; where an emitter was told that the consumer is
there, it is in the log as it is, and so, while the consumer is there, received or queued. -/
theorem canonical_of_reachable {capacity : Nat} {health : Health} {stream : Stream}
    (reachable : Reachable capacity health stream) :
    (∀ point ∈ stream.received ++ stream.dispatcher.queue, point.IsCanonical) ∧
    (∀ point : Point, point.Produced →
      ∀ (dispatcher : Dispatcher) (counters : Health) (collector : String),
        (dispatcher.emit counters collector point).outcome ≠ .rejected ∧
        ((dispatcher.emit counters collector point).outcome = .queued →
          (dispatcher.emit counters collector point).dispatcher.queue =
            dispatcher.queue ++ [point])) ∧
    (∀ settled ∈ stream.history, settled.point.Produced →
      settled.isRejected = false ∧
      (settled.answer = some true →
        (settled.collector, settled.point) ∈ stream.log ∧
        (stream.dispatcher.receiver ≠ .dropped →
          settled.point ∈ stream.received ++ stream.dispatcher.queue))) := by
  refine ⟨reachable.holdsCanonical, fun point produced =>
    Dispatcher.emit_of_isCanonical produced.isCanonical, fun settled member produced => ?_⟩
  obtain ⟨kept, entry⟩ := logged?_of_isCanonical produced.isCanonical
  refine ⟨kept, fun answer => ?_⟩
  have logged : (settled.collector, settled.point) ∈ stream.log :=
    List.mem_filterMap.mpr ⟨settled, member, entry answer⟩
  refine ⟨logged, fun here => ?_⟩
  rw [reachable.consistent.flows here]
  exact List.mem_map_of_mem logged

/-- The point that the line `cpu 60 2 core=1` gives on the host `web 01`. -/
def cpuPoint : Point :=
  ⟨"cpu", 60, .integer 2, (Table.empty.insert "core" "1").insert "host" "web01"⟩

/-- A point that was read from a line is queued behind one that had to be cleaned. -/
theorem canonical_of_cpuPoint :
    ∃ stream, (start 2 Health.fresh).run?
        [.join "app", .call 0 [⟨"a b", 0, .integer 1, ∅⟩, cpuPoint], .offer 0, .offer 0] =
          some stream ∧
      (∀ point ∈ stream.received ++ stream.dispatcher.queue, point.IsCanonical) ∧
      cpuPoint.Produced ∧ cpuPoint ∈ stream.received ++ stream.dispatcher.queue ∧
      (stream.dispatcher.emit stream.health "app" cpuPoint).outcome ≠ .rejected := by
  have possible : ((start 2 Health.fresh).run?
      [.join "app", .call 0 [⟨"a b", 0, .integer 1, ∅⟩, cpuPoint], .offer 0,
        .offer 0]).any (fun stream => stream.dispatcher.receiver = .held ∧
          ⟨0, "app", cpuPoint, some true⟩ ∈ stream.history) = true := by
    decide +kernel
  obtain ⟨stream, run, here, settled⟩ : ∃ stream, _ = some stream ∧ _ := by
    simpa only [Option.any_eq_true, decide_eq_true_eq] using possible
  have read : (Line.read (Context.new "web 01") "cpu 60 2 core=1").toOption =
      some ⟨cpuPoint, none⟩ := by decide +kernel
  have produced : cpuPoint.Produced := by
    cases line : Line.read (Context.new "web 01") "cpu 60 2 core=1" with
    | error _ =>
      rw [line] at read
      cases read
    | ok found =>
      rw [line] at read
      have same : found = ⟨cpuPoint, none⟩ := Option.some.inj read
      have made := Point.Produced.read line
      rw [same] at made
      exact made
  obtain ⟨canonical, emits, arrives⟩ := canonical_of_reachable (Reachable.start.run run)
  refine ⟨stream, run, canonical, produced, ?_, (emits cpuPoint produced _ _ _).1⟩
  exact ((arrives _ settled produced).2 rfl).2 (by rw [here]; exact nofun)

end Stream

end Telemetry
