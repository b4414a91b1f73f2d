/-
This file proves that the queue is a log of what the emitters were told.

As long as the consumer is there, what it received and what it will receive are together the log,
in the order of the log. The log is read off the history of settled points alone, so the law says
that the queue neither loses nor doubles nor reorders a point. The two counters follow the same
history, and every emitter settles what it was given in the order in which it was given it.

Each part is kept by every event, by the cases of `Step`; a run keeps it by induction.
-/

import Telemetry.Proofs.Stream

namespace Telemetry

namespace Stream

/-- The points that the emitter at a place is done with, in order. -/
def settledAt (stream : Stream) (place : Nat) : List Point :=
  (stream.history.filter fun settled => settled.place = place).map Settled.point

/-- How many points of the collectors with a name are in the log. -/
def entriesOf (stream : Stream) (name : String) : Nat :=
  stream.log.countP fun entry => entry.1 = name

/-- How many points were offered that could not be cleaned. -/
def rejections (stream : Stream) : Nat := stream.history.countP Settled.isRejected

/-! ### Settling points -/

theorem log_settle (stream : Stream) (place : Nat) (emitter : Emitter) (left : List Point)
    (settled : List Settled) :
    (stream.settle place emitter left settled).log =
      stream.log ++ settled.filterMap Settled.logged? :=
  List.filterMap_append

theorem rejections_settle (stream : Stream) (place : Nat) (emitter : Emitter)
    (left : List Point) (settled : List Settled) :
    (stream.settle place emitter left settled).rejections =
      stream.rejections + settled.countP Settled.isRejected :=
  List.countP_append

theorem settledAt_settle (stream : Stream) (place other : Nat) (emitter : Emitter)
    (left : List Point) (settled : List Settled) :
    (stream.settle place emitter left settled).settledAt other =
      stream.settledAt other ++
        (settled.filter fun settled => settled.place = other).map Settled.point := by
  unfold settledAt settle
  rw [List.filter_append, List.map_append]

/-- A point that was offered in vain leaves no entry, nor does what is given up with it. -/
theorem filterMap_logged?_closed (place : Nat) (collector : String) (point : Point)
    (rest : List Point) :
    ((⟨place, collector, point, some false⟩ : Settled) ::
      givenUp place collector rest).filterMap Settled.logged? = [] := by
  rw [List.filterMap_cons_none rfl, filterMap_logged?_givenUp]

/-! ### The queue -/

/-- What was received and what is in the queue, as long as the consumer is there. -/
def Flows (stream : Stream) : Prop :=
  stream.dispatcher.receiver ≠ .dropped →
    stream.received ++ stream.dispatcher.queue = stream.log.map (·.2)

theorem flows_of_step {stream after : Stream} {event : Event} (step : Step stream event after)
    (flows : stream.Flows) : after.Flows := by
  cases step with
  | join => exact flows
  | call => exact flows
  | rejected found next refused =>
    intro here
    rw [log_settle, List.filterMap_cons_none (Settled.logged?_of_error refused),
      List.filterMap_nil, List.append_nil]
    exact flows here
  | closed found next cleaned gone =>
    intro here
    exact absurd gone here
  | queued found next cleaned here room =>
    intro _
    rw [log_settle, List.filterMap_cons_some (Settled.logged?_of_ok rfl cleaned),
      List.filterMap_nil, List.map_append]
    show stream.received ++ (stream.dispatcher.queue ++ [_]) = _
    rw [← List.append_assoc, flows here]
    rfl
  | abandon found =>
    intro here
    rw [log_settle, filterMap_logged?_givenUp, List.append_nil]
    exact flows here
  | take =>
    intro here
    show stream.received ++ stream.dispatcher.takeReceiver.2.queue = _
    rw [Dispatcher.takeReceiver_queue]
    exact flows fun gone => here (Dispatcher.takeReceiver_receiver.mpr gone)
  | receive taken queue =>
    intro here
    show (stream.received ++ [_]) ++ _ = _
    rw [List.append_assoc, List.singleton_append, ← queue]
    exact flows here
  | leave =>
    intro here
    have same : stream.dispatcher.dropReceiver = stream.dispatcher :=
      Dispatcher.dropReceiver_of_open here
    show stream.received ++ stream.dispatcher.dropReceiver.queue = _
    rw [same]
    exact flows (same ▸ here)
  | report => exact flows

/-- The queue has the capacity it was made with and never holds more. -/
structure Bounded (capacity : Nat) (stream : Stream) : Prop where
  capacity : stream.dispatcher.capacity = max capacity 1
  length : stream.dispatcher.queue.length ≤ stream.dispatcher.capacity

theorem bounded_of_step {capacity : Nat} {stream after : Stream} {event : Event}
    (step : Step stream event after) (bounded : stream.Bounded capacity) :
    after.Bounded capacity := by
  cases step with
  | join => exact ⟨bounded.capacity, bounded.length⟩
  | call => exact ⟨bounded.capacity, bounded.length⟩
  | rejected => exact ⟨bounded.capacity, bounded.length⟩
  | closed => exact ⟨bounded.capacity, bounded.length⟩
  | queued found next cleaned here room =>
    refine ⟨bounded.capacity, ?_⟩
    show (stream.dispatcher.queue ++ [_]).length ≤ stream.dispatcher.capacity
    rw [List.length_append]
    exact room
  | abandon => exact ⟨bounded.capacity, bounded.length⟩
  | take =>
    refine ⟨(Dispatcher.takeReceiver_capacity _).trans bounded.capacity, ?_⟩
    show stream.dispatcher.takeReceiver.2.queue.length ≤ _
    rw [Dispatcher.takeReceiver_queue]
    exact Nat.le_trans bounded.length (Nat.le_of_eq (Dispatcher.takeReceiver_capacity _).symm)
  | receive taken queue =>
    refine ⟨bounded.capacity, Nat.le_trans ?_ bounded.length⟩
    rw [queue]
    exact Nat.le_succ _
  | leave =>
    refine ⟨(Dispatcher.dropReceiver_capacity _).trans bounded.capacity, ?_⟩
    rcases stream.dispatcher.dropReceiver_queue with empty | same
    · show stream.dispatcher.dropReceiver.queue.length ≤ _
      rw [empty]
      exact Nat.zero_le _
    · show stream.dispatcher.dropReceiver.queue.length ≤ stream.dispatcher.dropReceiver.capacity
      rw [same]
      exact bounded.length
  | report => exact ⟨bounded.capacity, bounded.length⟩

/-! ### The counters -/

/-- The counters have grown, since they were `health`, by what is in the history. -/
structure Counted (health : Health) (stream : Stream) : Prop where
  emitted : ∀ name, stream.health.emitted.count name =
    health.emitted.count name + stream.entriesOf name
  rejected : stream.health.rejected = health.rejected + stream.rejections

theorem entriesOf_settle_of_nil {stream : Stream} {place : Nat} {emitter : Emitter}
    {left : List Point} {settled : List Settled} (name : String)
    (none : settled.filterMap Settled.logged? = []) :
    (stream.settle place emitter left settled).entriesOf name = stream.entriesOf name := by
  rw [entriesOf, log_settle, none, List.append_nil]
  rfl

theorem counted_of_step {health : Health} {stream after : Stream} {event : Event}
    (step : Step stream event after) (counted : stream.Counted health) :
    after.Counted health := by
  cases step with
  | join => exact ⟨counted.emitted, counted.rejected⟩
  | call => exact ⟨counted.emitted, counted.rejected⟩
  | rejected found next refused =>
    refine ⟨fun name => ?_, ?_⟩
    · rw [entriesOf_settle_of_nil name (by
        rw [List.filterMap_cons_none (Settled.logged?_of_error refused), List.filterMap_nil])]
      exact counted.emitted name
    · rw [rejections_settle, List.countP_cons_of_pos
        (Settled.isRejected_of_error rfl refused), List.countP_nil]
      show stream.health.rejected + 1 = health.rejected + (stream.rejections + 1)
      rw [counted.rejected, Nat.add_assoc]
  | closed found next cleaned gone =>
    refine ⟨fun name => ?_, ?_⟩
    · rw [entriesOf_settle_of_nil name (filterMap_logged?_closed _ _ _ _)]
      exact counted.emitted name
    · rw [rejections_settle, List.countP_cons_of_neg (Settled.not_isRejected_of_ok cleaned),
        countP_isRejected_givenUp]
      exact counted.rejected
  | @queued place emitter point clean rest found next cleaned here room =>
    refine ⟨fun name => ?_, ?_⟩
    · rw [entriesOf, log_settle, List.countP_append,
        List.filterMap_cons_some (Settled.logged?_of_ok rfl cleaned), List.filterMap_nil]
      show (stream.health.emitted.increase emitter.collector 1).count name = _
      rw [Table.count_increase, counted.emitted name, Nat.add_assoc, List.countP_singleton]
      by_cases same : name = emitter.collector
      · simp only [same, if_true, decide_true]
        rfl
      · rw [if_neg same, if_neg (by simpa using Ne.symm same)]
        rfl
    · rw [rejections_settle, List.countP_cons_of_neg (Settled.not_isRejected_of_ok cleaned),
        List.countP_nil]
      exact counted.rejected
  | abandon found =>
    refine ⟨fun name => ?_, ?_⟩
    · rw [entriesOf_settle_of_nil name (filterMap_logged?_givenUp _ _ _)]
      exact counted.emitted name
    · rw [rejections_settle, countP_isRejected_givenUp]
      exact counted.rejected
  | take => exact ⟨counted.emitted, counted.rejected⟩
  | receive => exact ⟨counted.emitted, counted.rejected⟩
  | leave => exact ⟨counted.emitted, counted.rejected⟩
  | report => exact ⟨counted.emitted, counted.rejected⟩

/-! ### The order of each emitter -/

/-- Every settled point was settled by the emitter it names, and every emitter has settled what it
was given up to what it has left. -/
structure Ordered (stream : Stream) : Prop where
  named : ∀ settled ∈ stream.history, ∃ emitter,
    stream.emitters[settled.place]? = some emitter ∧ emitter.collector = settled.collector
  given : ∀ place emitter, stream.emitters[place]? = some emitter →
    stream.settledAt place ++ emitter.waiting = emitter.given

theorem getElem?_set_of_found {emitters : List Emitter} {place other : Nat}
    {emitter replaced asked : Emitter} (found : emitters[place]? = some emitter)
    (answer : (emitters.set place replaced)[other]? = some asked) :
    (other = place ∧ asked = replaced) ∨ (other ≠ place ∧ emitters[other]? = some asked) := by
  by_cases same : place = other
  · subst same
    have inside : place < emitters.length := (List.getElem?_eq_some_iff.mp found).1
    rw [List.getElem?_set_self inside] at answer
    exact .inl ⟨rfl, (Option.some.inj answer).symm⟩
  · rw [List.getElem?_set_ne same] at answer
    exact .inr ⟨Ne.symm same, answer⟩

/-- Replacing an emitter by one of the same collector keeps who settled what. -/
theorem named_set {stream : Stream} (ordered : stream.Ordered) {place : Nat}
    {emitter : Emitter} (replaced : Emitter) (found : stream.emitters[place]? = some emitter)
    (same : replaced.collector = emitter.collector) {settled : Settled}
    (member : settled ∈ stream.history) :
    ∃ emitter, (stream.emitters.set place replaced)[settled.place]? = some emitter ∧
      emitter.collector = settled.collector := by
  obtain ⟨owner, foundOwner, collector⟩ := ordered.named settled member
  by_cases here : place = settled.place
  · have inside : place < stream.emitters.length := (List.getElem?_eq_some_iff.mp found).1
    refine ⟨replaced, ?_, ?_⟩
    · rw [← here, List.getElem?_set_self inside]
    · have equal : emitter = owner := Option.some.inj (found.symm.trans (here ▸ foundOwner))
      rw [same, equal, collector]
  · exact ⟨owner, by rw [List.getElem?_set_ne here]; exact foundOwner, collector⟩

/-- Settling the first points of what an emitter has left keeps the order. -/
theorem ordered_settle {stream : Stream} (ordered : stream.Ordered) {place : Nat}
    {emitter : Emitter} {left : List Point} {settled : List Settled}
    (found : stream.emitters[place]? = some emitter)
    (own : ∀ one ∈ settled, one.place = place ∧ one.collector = emitter.collector)
    (cut : emitter.waiting = settled.map Settled.point ++ left) :
    (stream.settle place emitter left settled).Ordered := by
  constructor
  · intro one member
    rcases List.mem_append.mp member with before | new
    · exact named_set ordered { emitter with waiting := left } found rfl before
    · have inside : place < stream.emitters.length := (List.getElem?_eq_some_iff.mp found).1
      refine ⟨{ emitter with waiting := left }, ?_, (own one new).2.symm⟩
      rw [(own one new).1]
      exact List.getElem?_set_self inside
  · intro other asked answer
    rw [settledAt_settle]
    rcases getElem?_set_of_found found answer with ⟨rfl, rfl⟩ | ⟨different, old⟩
    · rw [List.filter_eq_self.mpr fun one member => by simp [(own one member).1],
        List.append_assoc, ← cut]
      exact ordered.given other emitter found
    · have none : (settled.filter fun one => one.place = other) = [] :=
        List.filter_eq_nil_iff.mpr fun one member => by
          simp [(own one member).1, Ne.symm different]
      rw [none, List.map_nil, List.append_nil]
      exact ordered.given other asked old

theorem ordered_of_step {stream after : Stream} {event : Event} (step : Step stream event after)
    (ordered : stream.Ordered) : after.Ordered := by
  cases step with
  | join collector =>
    constructor
    · intro one member
      obtain ⟨owner, found, same⟩ := ordered.named one member
      have inside : one.place < stream.emitters.length := (List.getElem?_eq_some_iff.mp found).1
      exact ⟨owner, by rw [List.getElem?_append_left inside]; exact found, same⟩
    · intro place emitter answer
      by_cases inside : place < stream.emitters.length
      · rw [List.getElem?_append_left inside] at answer
        exact ordered.given place emitter answer
      · -- The newcomer has settled nothing, for who settled something was there before.
        have none : (stream.history.filter fun one => one.place = place) = [] :=
          List.filter_eq_nil_iff.mpr fun one member => by
            obtain ⟨owner, found, _⟩ := ordered.named one member
            have before : one.place < stream.emitters.length :=
              (List.getElem?_eq_some_iff.mp found).1
            simp only [decide_eq_true_eq]
            omega
        rw [List.getElem?_append_right (Nat.le_of_not_lt inside)] at answer
        have newcomer : emitter = ⟨collector, [], []⟩ := by
          simpa using List.mem_of_getElem? answer
        rw [newcomer]
        show (stream.history.filter fun one => one.place = place).map Settled.point ++ [] = []
        rw [none]
        rfl
  | @call place emitter points found idle =>
    constructor
    · intro one member
      exact named_set ordered ⟨emitter.collector, emitter.given ++ points, points⟩ found rfl member
    · intro other asked answer
      rcases getElem?_set_of_found found answer with ⟨rfl, rfl⟩ | ⟨different, old⟩
      · have given := ordered.given other emitter found
        rw [idle, List.append_nil] at given
        show stream.settledAt other ++ points = emitter.given ++ points
        rw [given]
      · exact ordered.given other asked old
  | rejected found next refused =>
    have kept : Ordered { stream with health := stream.health.reject } :=
      ⟨ordered.named, ordered.given⟩
    refine ordered_settle kept found (fun one member => ?_) next
    rw [List.mem_singleton.mp member]
    exact ⟨rfl, rfl⟩
  | closed found next cleaned gone =>
    refine ordered_settle ordered found (fun one member => ?_) ?_
    · rcases List.mem_cons.mp member with rfl | later
      · exact ⟨rfl, rfl⟩
      · exact place_of_mem_givenUp later
    · rw [List.map_cons, map_point_givenUp, List.append_nil, next]
  | @queued place emitter point clean rest found next cleaned here room =>
    have kept : Ordered { stream with
        dispatcher := stream.dispatcher.enqueue emitter.collector clean
        health := stream.health.countEmitted emitter.collector
          (stream.dispatcher.enqueue emitter.collector clean).queue.length } :=
      ⟨ordered.named, ordered.given⟩
    refine ordered_settle kept found (fun one member => ?_) next
    rw [List.mem_singleton.mp member]
    exact ⟨rfl, rfl⟩
  | abandon found =>
    refine ordered_settle ordered found (fun one member => place_of_mem_givenUp member) ?_
    rw [map_point_givenUp, List.append_nil]
  | take => exact ⟨ordered.named, ordered.given⟩
  | receive => exact ⟨ordered.named, ordered.given⟩
  | leave => exact ⟨ordered.named, ordered.given⟩
  | report => exact ⟨ordered.named, ordered.given⟩

/-! ### Every run -/

/-- What every run from a new queue keeps. -/
structure Consistent (capacity : Nat) (health : Health) (stream : Stream) : Prop where
  flows : stream.Flows
  bounded : stream.Bounded capacity
  counted : stream.Counted health
  ordered : stream.Ordered

theorem consistent_start (capacity : Nat) (health : Health) :
    (start capacity health).Consistent capacity health where
  flows := fun _ => rfl
  bounded := ⟨rfl, Nat.zero_le _⟩
  counted := ⟨fun _ => rfl, rfl⟩
  ordered := ⟨fun _ member => (by cases member), fun _ _ found => (by cases found)⟩

theorem Reachable.consistent {capacity : Nat} {health : Health} {stream : Stream}
    (reachable : Reachable capacity health stream) : stream.Consistent capacity health := by
  induction reachable with
  | start => exact consistent_start capacity health
  | next event before possible inductionHypothesis =>
    have step := step_of_step? possible
    exact ⟨flows_of_step step inductionHypothesis.flows,
      bounded_of_step step inductionHypothesis.bounded,
      counted_of_step step inductionHypothesis.counted,
      ordered_of_step step inductionHypothesis.ordered⟩

/-- The log only grows: an event adds entries at its end, or none. -/
theorem log_isPrefix_of_step {stream after : Stream} {event : Event}
    (step : Step stream event after) : stream.log <+: after.log := by
  cases step with
  | join => exact List.prefix_refl _
  | call => exact List.prefix_refl _
  | rejected => exact log_settle _ _ _ _ _ ▸ List.prefix_append _ _
  | closed => exact log_settle _ _ _ _ _ ▸ List.prefix_append _ _
  | queued => exact log_settle _ _ _ _ _ ▸ List.prefix_append _ _
  | abandon => exact log_settle _ _ _ _ _ ▸ List.prefix_append _ _
  | take => exact List.prefix_refl _
  | receive => exact List.prefix_refl _
  | leave => exact List.prefix_refl _
  | report => exact List.prefix_refl _

/-- Two streams between which no point was put into the queue. -/
structure Untouched (stream after : Stream) : Prop where
  queue : after.dispatcher.queue = stream.dispatcher.queue
  emitted : after.health.emitted = stream.health.emitted
  log : after.log = stream.log

theorem untouched_of_abandon {stream after : Stream} {place : Nat}
    (step : Step stream (.abandon place) after) : stream.Untouched after := by
  cases step with
  | abandon found =>
    exact ⟨rfl, rfl, by rw [log_settle, filterMap_logged?_givenUp, List.append_nil]⟩

theorem untouched_of_gone {stream after : Stream} {place : Nat}
    (gone : stream.dispatcher.receiver = .dropped) (step : Step stream (.offer place) after) :
    stream.Untouched after := by
  cases step with
  | rejected found next refused =>
    refine ⟨rfl, rfl, ?_⟩
    rw [log_settle, List.filterMap_cons_none (Settled.logged?_of_error refused),
      List.filterMap_nil, List.append_nil]
    rfl
  | closed found next cleaned _ =>
    refine ⟨rfl, rfl, ?_⟩
    rw [log_settle, filterMap_logged?_closed, List.append_nil]
  | queued found next cleaned here room => exact absurd gone here

/-- The queue is a log of what the emitters were told. -/
structure RefinesLog (capacity : Nat) (health : Health) (stream : Stream) : Prop where
  /-- What was received and what is in the queue are the points of the log, in its order. -/
  flow : stream.dispatcher.receiver ≠ .dropped →
    stream.received ++ stream.dispatcher.queue = stream.log.map (·.2)
  /-- Every settled point was settled by an emitter of the collector it names. -/
  named : ∀ settled ∈ stream.history, ∃ emitter,
    stream.emitters[settled.place]? = some emitter ∧ emitter.collector = settled.collector
  /-- Every emitter has settled what it was given, in that order, up to what it has left. -/
  given : ∀ place emitter, stream.emitters[place]? = some emitter →
    stream.settledAt place ++ emitter.waiting = emitter.given
  bound : stream.dispatcher.queue.length ≤ max capacity 1
  emitted : ∀ name, stream.health.emitted.count name =
    health.emitted.count name + stream.entriesOf name
  rejected : stream.health.rejected = health.rejected + stream.rejections
  /-- Giving up a call touches neither the queue nor the count of its points. -/
  abandoned : ∀ place after, stream.step? (.abandon place) = some after →
    stream.Untouched after
  /-- Nor does a point that finds the consumer gone. -/
  closed : ∀ place after, stream.dispatcher.receiver = .dropped →
    stream.step? (.offer place) = some after → stream.Untouched after
  /-- Whatever happens, the entries of earlier points stay. -/
  kept : ∀ event after, stream.step? event = some after → stream.log <+: after.log

/-- Every run from a new queue is a run of a log. -/
theorem refinesLog_of_reachable {capacity : Nat} {health : Health} {stream : Stream}
    (reachable : Reachable capacity health stream) : stream.RefinesLog capacity health := by
  have consistent := reachable.consistent
  exact
    { flow := consistent.flows
      named := consistent.ordered.named
      given := consistent.ordered.given
      bound := consistent.bounded.capacity ▸ consistent.bounded.length
      emitted := consistent.counted.emitted
      rejected := consistent.counted.rejected
      abandoned := fun _ _ possible => untouched_of_abandon (step_of_step? possible)
      closed := fun _ _ gone possible => untouched_of_gone gone (step_of_step? possible)
      kept := fun _ _ possible => log_isPrefix_of_step (step_of_step? possible) }

/-- Two collectors share a queue for one point. The first one has a point that cannot be cleaned,
and gives up the point for which there is no room. -/
def twoCollectors : List Event :=
  let point (metric : String) : Point := ⟨metric, 0, .integer 1, ∅⟩
  [.join "load", .join "disk", .take, .call 0 [point "load one", point "?", point "load.two"],
   .call 1 [point "disk"], .offer 0, .offer 0, .abandon 0, .receive, .offer 1]

/-- In such a run one point is received, one is in the queue, and one was rejected. -/
theorem refinesLog_of_twoCollectors :
    ∃ stream, (start 0 Health.fresh).run? twoCollectors = some stream ∧
      stream.RefinesLog 0 Health.fresh ∧
      stream.log.map (fun entry => (entry.1, entry.2.metric)) =
        [("load", "loadone"), ("disk", "disk")] ∧
      stream.rejections = 1 := by
  have possible : ((start 0 Health.fresh).run? twoCollectors).isSome = true := by decide +kernel
  obtain ⟨stream, run⟩ := Option.isSome_iff_exists.mp possible
  have logged : ((start 0 Health.fresh).run? twoCollectors).map (fun stream =>
      (stream.log.map (fun entry => (entry.1, entry.2.metric)), stream.rejections)) =
      some ([("load", "loadone"), ("disk", "disk")], 1) := by decide +kernel
  rw [run] at logged
  obtain ⟨entries, rejections⟩ := Prod.mk.inj (Option.some.inj logged)
  exact ⟨stream, run, refinesLog_of_reachable (Reachable.start.run run), entries, rejections⟩

/-! ### A batch on its own -/

/-- When nobody else acts, an emitter that offers its points one after the other does what offering
them as a batch does. -/
theorem exists_run_emitBatch {stream : Stream} {place : Nat} {emitter : Emitter}
    (found : stream.emitters[place]? = some emitter) :
    ∃ count after, stream.run? (List.replicate count (.offer place)) = some after ∧
      after.dispatcher = (stream.dispatcher.emitBatch stream.health emitter.collector
        emitter.waiting).dispatcher ∧
      after.health = (stream.dispatcher.emitBatch stream.health emitter.collector
        emitter.waiting).health := by
  obtain ⟨collector, given, waiting⟩ := emitter
  induction waiting generalizing stream with
  | nil => exact ⟨0, stream, rfl, rfl, rfl⟩
  | cons point rest inductionHypothesis =>
    have inside : place < stream.emitters.length := (List.getElem?_eq_some_iff.mp found).1
    have later (next : Stream) (possible : stream.offer? place = some next)
        (left : next.emitters[place]? = some ⟨collector, given, rest⟩) :
        ∃ count after, stream.run? (List.replicate count (.offer place)) = some after ∧
          after.dispatcher =
            (next.dispatcher.emitBatch next.health collector rest).dispatcher ∧
          after.health = (next.dispatcher.emitBatch next.health collector rest).health := by
      obtain ⟨count, after, run, queue, counters⟩ := inductionHypothesis left
      refine ⟨count + 1, after, ?_, queue, counters⟩
      rw [List.replicate_succ, run?, step?, possible]
      exact run
    have emits := stream.dispatcher.emits_emit stream.health collector point
    generalize same : stream.dispatcher.emit stream.health collector point = emission at emits
    simp only [Dispatcher.emitBatch, same]
    cases emits with
    | rejected refused =>
      refine later (settle { stream with health := stream.health.reject } place
        ⟨collector, given, point :: rest⟩ rest [⟨place, collector, point, some true⟩]) ?_
        (List.getElem?_set_self inside)
      simp only [offer?, found, same]
    | closed cleaned gone => exact ⟨0, stream, rfl, rfl, rfl⟩
    | @queued clean cleaned here room =>
      refine later (settle { stream with
          dispatcher := stream.dispatcher.enqueue collector clean
          health := stream.health.countEmitted collector
            (stream.dispatcher.enqueue collector clean).queue.length } place
        ⟨collector, given, point :: rest⟩ rest [⟨place, collector, point, some true⟩]) ?_
        (List.getElem?_set_self inside)
      simp only [offer?, found, same]
    | full cleaned here occupied => exact ⟨0, stream, rfl, rfl, rfl⟩

end Stream

end Telemetry
