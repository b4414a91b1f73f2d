/-
This file opens the events of a stream.

Offering a point comes to one of four outcomes, and an event does to a stream what one of the cases
of `Step` says. Whatever holds of all runs is proved by these cases, so nothing else looks into the
definitions of the events.
-/

import Telemetry.Stream
import Telemetry.Proofs.Canonical

namespace Telemetry

/-! ### Offering one point -/

namespace Dispatcher

/-- What offering a point may come to. -/
inductive Emits (dispatcher : Dispatcher) (health : Health) (collector : String) (point : Point) :
    Emission → Prop where
  | rejected {refusal : Refusal} (refused : point.clean = .error refusal) :
      Emits dispatcher health collector point ⟨.rejected, [], dispatcher, health.reject⟩
  | closed {clean : Point} (cleaned : point.clean = .ok clean)
      (gone : dispatcher.receiver = .dropped) :
      Emits dispatcher health collector point ⟨.closed, [point], dispatcher, health⟩
  | queued {clean : Point} (cleaned : point.clean = .ok clean)
      (here : dispatcher.receiver ≠ .dropped)
      (room : dispatcher.queue.length < dispatcher.capacity) :
      Emits dispatcher health collector point
        ⟨.queued, [], dispatcher.enqueue collector clean,
          health.countEmitted collector (dispatcher.enqueue collector clean).queue.length⟩
  | full {clean : Point} (cleaned : point.clean = .ok clean)
      (here : dispatcher.receiver ≠ .dropped)
      (occupied : dispatcher.capacity ≤ dispatcher.queue.length) :
      Emits dispatcher health collector point ⟨.full, [point], dispatcher, health⟩

/-- Offering a point comes to one of these. -/
theorem emits_emit (dispatcher : Dispatcher) (health : Health) (collector : String)
    (point : Point) :
    dispatcher.Emits health collector point (dispatcher.emit health collector point) := by
  unfold emit
  split
  · rename_i refusal refused
    exact .rejected refused
  · rename_i clean cleaned
    by_cases gone : dispatcher.receiver = .dropped
    · rw [if_pos (by simp [isClosed, gone])]
      exact .closed cleaned gone
    · rw [if_neg (by simp [isClosed, gone])]
      by_cases room : dispatcher.queue.length < dispatcher.capacity
      · rw [if_pos (by simp [hasRoom, room])]
        exact .queued cleaned gone room
      · rw [if_neg (by simp [hasRoom, room])]
        exact .full cleaned gone (Nat.le_of_not_lt room)

/-! ### The receiving end -/

@[simp] theorem takeReceiver_queue (dispatcher : Dispatcher) :
    dispatcher.takeReceiver.2.queue = dispatcher.queue := by
  unfold takeReceiver
  split <;> rfl

@[simp] theorem takeReceiver_capacity (dispatcher : Dispatcher) :
    dispatcher.takeReceiver.2.capacity = dispatcher.capacity := by
  unfold takeReceiver
  split <;> rfl

/-- Asking for the receiving end does not end it. -/
theorem takeReceiver_receiver {dispatcher : Dispatcher} :
    dispatcher.takeReceiver.2.receiver = .dropped ↔ dispatcher.receiver = .dropped := by
  unfold takeReceiver
  split
  · rename_i held
    simp [held]
  · rfl

@[simp] theorem dropReceiver_capacity (dispatcher : Dispatcher) :
    dispatcher.dropReceiver.capacity = dispatcher.capacity := by
  unfold dropReceiver
  split <;> rfl

/-- When the consumer goes, the points that wait are lost and none is added. -/
theorem dropReceiver_queue (dispatcher : Dispatcher) :
    dispatcher.dropReceiver.queue = [] ∨ dispatcher.dropReceiver = dispatcher := by
  unfold dropReceiver
  split
  · exact .inl rfl
  · exact .inr rfl

/-- A consumer that is still there after it was to go was not there yet. -/
theorem dropReceiver_of_open {dispatcher : Dispatcher}
    (here : dispatcher.dropReceiver.receiver ≠ .dropped) :
    dispatcher.dropReceiver = dispatcher := by
  unfold dropReceiver at here ⊢
  split at here
  · exact absurd rfl here
  · rfl

end Dispatcher

/-! ### Settled points -/

namespace Settled

/-- A point that could not be cleaned has no entry in the log, whatever was answered. -/
theorem logged?_of_error {settled : Settled} {refusal : Refusal}
    (refused : settled.point.clean = .error refusal) : settled.logged? = none := by
  rw [logged?, refused]
  split
  · rename_i cleaned
    cases cleaned
  · rfl

/-- A point for which the consumer was there is in the log in its clean form. -/
theorem logged?_of_ok {settled : Settled} {clean : Point} (answer : settled.answer = some true)
    (cleaned : settled.point.clean = .ok clean) :
    settled.logged? = some (settled.collector, clean) := by
  rw [logged?, answer, cleaned]

theorem isRejected_of_error {settled : Settled} {answer : Bool} {refusal : Refusal}
    (answered : settled.answer = some answer) (refused : settled.point.clean = .error refusal) :
    settled.isRejected = true := by
  rw [isRejected, answered, refused]

theorem not_isRejected_of_ok {place : Nat} {collector : String} {point clean : Point}
    {answer : Option Bool} (cleaned : point.clean = .ok clean) :
    ¬(Settled.mk place collector point answer).isRejected = true := by
  rw [isRejected, cleaned]
  split
  · rename_i refused
    cases refused
  · exact Bool.false_ne_true

end Settled

namespace Stream

/-- What is given up of a call has no entry in the log. -/
@[simp] theorem filterMap_logged?_givenUp (place : Nat) (collector : String) (points : List Point) :
    (givenUp place collector points).filterMap Settled.logged? = [] := by
  induction points with
  | nil => rfl
  | cons point rest inductionHypothesis =>
    rw [givenUp, List.map_cons, List.filterMap_cons_none rfl]
    exact inductionHypothesis

/-- What is given up of a call was not rejected. -/
@[simp] theorem countP_isRejected_givenUp (place : Nat) (collector : String)
    (points : List Point) : (givenUp place collector points).countP Settled.isRejected = 0 := by
  induction points with
  | nil => rfl
  | cons point rest inductionHypothesis =>
    rw [givenUp, List.map_cons, List.countP_cons_of_neg (by simp [Settled.isRejected])]
    exact inductionHypothesis

/-- What is given up of a call is what was left of it. -/
theorem map_point_givenUp (place : Nat) (collector : String) (points : List Point) :
    (givenUp place collector points).map Settled.point = points := by
  rw [givenUp, List.map_map]
  exact List.map_id points

theorem place_of_mem_givenUp {place : Nat} {collector : String} {points : List Point}
    {settled : Settled} (member : settled ∈ givenUp place collector points) :
    settled.place = place ∧ settled.collector = collector := by
  obtain ⟨point, _, rfl⟩ := List.mem_map.mp member
  exact ⟨rfl, rfl⟩

/-! ### Events -/

/-- What an event does to a stream in which it is possible. -/
inductive Step (stream : Stream) : Event → Stream → Prop where
  | join (collector : String) :
      Step stream (.join collector)
        { stream with emitters := stream.emitters ++ [⟨collector, [], []⟩] }
  | call {place : Nat} {emitter : Emitter} (points : List Point)
      (found : stream.emitters[place]? = some emitter) (idle : emitter.waiting = []) :
      Step stream (.call place points)
        { stream with
          emitters := stream.emitters.set place
            ⟨emitter.collector, emitter.given ++ points, points⟩ }
  | rejected {place : Nat} {emitter : Emitter} {point : Point} {rest : List Point}
      {refusal : Refusal} (found : stream.emitters[place]? = some emitter)
      (next : emitter.waiting = point :: rest) (refused : point.clean = .error refusal) :
      Step stream (.offer place)
        (settle { stream with health := stream.health.reject } place emitter rest
          [⟨place, emitter.collector, point, some true⟩])
  | closed {place : Nat} {emitter : Emitter} {point clean : Point} {rest : List Point}
      (found : stream.emitters[place]? = some emitter) (next : emitter.waiting = point :: rest)
      (cleaned : point.clean = .ok clean) (gone : stream.dispatcher.receiver = .dropped) :
      Step stream (.offer place)
        (settle stream place emitter []
          (⟨place, emitter.collector, point, some false⟩ ::
            givenUp place emitter.collector rest))
  | queued {place : Nat} {emitter : Emitter} {point clean : Point} {rest : List Point}
      (found : stream.emitters[place]? = some emitter) (next : emitter.waiting = point :: rest)
      (cleaned : point.clean = .ok clean) (here : stream.dispatcher.receiver ≠ .dropped)
      (room : stream.dispatcher.queue.length < stream.dispatcher.capacity) :
      Step stream (.offer place)
        (settle { stream with
            dispatcher := stream.dispatcher.enqueue emitter.collector clean
            health := stream.health.countEmitted emitter.collector
              (stream.dispatcher.enqueue emitter.collector clean).queue.length }
          place emitter rest [⟨place, emitter.collector, point, some true⟩])
  | abandon {place : Nat} {emitter : Emitter} (found : stream.emitters[place]? = some emitter) :
      Step stream (.abandon place)
        (settle stream place emitter [] (givenUp place emitter.collector emitter.waiting))
  | take : Step stream .take { stream with dispatcher := stream.dispatcher.takeReceiver.2 }
  | receive {point : Point} {rest : List Point} (taken : stream.dispatcher.receiver = .taken)
      (queue : stream.dispatcher.queue = point :: rest) :
      Step stream .receive
        { stream with
          dispatcher := { stream.dispatcher with queue := rest }
          received := stream.received ++ [point] }
  | leave : Step stream .leave { stream with dispatcher := stream.dispatcher.dropReceiver }
  | report : Step stream .report { stream with dispatcher := stream.dispatcher.snapshot.2 }

theorem step_of_offer? {stream after : Stream} {place : Nat}
    (offer : stream.offer? place = some after) : Step stream (.offer place) after := by
  unfold offer? at offer
  split at offer
  · rename_i collector given point rest found
    have emits := stream.dispatcher.emits_emit stream.health collector point
    simp only at offer
    generalize stream.dispatcher.emit stream.health collector point = emission at emits offer
    cases emits with
    | rejected refused =>
      rw [← Option.some.inj offer]
      exact .rejected found rfl refused
    | closed cleaned gone =>
      rw [← Option.some.inj offer]
      exact .closed found rfl cleaned gone
    | queued cleaned here room =>
      rw [← Option.some.inj offer]
      exact .queued found rfl cleaned here room
    | full cleaned here occupied => cases offer
  · cases offer

theorem step_of_receive? {stream after : Stream} (received : stream.receive? = some after) :
    Step stream .receive after := by
  unfold receive? at received
  split at received
  · rename_i point dispatcher taken popped
    obtain ⟨rest, queue, rfl⟩ := Dispatcher.queue_of_receive popped
    obtain rfl := Option.some.inj received
    exact .receive taken queue
  · cases received

/-- An event that is possible does what the cases say. -/
theorem step_of_step? {stream after : Stream} {event : Event}
    (step : stream.step? event = some after) : Step stream event after := by
  cases event with
  | join collector =>
    rw [← Option.some.inj step]
    exact .join collector
  | call place points =>
    rw [step?, call?] at step
    split at step
    · rename_i collector given found
      rw [← Option.some.inj step]
      exact .call points found rfl
    · cases step
  | offer place => exact step_of_offer? step
  | abandon place =>
    rw [step?, abandon?] at step
    split at step
    · rename_i emitter found
      rw [← Option.some.inj step]
      exact .abandon found
    · cases step
  | take =>
    rw [← Option.some.inj step]
    exact .take
  | receive => exact step_of_receive? step
  | leave =>
    rw [← Option.some.inj step]
    exact .leave
  | report =>
    rw [← Option.some.inj step]
    exact .report

end Stream

end Telemetry
