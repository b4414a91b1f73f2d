/-
This file says what the gauge of the queue shows.

The gauge is set behind every point that is put into the queue, to the slots that were not free a
moment before, and at no other time. So it shows what was there when some emitter looked: the points
that waited then, and besides them the slots that were given to emitters whose points were not in
the queue yet, and those of points that were received but had not come back. The consumer takes
points without a word to the gauge, other emitters may put theirs into the queue in between, and of
two emitters the one that looked first may be the last to set it. The gauge agrees with the queue
exactly if what has come since makes up for what has gone.

The desk at which an emitter looked is kept beside the desk of now. The slots that are free, those
that are given, those that come back and the points in the queue are as many as there is room, so
what the emitter saw is known from that desk. The rest follows from the log, which holds the points
that were received and those that wait.
-/

import Telemetry.Proofs.Stream
import Telemetry.Desk

namespace Telemetry

namespace Desk

variable {capacity : Nat} {health : Health} {desk after early later : Desk} {event : Event}
  {place : Nat}

/-! ### Events -/

/-- What events do. -/
inductive Deed (desk : Desk) : Event → Desk → Prop where
  | join {collector : String} :
      Deed desk (.join collector) { desk with senders := desk.senders ++ [⟨collector, .idle⟩] }
  | rejected {place : Nat} {point : Point} {refusal : Refusal}
      (idle : desk.stage? place = some .idle) (refused : point.clean = .error refusal) :
      Deed desk (.emit place point) { desk with health := desk.health.reject }
  | offered {place : Nat} {point clean : Point} (idle : desk.stage? place = some .idle)
      (cleaned : point.clean = .ok clean) :
      Deed desk (.emit place point) (desk.move place (.offering clean))
  | wait {place : Nat} {point : Point} {slots : Slots}
      (offers : desk.stage? place = some (.offering point))
      (here : desk.dispatcher.receiver ≠ .dropped)
      (waits : desk.slots.wait? place = some slots) :
      Deed desk (.wait place) { desk with slots := slots }
  | claim {place : Nat} {point : Point} {slots : Slots}
      (offers : desk.stage? place = some (.offering point))
      (here : desk.dispatcher.receiver ≠ .dropped)
      (claims : desk.slots.claim? place = some slots) :
      Deed desk (.claim place) { desk with slots := slots }
  | push {place : Nat} {point : Point} (offers : desk.stage? place = some (.offering point))
      (has : place ∈ desk.slots.held) :
      Deed desk (.push place)
        { desk.move place .queued with
          dispatcher := desk.dispatcher.push point
          slots := desk.slots.use place
          log := desk.log ++ [point] }
  | refuse {place : Nat} {point : Point} (offers : desk.stage? place = some (.offering point))
      (gone : desk.dispatcher.receiver = .dropped) :
      Deed desk (.refuse place) (desk.move place .idle)
  | abandon {place : Nat} {point : Point} (offers : desk.stage? place = some (.offering point)) :
      Deed desk (.abandon place) { desk.move place .idle with slots := desk.slots.quit place }
  | count {place : Nat} {collector : String}
      (found : desk.senders[place]? = some ⟨collector, .queued⟩) :
      Deed desk (.count place)
        { desk.move place .counted with
          dispatcher := desk.dispatcher.record collector
          health := desk.health.countQueued collector }
  | measure {place : Nat} (counted : desk.stage? place = some .counted) :
      Deed desk (.measure place) (desk.move place (.measured desk.taken))
  | tell {place length : Nat} (measured : desk.stage? place = some (.measured length)) :
      Deed desk (.tell place)
        { desk.move place .idle with health := desk.health.setQueueLength length }
  | take : Deed desk .take { desk with dispatcher := desk.dispatcher.takeReceiver.2 }
  | receive {point : Point} {rest : List Point} (taken : desk.dispatcher.receiver = .taken)
      (queue : desk.dispatcher.queue = point :: rest) :
      Deed desk .receive
        { desk with
          dispatcher := { desk.dispatcher with queue := rest }
          returning := desk.returning + 1
          received := desk.received ++ [point] }
  | restore {returning : Nat} (outside : desk.returning = returning + 1) :
      Deed desk .restore { desk with slots := desk.slots.restore, returning := returning }
  | leave (taken : desk.dispatcher.receiver = .taken) :
      Deed desk .leave
        { desk with dispatcher := desk.dispatcher.dropReceiver, slots := desk.slots.close }
  | report : Deed desk .report { desk with dispatcher := desk.dispatcher.snapshot.2 }

theorem deed_of_ask {slots? : Option Slots} (asked : desk.ask? place slots? = some after) :
    ∃ point slots, desk.stage? place = some (.offering point) ∧
      desk.dispatcher.receiver ≠ .dropped ∧ slots? = some slots ∧
      after = { desk with slots := slots } := by
  unfold ask? at asked
  split at asked
  · rename_i point offers
    split at asked
    · cases asked
    · rename_i here
      obtain ⟨slots, given, same⟩ := Option.map_eq_some_iff.mp asked
      exact ⟨point, slots, offers, fun gone => here (decide_eq_true gone), given, same.symm⟩
  · cases asked

theorem deed_of_emit {point : Point} (emitted : desk.emit? place point = some after) :
    desk.Deed (.emit place point) after := by
  unfold emit? at emitted
  split at emitted
  · rename_i idle
    split at emitted
    · rename_i refused
      obtain rfl := Option.some.inj emitted
      exact .rejected idle refused
    · rename_i cleaned
      obtain rfl := Option.some.inj emitted
      exact .offered idle cleaned
  · cases emitted

theorem deed_of_push (pushed : desk.push? place = some after) : desk.Deed (.push place) after := by
  unfold push? at pushed
  split at pushed
  · rename_i offers
    split at pushed
    · rename_i has
      obtain rfl := Option.some.inj pushed
      exact .push offers has
    · cases pushed
  · cases pushed

theorem deed_of_refuse (refused : desk.refuse? place = some after) :
    desk.Deed (.refuse place) after := by
  unfold refuse? at refused
  split at refused
  · rename_i offers
    split at refused
    · rename_i gone
      obtain rfl := Option.some.inj refused
      exact .refuse offers (of_decide_eq_true gone)
    · cases refused
  · cases refused

theorem deed_of_receive (received : desk.receive? = some after) : desk.Deed .receive after := by
  unfold receive? at received
  split at received
  · rename_i point dispatcher taken popped
    obtain ⟨rest, queue, rfl⟩ := Dispatcher.queue_of_receive popped
    obtain rfl := Option.some.inj received
    exact .receive taken queue
  · cases received

theorem deed_of_after (happened : desk.after? event = some after) : desk.Deed event after := by
  cases event with
  | join collector =>
    obtain rfl := Option.some.inj happened
    exact .join
  | emit place point => exact deed_of_emit happened
  | wait place =>
    obtain ⟨point, slots, offers, here, waits, rfl⟩ := deed_of_ask happened
    exact .wait offers here waits
  | claim place =>
    obtain ⟨point, slots, offers, here, claims, rfl⟩ := deed_of_ask happened
    exact .claim offers here claims
  | push place => exact deed_of_push happened
  | refuse place => exact deed_of_refuse happened
  | abandon place =>
    simp only [after?, abandon?] at happened
    split at happened
    · rename_i offers
      obtain rfl := Option.some.inj happened
      exact .abandon offers
    · cases happened
  | count place =>
    simp only [after?, count?] at happened
    split at happened
    · rename_i found
      obtain rfl := Option.some.inj happened
      exact .count found
    · cases happened
  | measure place =>
    simp only [after?, measure?] at happened
    split at happened
    · rename_i counted
      obtain rfl := Option.some.inj happened
      exact .measure counted
    · cases happened
  | tell place =>
    simp only [after?, tell?] at happened
    split at happened
    · rename_i measured
      obtain rfl := Option.some.inj happened
      exact .tell measured
    · cases happened
  | take =>
    obtain rfl := Option.some.inj happened
    exact .take
  | receive => exact deed_of_receive happened
  | restore =>
    simp only [after?, restore?] at happened
    split at happened
    · cases happened
    · rename_i outside
      obtain rfl := Option.some.inj happened
      exact .restore outside
  | leave =>
    simp only [after?, leave?] at happened
    split at happened
    · rename_i taken
      obtain rfl := Option.some.inj happened
      exact .leave taken
    · cases happened
  | report =>
    obtain rfl := Option.some.inj happened
    exact .report

/-- Nothing stands in the way of a deed. -/
theorem after_of_deed (deed : desk.Deed event after) : desk.after? event = some after := by
  have isOpen (here : desk.dispatcher.receiver ≠ .dropped) : desk.dispatcher.isClosed = false :=
    decide_eq_false here
  cases deed with
  | join => rfl
  | rejected idle refused => simp only [after?, emit?, idle, refused]
  | offered idle cleaned => simp only [after?, emit?, idle, cleaned]
  | wait offers here waits => simp [after?, ask?, offers, isOpen here, waits]
  | claim offers here claims => simp [after?, ask?, offers, isOpen here, claims]
  | push offers has => simp only [after?, push?, offers, if_pos has]
  | refuse offers gone => simp [after?, refuse?, offers, Dispatcher.isClosed, gone]
  | abandon offers => simp only [after?, abandon?, offers]
  | count found => simp only [after?, count?, found]
  | measure counted => simp only [after?, measure?, counted]
  | tell measured => simp only [after?, tell?, measured]
  | take => rfl
  | receive taken queue => simp only [after?, receive?, Dispatcher.receive, taken, queue]
  | restore outside => simp only [after?, restore?, outside]
  | leave taken => simp only [after?, leave?, taken]
  | report => rfl

/-! ### One event -/

/-- The capacity of a queue does not change. -/
theorem capacity_of_deed (deed : desk.Deed event after) :
    after.dispatcher.capacity = desk.dispatcher.capacity := by
  cases deed with
  | take => exact desk.dispatcher.takeReceiver_capacity
  | leave => exact desk.dispatcher.dropReceiver_capacity
  | _ => rfl

/-- A consumer that is gone does not come back. -/
theorem here_of_deed (deed : desk.Deed event after)
    (here : after.dispatcher.receiver ≠ .dropped) : desk.dispatcher.receiver ≠ .dropped := by
  cases deed with
  | take => exact fun gone => here (Dispatcher.takeReceiver_receiver.mpr gone)
  | leave taken =>
    rw [taken]
    exact nofun
  | _ => exact here

/-- What was put into the queue or received stays so. -/
theorem grows_of_deed (deed : desk.Deed event after) :
    desk.log <+: after.log ∧ desk.received <+: after.received := by
  cases deed with
  | push => exact ⟨List.prefix_append _ _, List.prefix_refl _⟩
  | receive => exact ⟨List.prefix_refl _, List.prefix_append _ _⟩
  | _ => exact ⟨List.prefix_refl _, List.prefix_refl _⟩

/-- Only an emitter that has looked sets the gauge. -/
theorem gauge_of_deed (deed : desk.Deed event after) (other : ∀ place, event ≠ .tell place) :
    after.health.queueLength = desk.health.queueLength := by
  cases deed with
  | tell => exact absurd rfl (other _)
  | _ => rfl

theorem stage_move (stage : Stage) (found : (desk.stage? place).isSome = true) :
    (desk.move place stage).stage? place = some stage := by
  simp only [stage?, Option.isSome_map] at found
  obtain ⟨sender, there⟩ := Option.isSome_iff_exists.mp found
  simp [stage?, move, there]

theorem stage_move_ne (stage : Stage) {other : Nat} (different : other ≠ place) :
    (desk.move place stage).stage? other = desk.stage? other := by
  simp [stage?, move, Ne.symm different]

theorem stage_join (collector : String) {stage : Stage} (found : desk.stage? place = some stage) :
    ({ desk with senders := desk.senders ++ [⟨collector, .idle⟩] } : Desk).stage? place =
      some stage := by
  obtain ⟨sender, there, same⟩ := Option.map_eq_some_iff.mp found
  have inside := (List.getElem?_eq_some_iff.mp there).1
  simp only [stage?, List.getElem?_append_left inside, there]
  exact congrArg some same

/-- An emitter that has to set the gauge is not idle before it has done so. One that has looked does
nothing else. -/
theorem stage_of_deed (deed : desk.Deed event after) {stage : Stage}
    (found : desk.stage? place = some stage) (untold : stage.isUntold = true)
    (other : event ≠ .tell place) :
    ∃ next, after.stage? place = some next ∧ next.isUntold = true ∧
      ∀ length, stage = .measured length → next = stage := by
  have same {changed : Desk} (kept : changed.stage? place = desk.stage? place) :
      ∃ next, changed.stage? place = some next ∧ next.isUntold = true ∧
        ∀ length, stage = .measured length → next = stage :=
    ⟨stage, kept.trans found, untold, fun _ _ => rfl⟩
  -- An emitter at this place is at another stage than those that come to `next`.
  have apart {index : Nat} {was next : Stage} (there : desk.stage? index = some was)
      (told : was.isUntold = false) :
      (desk.move index next).stage? place = desk.stage? place := by
    refine stage_move_ne next fun equal => ?_
    rw [← equal, found] at there
    cases Option.some.inj there
    cases told.symm.trans untold
  have counted {index : Nat} {next : Stage} (there : (desk.stage? index).isSome = true)
      (unmeasured : ∀ length, desk.stage? index ≠ some (.measured length))
      (untoldNext : next.isUntold = true) :
      ∃ last, (desk.move index next).stage? place = some last ∧ last.isUntold = true ∧
        ∀ length, stage = .measured length → last = stage := by
    by_cases equal : place = index
    · subst equal
      refine ⟨next, stage_move next there, untoldNext, fun length measured => ?_⟩
      exact absurd (found.trans (congrArg some measured)) (unmeasured length)
    · exact same (stage_move_ne next equal)
  cases deed with
  | join => exact ⟨stage, stage_join _ found, untold, fun _ _ => rfl⟩
  | offered idle => exact same (apart idle rfl)
  | push offers => exact same (apart offers rfl)
  | refuse offers => exact same (apart offers rfl)
  | abandon offers => exact same (apart offers rfl)
  | @count index collector there =>
    have queued : desk.stage? index = some .queued := by
      rw [stage?, there]
      rfl
    exact counted (by rw [queued]; rfl) (by rw [queued]; exact nofun) rfl
  | measure there => exact counted (by rw [there]; rfl) (by rw [there]; exact nofun) rfl
  | tell there =>
    refine same (stage_move_ne _ fun equal => other ?_)
    rw [equal]
  | _ => exact same rfl

/-- An emitter that has looked did so right before, or had done so already. -/
theorem measured_of_deed (deed : desk.Deed event after) {length : Nat}
    (measured : after.stage? place = some (.measured length)) :
    event = .measure place ∨
      event ≠ .tell place ∧ desk.stage? place = some (.measured length) := by
  have moved {index : Nat} {stage : Stage} (there : (desk.stage? index).isSome = true)
      (now : (desk.move index stage).stage? place = some (.measured length))
      (unmeasured : stage ≠ .measured length) :
      place ≠ index ∧ desk.stage? place = some (.measured length) := by
    have different : place ≠ index := by
      rintro rfl
      exact unmeasured (Option.some.inj ((stage_move stage there).symm.trans now))
    exact ⟨different, (stage_move_ne stage different).symm.trans now⟩
  cases deed with
  | @join collector =>
    refine .inr ⟨nofun, ?_⟩
    simp only [stage?] at measured ⊢
    rw [List.getElem?_append] at measured
    split at measured
    · exact measured
    · rw [List.getElem?_singleton] at measured
      split at measured <;> simp at measured
  | offered idle => exact .inr ⟨nofun, (moved (by rw [idle]; rfl) measured nofun).2⟩
  | push offers => exact .inr ⟨nofun, (moved (by rw [offers]; rfl) measured nofun).2⟩
  | refuse offers => exact .inr ⟨nofun, (moved (by rw [offers]; rfl) measured nofun).2⟩
  | abandon offers => exact .inr ⟨nofun, (moved (by rw [offers]; rfl) measured nofun).2⟩
  | @count index collector found =>
    have there : (desk.stage? index).isSome = true := by
      rw [stage?, found]
      rfl
    exact .inr ⟨nofun, (moved there measured nofun).2⟩
  | @measure index counted =>
    by_cases equal : place = index
    · exact .inl (by rw [equal])
    · exact .inr ⟨nofun, (stage_move_ne _ equal).symm.trans measured⟩
  | @tell index _ there =>
    obtain ⟨different, before⟩ := moved (by rw [there]; rfl) measured nofun
    refine .inr ⟨fun same => different ?_, before⟩
    cases same
    rfl
  | _ => exact .inr ⟨nofun, measured⟩

/-! ### Slots and points -/

/-- As long as the consumer has not gone, all slots are accounted for, and all points. -/
structure Sound (desk : Desk) : Prop where
  balance : desk.dispatcher.receiver ≠ .dropped →
    desk.slots.spare + desk.dispatcher.queue.length + desk.returning = desk.dispatcher.capacity
  flows : desk.dispatcher.receiver ≠ .dropped →
    desk.received ++ desk.dispatcher.queue = desk.log

theorem Sound.deed (sound : desk.Sound) (deed : desk.Deed event after) : after.Sound := by
  have room (here : after.dispatcher.receiver ≠ .dropped) := sound.balance (here_of_deed deed here)
  have flows (here : after.dispatcher.receiver ≠ .dropped) := sound.flows (here_of_deed deed here)
  cases deed with
  | wait _ _ waits => exact ⟨fun here => Slots.spare_wait waits ▸ room here, flows⟩
  | claim _ _ claims => exact ⟨fun here => Slots.spare_claim claims ▸ room here, flows⟩
  | @push place point offers has =>
    refine ⟨fun here => ?_, fun here => ?_⟩
    · have used := Slots.spare_use has
      have balance := room here
      show (desk.slots.use place).spare + (desk.dispatcher.queue ++ [point]).length +
        desk.returning = desk.dispatcher.capacity
      rw [List.length_append, List.length_singleton]
      omega
    · show desk.received ++ (desk.dispatcher.queue ++ [point]) = desk.log ++ [point]
      rw [← flows here, List.append_assoc]
  | abandon => exact ⟨fun here => (Slots.spare_quit _ _).symm ▸ room here, flows⟩
  | take =>
    have capacity := desk.dispatcher.takeReceiver_capacity
    have queue := desk.dispatcher.takeReceiver_queue
    refine ⟨fun here => ?_, fun here => ?_⟩
    · show desk.slots.spare + desk.dispatcher.takeReceiver.2.queue.length + desk.returning = _
      rw [queue, capacity]
      exact room here
    · show desk.received ++ desk.dispatcher.takeReceiver.2.queue = desk.log
      rw [queue]
      exact flows here
  | @receive point rest taken queue =>
    refine ⟨fun here => ?_, fun here => ?_⟩
    · have balance := room here
      rw [queue, List.length_cons] at balance
      show desk.slots.spare + rest.length + (desk.returning + 1) = desk.dispatcher.capacity
      omega
    · have all := flows here
      rw [queue] at all
      show desk.received ++ [point] ++ rest = desk.log
      rw [List.append_assoc]
      exact all
  | @restore returning outside =>
    refine ⟨fun here => ?_, flows⟩
    have balance := room here
    show desk.slots.restore.spare + desk.dispatcher.queue.length + returning =
      desk.dispatcher.capacity
    rw [Slots.spare_restore]
    omega
  | leave taken =>
    have gone : desk.dispatcher.dropReceiver.receiver = .dropped := by
      rw [Dispatcher.dropReceiver, taken]
    exact ⟨fun here => absurd gone here, fun here => absurd gone here⟩
  | _ => exact ⟨room, flows⟩

theorem Reachable.sound (reachable : Reachable capacity health desk) : desk.Sound := by
  induction reachable with
  | start => exact ⟨fun _ => rfl, fun _ => rfl⟩
  | next event _ happened inductionHypothesis =>
    exact inductionHypothesis.deed (deed_of_after happened)

theorem Reachable.capacity_eq (reachable : Reachable capacity health desk) :
    desk.dispatcher.capacity = max capacity 1 := by
  induction reachable with
  | start => rfl
  | next event _ happened inductionHypothesis =>
    exact (capacity_of_deed (deed_of_after happened)).trans inductionHypothesis

/-- What an emitter sees that looks: the points that wait, and the slots that are with nobody's
point. -/
theorem Sound.taken (sound : desk.Sound) (here : desk.dispatcher.receiver ≠ .dropped) :
    desk.taken = desk.dispatcher.queue.length + desk.slots.held.length + desk.returning := by
  have balance := sound.balance here
  rw [Slots.spare] at balance
  rw [Desk.taken]
  omega

/-! ### Since an emitter looked -/

/-- The desk at which the emitter at a place has looked, and the desk that events have led to since,
in which the emitter has not set the gauge yet. -/
inductive LookedAt (capacity : Nat) (health : Health) (place : Nat) : Desk → Desk → Prop where
  | measure {early after : Desk} :
      Reachable capacity health early → early.after? (.measure place) = some after →
        LookedAt capacity health place early after
  | later {early desk after : Desk} (event : Event) :
      LookedAt capacity health place early desk → desk.after? event = some after →
        event ≠ .tell place → LookedAt capacity health place early after

/-- The desk at which that emitter has looked which was the last to set the gauge, and the desk that
events have led to since. -/
inductive ShownAt (capacity : Nat) (health : Health) : Desk → Desk → Prop where
  | tell {early desk after : Desk} (place : Nat) :
      LookedAt capacity health place early desk → desk.after? (.tell place) = some after →
        ShownAt capacity health early after
  | later {early desk after : Desk} (event : Event) :
      ShownAt capacity health early desk → desk.after? event = some after →
        (∀ place, event ≠ .tell place) → ShownAt capacity health early after

/-- What is there of a desk at a later one. -/
structure Since (early desk : Desk) : Prop where
  log : early.log <+: desk.log
  received : early.received <+: desk.received
  here : desk.dispatcher.receiver ≠ .dropped → early.dispatcher.receiver ≠ .dropped

theorem Since.deed (since : early.Since desk) (deed : desk.Deed event after) :
    early.Since after where
  log := since.log.trans (grows_of_deed deed).1
  received := since.received.trans (grows_of_deed deed).2
  here here := since.here (here_of_deed deed here)

theorem since_of_deed (deed : desk.Deed event after) : desk.Since after :=
  Since.deed ⟨List.prefix_refl _, List.prefix_refl _, id⟩ deed

theorem LookedAt.reachable (looked : LookedAt capacity health place early desk) :
    Reachable capacity health early ∧ early.Since desk := by
  induction looked with
  | measure reachable happened => exact ⟨reachable, since_of_deed (deed_of_after happened)⟩
  | later _ _ happened _ inductionHypothesis =>
    exact ⟨inductionHypothesis.1, inductionHypothesis.2.deed (deed_of_after happened)⟩

/-- The emitter keeps what it has seen. -/
theorem LookedAt.stage (looked : LookedAt capacity health place early desk) :
    desk.stage? place = some (.measured early.taken) := by
  induction looked with
  | measure _ happened =>
    cases deed_of_after happened with
    | measure counted => exact stage_move _ (by rw [counted]; rfl)
  | later _ _ happened other inductionHypothesis =>
    obtain ⟨next, there, _, same⟩ :=
      stage_of_deed (deed_of_after happened) inductionHypothesis rfl other
    rw [there, same _ rfl]

theorem ShownAt.reachable (shown : ShownAt capacity health early desk) :
    Reachable capacity health early ∧ early.Since desk := by
  induction shown with
  | tell _ looked happened =>
    obtain ⟨reachable, since⟩ := looked.reachable
    exact ⟨reachable, since.deed (deed_of_after happened)⟩
  | later _ _ happened _ inductionHypothesis =>
    exact ⟨inductionHypothesis.1, inductionHypothesis.2.deed (deed_of_after happened)⟩

/-- The gauge shows what that emitter has seen. -/
theorem ShownAt.gauge (shown : ShownAt capacity health early desk) :
    desk.health.queueLength = early.taken := by
  induction shown with
  | tell place looked happened =>
    cases deed_of_after happened with
    | tell measured =>
      have same := looked.stage.symm.trans measured
      exact (Stage.measured.inj (Option.some.inj same)).symm
  | later _ _ happened other inductionHypothesis =>
    exact (gauge_of_deed (deed_of_after happened) other).trans inductionHypothesis

/-- An emitter that has seen something has looked at some desk. -/
theorem Reachable.exists_lookedAt (reachable : Reachable capacity health desk) {length : Nat}
    (measured : desk.stage? place = some (.measured length)) :
    ∃ early, LookedAt capacity health place early desk := by
  induction reachable with
  | start => cases measured
  | @next desk after event before happened inductionHypothesis =>
    rcases measured_of_deed (deed_of_after happened) measured with rfl | ⟨other, already⟩
    · exact ⟨desk, .measure before happened⟩
    · obtain ⟨early, looked⟩ := inductionHypothesis already
      exact ⟨early, looked.later event happened other⟩

/-- The gauge shows what some emitter has seen, or it is as it was and every point in the queue was
put there by an emitter that has not set it yet. -/
theorem Reachable.exists_shownAt (reachable : Reachable capacity health desk) :
    (∃ early, ShownAt capacity health early desk) ∨
      desk.health.queueLength = health.queueLength ∧
        (desk.log ≠ [] → ∃ place stage, desk.stage? place = some stage ∧
          stage.isUntold = true) := by
  induction reachable with
  | start => exact .inr ⟨rfl, fun filled => absurd rfl filled⟩
  | @next desk after event before happened inductionHypothesis =>
    have deed := deed_of_after happened
    by_cases telling : ∃ place, event = .tell place
    · obtain ⟨place, rfl⟩ := telling
      cases deed with
      | tell measured =>
        obtain ⟨early, looked⟩ := before.exists_lookedAt measured
        exact .inl ⟨early, .tell place looked happened⟩
    · have other (place : Nat) : event ≠ .tell place := fun same => telling ⟨place, same⟩
      rcases inductionHypothesis with ⟨early, shown⟩ | ⟨same, untold⟩
      · exact .inl ⟨early, shown.later event happened other⟩
      · refine .inr ⟨(gauge_of_deed deed other).trans same, fun filled => ?_⟩
        by_cases pushed : ∃ place, event = .push place
        · obtain ⟨place, rfl⟩ := pushed
          cases deed with
          | push offers => exact ⟨place, .queued, stage_move _ (by rw [offers]; rfl), rfl⟩
        · have kept : after.log = desk.log := by
            cases deed with
            | push => exact absurd ⟨_, rfl⟩ pushed
            | _ => rfl
          obtain ⟨place, stage, found, waits⟩ := untold (kept ▸ filled)
          obtain ⟨next, there, still, _⟩ := stage_of_deed deed found waits (other place)
          exact ⟨place, next, there, still⟩

/-! ### An emitter that nobody interrupts -/

theorem run_cons {next : Desk} {rest : List Event} (deed : desk.Deed event next) :
    desk.run? (event :: rest) = next.run? rest := by
  rw [run?, after_of_deed deed]

theorem sender_move {collector : String} {was : Stage} (stage : Stage)
    (found : desk.senders[place]? = some ⟨collector, was⟩) :
    (desk.move place stage).senders[place]? = some ⟨collector, stage⟩ := by
  simp [move, found]

theorem stage_of_sender {collector : String} {stage : Stage}
    (found : desk.senders[place]? = some ⟨collector, stage⟩) : desk.stage? place = some stage := by
  rw [stage?, found]
  rfl

theorem IsSettled.stage (settled : desk.IsSettled) {stage : Stage}
    (found : desk.stage? place = some stage) : stage.isUntold = false := by
  obtain ⟨sender, there, rfl⟩ := Option.map_eq_some_iff.mp found
  exact settled sender (List.mem_of_getElem? there)

/-- Where all slots are free or with a point that waits, one that asks for a slot gets it. -/
theorem Sound.exists_claim (sound : desk.Sound) (place : Nat)
    (here : desk.dispatcher.receiver ≠ .dropped)
    (room : desk.dispatcher.queue.length < desk.dispatcher.capacity)
    (given : desk.slots.held = []) (back : desk.returning = 0) :
    ∃ slots, desk.slots.claim? place = some slots ∧ slots.held = [place] := by
  have balance := sound.balance here
  rw [Slots.spare, given, List.length_nil, back] at balance
  have free : desk.slots.free ≠ 0 := by omega
  have isNew : desk.slots.IsNew place := by
    rw [Slots.isNew_iff, given, desk.slots.line_eq_nil free]
    exact ⟨List.not_mem_nil, List.not_mem_nil⟩
  obtain ⟨slots, claims⟩ := Option.isSome_iff_exists.mp (Slots.claim_isSome free isNew)
  refine ⟨slots, claims, ?_⟩
  rw [(Slots.claimed claims).2.2.1, given, List.nil_append]

/-- With no slot given to anybody and none that has to come back, an emitter that nobody interrupts
queues a point that finds room, counts it and sets the gauge to the points that wait then. -/
theorem Sound.exists_queued (sound : desk.Sound) {collector : String} {point clean : Point}
    (found : desk.senders[place]? = some ⟨collector, .idle⟩) (given : desk.slots.held = [])
    (back : desk.returning = 0) (cleaned : point.clean = .ok clean)
    (here : desk.dispatcher.receiver ≠ .dropped)
    (room : desk.dispatcher.queue.length < desk.dispatcher.capacity) :
    ∃ after, desk.run? (course place point .queued) = some after ∧
      after.dispatcher = desk.dispatcher.enqueue collector clean ∧
      after.health =
        desk.health.countEmitted collector
          (desk.dispatcher.enqueue collector clean).queue.length := by
  obtain ⟨slots, claims, held⟩ := sound.exists_claim place here room given back
  have atOffer := sender_move (.offering clean) found
  let offered := desk.move place (.offering clean)
  let claimed : Desk := { offered with slots := slots }
  let pushed : Desk :=
    { claimed.move place .queued with
      dispatcher := desk.dispatcher.push clean
      slots := slots.use place
      log := desk.log ++ [clean] }
  let counted : Desk :=
    { pushed.move place .counted with
      dispatcher := (desk.dispatcher.push clean).record collector
      health := desk.health.countQueued collector }
  let measured := counted.move place (.measured counted.taken)
  have atPush := sender_move .queued atOffer
  have atCount := sender_move .counted atPush
  have offers : desk.Deed (.emit place point) offered :=
    .offered (stage_of_sender found) cleaned
  have claims : offered.Deed (.claim place) claimed :=
    .claim (stage_of_sender atOffer) here claims
  have pushes : claimed.Deed (.push place) pushed :=
    .push (stage_of_sender atOffer) (held ▸ List.mem_singleton_self place)
  have counts : pushed.Deed (.count place) counted := .count atPush
  have measures : counted.Deed (.measure place) measured := .measure (stage_of_sender atCount)
  have tells : measured.Deed (.tell place) _ :=
    .tell (stage_of_sender (sender_move (.measured counted.taken) atCount))
  -- Its own slot is with its point, so what it sees is the points that wait.
  have seen : counted.taken = (desk.dispatcher.enqueue collector clean).queue.length := by
    have given : (slots.use place).held = [] := by
      show slots.held.erase place = []
      rw [held, List.erase_cons_head]
    have taken := ((((sound.deed offers).deed claims).deed pushes).deed counts).taken here
    rw [show counted.slots.held = [] from given, show counted.returning = 0 from back] at taken
    exact taken
  refine ⟨_, (run_cons offers).trans <| (run_cons claims).trans <| (run_cons pushes).trans <|
    (run_cons counts).trans <| (run_cons measures).trans <| run_cons tells,
    desk.dispatcher.record_push collector clean, ?_⟩
  rw [← seen]
  exact desk.health.setQueueLength_countQueued collector counted.taken

/-- Then it does what `Dispatcher.emit` says, whatever becomes of the point. -/
theorem Sound.emit (sound : desk.Sound) {collector : String} (point : Point)
    (found : desk.senders[place]? = some ⟨collector, .idle⟩) (given : desk.slots.held = [])
    (back : desk.returning = 0) :
    ∃ after,
      desk.run? (course place point
        (desk.dispatcher.emit desk.health collector point).outcome) = some after ∧
      after.dispatcher = (desk.dispatcher.emit desk.health collector point).dispatcher ∧
      after.health = (desk.dispatcher.emit desk.health collector point).health := by
  have idle := stage_of_sender found
  have emits := desk.dispatcher.emits_emit desk.health collector point
  generalize desk.dispatcher.emit desk.health collector point = emission at emits ⊢
  cases emits with
  | rejected refused => exact ⟨_, run_cons (.rejected idle refused), rfl, rfl⟩
  | full cleaned => exact ⟨_, run_cons (.offered idle cleaned), rfl, rfl⟩
  | @closed clean cleaned gone =>
    have offers := stage_of_sender (sender_move (.offering clean) found)
    exact ⟨_, (run_cons (.offered idle cleaned)).trans (run_cons (.refuse offers gone)), rfl, rfl⟩
  | queued cleaned here room => exact sound.exists_queued found given back cleaned here room

/-! ### Every run -/

/-- What the gauge shows as long as the consumer has not gone. -/
structure GaugeLags (capacity : Nat) (health : Health) (desk : Desk) : Prop where
  /-- It is as it was before anybody has set it. -/
  untouched : (∀ early, ¬ ShownAt capacity health early desk) →
    desk.health.queueLength = health.queueLength
  /-- Once a point was put into the queue somebody has set it, or is about to. -/
  shown : desk.log ≠ [] → desk.IsSettled → ∃ early, ShownAt capacity health early desk
  /-- It shows the points that waited when that emitter looked, with the slots that had been given
  to others, and those that had not come back. -/
  reading : ∀ early, ShownAt capacity health early desk →
    desk.health.queueLength =
      early.dispatcher.queue.length + early.slots.held.length + early.returning
  /-- The points that waited then, and those that were put into the queue since, are those that were
  received since and those that wait. So it is right exactly if what has come makes up for what has
  gone, and for what was no point. -/
  behind : ∀ early, ShownAt capacity health early desk → ∃ queued received,
    desk.log = early.log ++ queued ∧ desk.received = early.received ++ received ∧
      early.dispatcher.queue ++ queued = received ++ desk.dispatcher.queue ∧
      (desk.health.queueLength = desk.dispatcher.queue.length ↔
        queued.length = received.length + early.slots.held.length + early.returning)
  /-- If that emitter saw nothing but points, and no other was put into the queue since, it shows
  those that wait and those that were received since. -/
  alone : ∀ early, ShownAt capacity health early desk → early.slots.held = [] →
    early.returning = 0 → desk.log = early.log → ∃ received,
      desk.received = early.received ++ received ∧
        desk.health.queueLength = received.length + desk.dispatcher.queue.length
  /-- It never shows more than the queue can hold. -/
  most : ∀ early, ShownAt capacity health early desk → desk.health.queueLength ≤ max capacity 1

/-- What waited when the emitter looked, and what came since, was received since or waits. -/
theorem ShownAt.moved (shown : ShownAt capacity health early desk) (now : desk.Sound)
    (here : desk.dispatcher.receiver ≠ .dropped) {queued received : List Point}
    (log : desk.log = early.log ++ queued) (taken : desk.received = early.received ++ received) :
    early.dispatcher.queue ++ queued = received ++ desk.dispatcher.queue := by
  obtain ⟨reachable, since⟩ := shown.reachable
  have flows := now.flows here
  rw [log, taken, ← reachable.sound.flows (since.here here), List.append_assoc,
    List.append_assoc] at flows
  exact (List.append_cancel_left flows).symm

theorem gaugeLags_of_reachable (reachable : Reachable capacity health desk)
    (here : desk.dispatcher.receiver ≠ .dropped) : desk.GaugeLags capacity health := by
  have reading : ∀ early, ShownAt capacity health early desk →
      desk.health.queueLength =
        early.dispatcher.queue.length + early.slots.held.length + early.returning := by
    intro early shown
    obtain ⟨before, since⟩ := shown.reachable
    rw [shown.gauge, before.sound.taken (since.here here)]
  refine
    { untouched := fun never => ?_
      shown := fun filled settled => ?_
      reading := reading
      behind := fun early shown => ?_
      alone := fun early shown given back same => ?_
      most := fun early shown => ?_ }
  · rcases reachable.exists_shownAt with ⟨early, shown⟩ | ⟨same, _⟩
    · exact absurd shown (never early)
    · exact same
  · rcases reachable.exists_shownAt with shown | ⟨_, untold⟩
    · exact shown
    · obtain ⟨place, stage, found, waits⟩ := untold filled
      cases waits.symm.trans (settled.stage found)
  · obtain ⟨⟨queued, log⟩, ⟨received, taken⟩⟩ := And.intro shown.reachable.2.log
      shown.reachable.2.received
    have moved := shown.moved reachable.sound here log.symm taken.symm
    refine ⟨queued, received, log.symm, taken.symm, moved, ?_⟩
    have lengths := congrArg List.length moved
    rw [List.length_append, List.length_append] at lengths
    rw [reading early shown]
    omega
  · obtain ⟨received, taken⟩ := shown.reachable.2.received
    have moved := shown.moved reachable.sound here (same.trans (List.append_nil _).symm) taken.symm
    refine ⟨received, taken.symm, ?_⟩
    rw [reading early shown, given, back, ← List.length_append, ← moved, List.append_nil]
    rfl
  · rw [shown.gauge, ← shown.reachable.1.capacity_eq]
    exact Nat.sub_le _ _

/-- What a collector does for a point that finds room. -/
def fill (place : Nat) (metric : String) : List Event :=
  course place ⟨metric, 0, .integer 1, ∅⟩ .queued

/-- Two points wait in a queue that holds two, and two collectors wait for room. The consumer
receives both points, which gives a slot to either collector. One puts its point into the queue and
sets the gauge, the other has not come to it yet. -/
def givenSlot : List Event :=
  [.join "load", .join "memory", .join "uptime", .take] ++ fill 0 "load.one" ++
    fill 0 "load.two" ++
    [.emit 1 ⟨"memory", 0, .integer 1, ∅⟩, .wait 1, .emit 2 ⟨"uptime", 0, .integer 1, ∅⟩, .wait 2,
      .receive, .restore, .receive, .restore, .push 1, .count 1, .measure 1, .tell 1]

/-- One point waits then, nothing was received since, and the gauge shows two. -/
theorem gaugeLags_of_givenSlot :
    ∃ desk, (start 2 Health.fresh).run? givenSlot = some desk ∧
      desk.dispatcher.receiver ≠ .dropped ∧ desk.GaugeLags 2 Health.fresh ∧
      desk.log ≠ [] ∧ desk.IsSettled ∧
      desk.health.queueLength = 2 ∧ desk.dispatcher.queue.length = 1 := by
  have possible : ((start 2 Health.fresh).run? givenSlot).isSome = true := by decide +kernel
  obtain ⟨desk, run⟩ := Option.isSome_iff_exists.mp possible
  have seen : ((start 2 Health.fresh).run? givenSlot).map (fun desk =>
      (desk.dispatcher.receiver, desk.log.length, decide desk.IsSettled, desk.health.queueLength,
        desk.dispatcher.queue.length)) = some (.taken, 3, true, 2, 1) := by decide +kernel
  simp only [run, Option.map_some, Option.some.injEq, Prod.mk.injEq] at seen
  obtain ⟨taken, logged, settled, shown, waiting⟩ := seen
  have here : desk.dispatcher.receiver ≠ .dropped := by simp [taken]
  have filled : desk.log ≠ [] := List.ne_nil_of_length_pos (logged ▸ Nat.succ_pos 2)
  exact ⟨desk, run, here, gaugeLags_of_reachable (Reachable.start.run run) here, filled,
    of_decide_eq_true settled, shown, waiting⟩

/-- The gauge does not always show the points that wait, though no emitter is about to set it, no
slot is given to anybody and none has to come back: it shows one that was received. -/
theorem not_always_current :
    ¬ ∀ capacity desk, Reachable capacity Health.fresh desk →
      desk.dispatcher.receiver = .taken → desk.log ≠ [] → desk.IsSettled →
        desk.slots.held = [] → desk.returning = 0 →
          desk.health.queueLength = desk.dispatcher.queue.length := by
  intro always
  let events : List Event := [.join "load", .take] ++ fill 0 "load" ++ [.receive, .restore]
  have possible : ((start 4 Health.fresh).run? events).isSome = true := by decide +kernel
  obtain ⟨desk, run⟩ := Option.isSome_iff_exists.mp possible
  have seen : ((start 4 Health.fresh).run? events).map (fun desk =>
      (desk.dispatcher.receiver, desk.log.length,
        decide (desk.IsSettled ∧ desk.slots.held = [] ∧ desk.returning = 0),
        desk.health.queueLength, desk.dispatcher.queue.length)) = some (.taken, 1, true, 1, 0) := by
    decide +kernel
  simp only [run, Option.map_some, Option.some.injEq, Prod.mk.injEq] at seen
  obtain ⟨taken, logged, quiet, shown, waiting⟩ := seen
  obtain ⟨settled, given, back⟩ := of_decide_eq_true quiet
  have filled : desk.log ≠ [] := List.ne_nil_of_length_pos (logged ▸ Nat.one_pos)
  have current := always 4 desk (Reachable.start.run run) taken filled settled given back
  rw [shown, waiting] at current
  exact absurd current Nat.one_ne_zero

end Desk

end Telemetry
