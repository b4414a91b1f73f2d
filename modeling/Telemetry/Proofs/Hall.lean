/-
This file says what can happen in a hall.

An event does to a hall what one of fourteen cases says. As a step of a job puts a point into the
queue exactly if it uses a slot, the slots that are free, those that are given, those that have not
come back and the points in the queue are always as many as there is room. Whoever has a slot or
waits for one needs it.

What happens on the clock of a world can happen in a hall as well. There a job takes a slot for its
point at once and uses it, and a run is over at the moment of its tick.
-/

import Telemetry.Proofs.Tasks

namespace Telemetry

namespace World

variable {world after : World}

theorem taken_of_receive (performed : world.perform? .receive = some after) :
    world.dispatcher.receiver = .taken := by
  simp only [perform?, receive?] at performed
  split at performed
  · rename_i both
    exact both.1
  · cases performed

theorem taken_of_leave (performed : world.perform? .leave = some after) :
    world.dispatcher.receiver = .taken := by
  simp only [perform?, leave?] at performed
  split at performed
  · rename_i both
    exact both.1
  · cases performed

end World

namespace Hall

variable {hall after later : Hall} {event : Event} {events : List Event} {place : Nat} {task : Task}

/-! ### Events -/

/-- What events do. -/
inductive Deed (hall : Hall) : Event → Hall → Prop where
  | pass {now : Nat} {surroundings : Surroundings} (forward : hall.moment.now ≤ now) :
      Deed hall (.pass now surroundings)
        { hall with moment := { hall.moment with now := now, surroundings := surroundings } }
  | report : Deed hall .report (hall.withDispatcher hall.dispatcher.snapshot.2)
  | order : Deed hall .order { hall with moment := { hall.moment with cancelled := true } }
  | receive {point : Point} {rest : List Point} (taken : hall.dispatcher.receiver = .taken)
      (queue : hall.dispatcher.queue = point :: rest) :
      Deed hall .receive
        { hall.withDispatcher { hall.dispatcher with queue := rest } with
          returning := hall.returning + 1 }
  | restore {returning : Nat} (outside : hall.returning = returning + 1) :
      Deed hall .restore { hall with slots := hall.slots.restore, returning := returning }
  | leave (taken : hall.dispatcher.receiver = .taken) :
      Deed hall .leave
        { hall.withDispatcher hall.dispatcher.dropReceiver with slots := hall.slots.close }
  | wait {place : Nat} {task : Task} {slots : Slots} (found : hall.tasks[place]? = some task)
      (needs : task.needsSlot hall.dispatcher = true)
      (waits : hall.slots.wait? place = some slots) :
      Deed hall (.wait place) { hall with slots := slots }
  | claim {place : Nat} {task : Task} {slots : Slots} (found : hall.tasks[place]? = some task)
      (needs : task.needsSlot hall.dispatcher = true)
      (claims : hall.slots.claim? place = some slots) :
      Deed hall (.claim place) { hall with slots := slots }
  | begin {place : Nat} {task next : Task} (found : hall.tasks[place]? = some task)
      (begins : task.begin? hall.moment = some next) :
      Deed hall (.begin place) (hall.put place next hall.shared)
  | finish {place : Nat} {task next : Task} {shared : Shared}
      (found : hall.tasks[place]? = some task)
      (finishes : task.finish? hall.shared = some (next, shared)) :
      Deed hall (.finish place) (hall.put place next shared)
  | stop {place : Nat} {task next : Task} (found : hall.tasks[place]? = some task)
      (stops : task.stop? hall.moment = some next) :
      Deed hall (.stop place)
        { hall.put place next hall.shared with slots := hall.slots.quit place }
  | turnBack {place : Nat} {task next : Task} {shared : Shared}
      (found : hall.tasks[place]? = some task)
      (turns : task.turnBack? hall.moment hall.shared = some (next, shared)) :
      Deed hall (.turnBack place) (hall.put place next shared)
  | push {place : Nat} {task next : Task} {shared : Shared}
      (found : hall.tasks[place]? = some task) (needs : task.needsSlot hall.dispatcher = true)
      (has : place ∈ hall.slots.held)
      (works : task.work? hall.moment hall.shared = some (next, shared)) :
      Deed hall (.work place)
        { hall.put place next shared with slots := hall.slots.use place }
  | work {place : Nat} {task next : Task} {shared : Shared}
      (found : hall.tasks[place]? = some task) (needless : task.needsSlot hall.dispatcher = false)
      (works : task.work? hall.moment hall.shared = some (next, shared)) :
      Deed hall (.work place) (hall.put place next shared)

theorem deed_of_ask {slots? : Option Slots} (asked : hall.ask? place slots? = some after) :
    ∃ task slots, hall.tasks[place]? = some task ∧ task.needsSlot hall.dispatcher = true ∧
      slots? = some slots ∧ after = { hall with slots := slots } := by
  unfold ask? at asked
  split at asked
  · cases asked
  · rename_i task found
    split at asked
    · rename_i needs
      obtain ⟨slots, given, same⟩ := Option.map_eq_some_iff.mp asked
      exact ⟨task, slots, found, needs, given, same.symm⟩
    · cases asked

theorem deed_of_work (worked : hall.work? place = some after) : hall.Deed (.work place) after := by
  unfold work? at worked
  split at worked
  · cases worked
  · rename_i task found
    split at worked
    · rename_i needs
      split at worked
      · rename_i has
        obtain ⟨⟨next, shared⟩, works, rfl⟩ := Option.map_eq_some_iff.mp worked
        exact .push found needs has works
      · cases worked
    · rename_i needless
      obtain ⟨⟨next, shared⟩, works, rfl⟩ := Option.map_eq_some_iff.mp worked
      exact .work found (eq_false_of_ne_true needless) works

theorem deed_of_receive (received : hall.receive? = some after) : hall.Deed .receive after := by
  unfold receive? at received
  split at received
  · rename_i point dispatcher taken popped
    obtain ⟨rest, queue, rfl⟩ := Dispatcher.queue_of_receive popped
    obtain rfl := Option.some.inj received
    exact .receive taken queue
  · cases received

theorem deed_of_after (happened : hall.after? event = some after) : hall.Deed event after := by
  cases event with
  | pass now surroundings =>
    simp only [after?] at happened
    split at happened
    · rename_i forward
      obtain rfl := Option.some.inj happened
      exact .pass forward
    · cases happened
  | report =>
    obtain rfl := Option.some.inj happened
    exact .report
  | order =>
    obtain rfl := Option.some.inj happened
    exact .order
  | receive => exact deed_of_receive happened
  | restore =>
    simp only [after?, restore?] at happened
    split at happened
    · cases happened
    · rename_i outside
      obtain rfl := Option.some.inj happened
      exact .restore outside
  | leave =>
    simp only [after?, leave?] at happened
    split at happened
    · rename_i taken
      obtain rfl := Option.some.inj happened
      exact .leave taken
    · cases happened
  | wait place =>
    obtain ⟨task, slots, found, needs, waits, rfl⟩ := deed_of_ask happened
    exact .wait found needs waits
  | claim place =>
    obtain ⟨task, slots, found, needs, claims, rfl⟩ := deed_of_ask happened
    exact .claim found needs claims
  | begin place =>
    obtain ⟨next, begun, rfl⟩ := Option.map_eq_some_iff.mp happened
    obtain ⟨task, found, begins⟩ := Option.bind_eq_some_iff.mp begun
    exact .begin found begins
  | finish place =>
    obtain ⟨⟨next, shared⟩, finished, rfl⟩ := Option.map_eq_some_iff.mp happened
    obtain ⟨task, found, finishes⟩ := Option.bind_eq_some_iff.mp finished
    exact .finish found finishes
  | stop place =>
    simp only [after?, stop?] at happened
    split at happened
    · cases happened
    · rename_i task found
      obtain ⟨next, stops, rfl⟩ := Option.map_eq_some_iff.mp happened
      exact .stop found stops
  | turnBack place =>
    obtain ⟨⟨next, shared⟩, turned, rfl⟩ := Option.map_eq_some_iff.mp happened
    obtain ⟨task, found, turns⟩ := Option.bind_eq_some_iff.mp turned
    exact .turnBack found turns
  | work place => exact deed_of_work happened

/-- These are all events that are possible. -/
theorem after_of_deed (deed : hall.Deed event after) : hall.after? event = some after := by
  cases deed with
  | pass forward => simp [after?, forward]
  | report => rfl
  | order => rfl
  | receive taken queue => simp [after?, receive?, Dispatcher.receive, taken, queue]
  | restore outside => simp only [after?, restore?, outside]
  | leave taken => simp [after?, leave?, taken]
  | wait found needs waits => simp [after?, ask?, found, needs, waits]
  | claim found needs claims => simp [after?, ask?, found, needs, claims]
  | begin found begins => simp [after?, found, begins]
  | finish found finishes => simp [after?, found, finishes]
  | stop found stops => simp [after?, stop?, found, stops]
  | turnBack found turns => simp [after?, found, turns]
  | push found needs has works => simp [after?, work?, found, needs, has, works]
  | work found needless works => simp [after?, work?, found, needless, works]

theorem undergo_of_deed (deed : hall.Deed event after) : hall.undergo? [event] = some after :=
  undergo?_cons (after_of_deed deed) []

theorem undergo_of_deeds {other : Event} (first : hall.Deed event after)
    (second : after.Deed other later) : hall.undergo? [event, other] = some later :=
  (undergo?_cons (after_of_deed first) [other]).trans (undergo_of_deed second)

/-! ### Slots -/

/-- All slots are accounted for as long as the consumer has not gone, and whoever has a slot or
waits for one needs it. -/
structure Sound (hall : Hall) : Prop where
  balance : hall.dispatcher.receiver ≠ .dropped →
    hall.slots.spare + hall.dispatcher.queue.length + hall.returning = hall.dispatcher.capacity
  needed : ∀ place, ¬hall.slots.IsNew place → ∃ task, hall.tasks[place]? = some task ∧
    task.needsSlot hall.dispatcher = true

/-- One that needs no slot neither has one nor waits for one. -/
theorem Sound.isNew (sound : hall.Sound) (found : hall.tasks[place]? = some task)
    (needless : task.needsSlot hall.dispatcher = false) : hall.slots.IsNew place := by
  refine Decidable.byContradiction fun old => ?_
  obtain ⟨other, same, needs⟩ := sound.needed place old
  obtain rfl := Option.some.inj (found.symm.trans same)
  cases needless.symm.trans needs

/-- A change at one place leaves a hall sound if the slots fit the queue as before and nobody else
has got one or waits. -/
theorem Sound.change (sound : hall.Sound) {changed : Hall}
    (receiver : changed.dispatcher.receiver = hall.dispatcher.receiver)
    (capacity : changed.dispatcher.capacity = hall.dispatcher.capacity)
    (balance : changed.slots.spare + changed.dispatcher.queue.length + changed.returning =
      hall.slots.spare + hall.dispatcher.queue.length + hall.returning)
    (needed : ∀ other, ¬changed.slots.IsNew other →
      (¬hall.slots.IsNew other ∧ changed.tasks[other]? = hall.tasks[other]?) ∨
        ∃ task, changed.tasks[other]? = some task ∧ task.needsSlot hall.dispatcher = true) :
    changed.Sound where
  balance here := by
    rw [balance, capacity]
    exact sound.balance fun gone => here (receiver.trans gone)
  needed other old := by
    rcases needed other old with ⟨before, same⟩ | ⟨task, found, needs⟩
    · obtain ⟨task, found, needs⟩ := sound.needed other before
      exact ⟨task, same.trans found, (task.needsSlot_congr receiver).trans needs⟩
    · exact ⟨task, found, (task.needsSlot_congr receiver).trans needs⟩

/-- So does a change of a task that needs no slot and leaves the queue as it is. -/
theorem Sound.put (sound : hall.Sound) {next : Task} {shared : Shared}
    (found : hall.tasks[place]? = some task) (needless : task.needsSlot hall.dispatcher = false)
    (takes : hall.dispatcher.Takes false shared.dispatcher) :
    (hall.put place next shared).Sound := by
  have new := sound.isNew found needless
  refine sound.change takes.receiver takes.capacity ?_ fun other old => .inl ⟨old, ?_⟩
  · exact congrArg (hall.slots.spare + · + hall.returning) takes.length
  · refine List.getElem?_set_ne ?_
    rintro rfl
    exact old new

/-- Every event leaves a hall sound. -/
theorem Sound.deed (sound : hall.Sound) (deed : hall.Deed event after) : after.Sound := by
  cases deed with
  | pass => exact ⟨sound.balance, sound.needed⟩
  | report => exact sound.change rfl rfl rfl fun other old => .inl ⟨old, rfl⟩
  | order => exact ⟨sound.balance, sound.needed⟩
  | @receive point rest taken queue =>
    refine sound.change rfl rfl ?_ fun other old => .inl ⟨old, rfl⟩
    show hall.slots.spare + rest.length + (hall.returning + 1) = _
    rw [queue, List.length_cons]
    omega
  | @restore returning outside =>
    refine sound.change rfl rfl ?_ fun other old => .inl ⟨fun new => ?_, rfl⟩
    · show hall.slots.restore.spare + hall.dispatcher.queue.length + returning = _
      rw [Slots.spare_restore, outside]
      omega
    · exact old (Slots.isNew_restore.mpr new)
  | leave taken =>
    refine ⟨fun here => absurd ?_ here, fun other old => absurd (Slots.isNew_new _) old⟩
    show hall.dispatcher.dropReceiver.receiver = .dropped
    rw [Dispatcher.dropReceiver, taken]
  | wait found needs waits =>
    refine sound.change rfl rfl ?_ fun other old => ?_
    · exact congrArg (· + hall.dispatcher.queue.length + hall.returning) (Slots.spare_wait waits)
    · rw [Slots.isNew_wait waits, Decidable.not_and_iff_or_not] at old
      rcases old with before | same
      · exact .inl ⟨before, rfl⟩
      · exact .inr ⟨_, Decidable.not_not.mp same ▸ found, needs⟩
  | claim found needs claims =>
    refine sound.change rfl rfl ?_ fun other old => ?_
    · exact congrArg (· + hall.dispatcher.queue.length + hall.returning) (Slots.spare_claim claims)
    · rw [Slots.isNew_claim claims, Decidable.not_and_iff_or_not] at old
      rcases old with before | same
      · exact .inl ⟨before, rfl⟩
      · exact .inr ⟨_, Decidable.not_not.mp same ▸ found, needs⟩
  | begin found begins => exact sound.put found ((Task.begins_of begins).2 _) .none
  | finish found finishes =>
    obtain ⟨_, needless, same⟩ := Task.finishes_of finishes
    exact sound.put found (needless _) (same ▸ .none)
  | stop found stops =>
    refine sound.change rfl rfl ?_ fun other old => .inl ?_
    · exact congrArg (· + hall.dispatcher.queue.length + hall.returning) (Slots.spare_quit _ _)
    · rw [Slots.isNew_quit, not_or] at old
      exact ⟨old.1, List.getElem?_set_ne (Ne.symm old.2)⟩
  | turnBack found turns =>
    obtain ⟨_, needless, same⟩ := Task.turns_of turns
    exact sound.put found (needless _) (same ▸ .none)
  | @push place task next shared found needs has works =>
    have takes := (Task.works_of works).2
    have one : task.needsSlot hall.shared.dispatcher = true := needs
    rw [one] at takes
    have used := Slots.spare_use has
    have longer : shared.dispatcher.queue.length = hall.dispatcher.queue.length + 1 := takes.length
    refine sound.change takes.receiver takes.capacity ?_ fun other old => .inl ?_
    · show (hall.slots.use place).spare + shared.dispatcher.queue.length + hall.returning = _
      omega
    · rw [Slots.isNew_use has, not_or] at old
      exact ⟨old.1, List.getElem?_set_ne (Ne.symm old.2)⟩
  | @work place task next shared found needless works =>
    have takes := (Task.works_of works).2
    have none : task.needsSlot hall.shared.dispatcher = false := needless
    rw [none] at takes
    exact sound.put found needless takes

theorem Reachable.sound (reachable : Reachable hall) : hall.Sound := by
  induction reachable with
  | start =>
    refine ⟨fun _ => ?_, fun place old => absurd (Slots.isNew_new _) old⟩
    show (Slots.new _).spare + (Dispatcher.takeReceiver _).2.queue.length + 0 = _
    rw [Dispatcher.takeReceiver_queue, Slots.spare_new]
    rfl
  | next event _ happened inductionHypothesis =>
    exact inductionHypothesis.deed (deed_of_after happened)

/-- Who has a slot finds room in the queue. -/
theorem Sound.room (sound : hall.Sound) (here : hall.dispatcher.receiver ≠ .dropped)
    (has : place ∈ hall.slots.held) :
    hall.dispatcher.queue.length < hall.dispatcher.capacity := by
  have balance := sound.balance here
  have positive := List.length_pos_of_mem has
  rw [Slots.spare] at balance
  omega

/-! ### The clock of a world -/

/-- A hall in which nobody has a slot or waits for one and none has to come back is like a world. -/
structure Mirrors (hall : Hall) (world : World) : Prop where
  moment : hall.moment = world.moment
  shared : hall.shared = world.shared
  tasks : hall.tasks = world.jobs.map .only
  held : hall.slots.held = []
  line : hall.slots.line = []
  returning : hall.returning = 0

theorem Mirrors.found {world : World} (mirrors : hall.Mirrors world) {job : Job}
    (found : world.jobs[place]? = some job) : hall.tasks[place]? = some (.only job) := by
  rw [mirrors.tasks, List.getElem?_map, found]
  rfl

/-- A step of a job that neither takes a tick nor is told to stop. -/
theorem Mirrors.work {world : World} (mirrors : hall.Mirrors world) (sound : hall.Sound)
    (going : world.cancelled = false) {job next : Job} {shared : Shared}
    (found : world.jobs[place]? = some job) (busy : job.awaitsTick = false)
    (step : job.step? world.moment world.shared = some (next, shared)) :
    ∃ events later, hall.undergo? events = some later ∧
      later.Mirrors { world with jobs := world.jobs.set place next, shared := shared } := by
  have untold : hall.moment.untold = world.moment := by
    rw [mirrors.moment, Moment.untold, World.moment, going]
  have works : Task.work? hall.moment hall.shared (.only job) = some (.only next, shared) := by
    rw [Task.work?, if_neg (by simp [busy]), untold, mirrors.shared, step]
    rfl
  have here := mirrors.found found
  have tasks : hall.tasks.set place (.only next) = (world.jobs.set place next).map .only := by
    rw [mirrors.tasks, List.map_set]
  cases needs : job.needsSlot hall.dispatcher with
  | false =>
    exact ⟨[.work place], hall.put place (.only next) shared,
      undergo_of_deed (.work here needs works), mirrors.moment, rfl, tasks, mirrors.held,
      mirrors.line, mirrors.returning⟩
  | true =>
    -- The job takes a slot, which is free as there is room and nobody has one, and uses it.
    have takes := (Task.works_of works).2
    have needsIt : Task.needsSlot hall.shared.dispatcher (.only job) = true := needs
    have room := takes.room needsIt
    have balance := sound.balance fun gone => by
      cases (Job.not_needsSlot_of_closed gone job).symm.trans needs
    have free : hall.slots.free ≠ 0 := by
      rw [Slots.spare, mirrors.held, List.length_nil, mirrors.returning] at balance
      have waiting : hall.dispatcher.queue.length < hall.dispatcher.capacity := room
      omega
    have new : hall.slots.IsNew place := by
      rw [Slots.isNew_iff, mirrors.held, mirrors.line]
      exact ⟨List.not_mem_nil, List.not_mem_nil⟩
    obtain ⟨slots, claims⟩ := Option.isSome_iff_exists.mp (Slots.claim_isSome free new)
    obtain ⟨_, _, held, line⟩ := Slots.claimed claims
    rw [mirrors.held, List.nil_append] at held
    have claim : hall.Deed (.claim place) { hall with slots := slots } := .claim here needs claims
    have push : Deed { hall with slots := slots } (.work place)
        { hall.put place (.only next) shared with slots := slots.use place } :=
      .push here needs (held ▸ List.mem_singleton_self place) works
    refine ⟨[.claim place, .work place], _, undergo_of_deeds claim push, mirrors.moment, rfl, tasks,
      ?_, ?_, mirrors.returning⟩
    · show slots.held.erase place = []
      rw [held, List.erase_cons_head]
    · exact line.trans mirrors.line

/-- A step of a job. -/
theorem Mirrors.step {world : World} (mirrors : hall.Mirrors world) (sound : hall.Sound)
    (going : world.cancelled = false) {job next : Job} {shared : Shared}
    (found : world.jobs[place]? = some job)
    (step : job.step? world.moment world.shared = some (next, shared)) :
    ∃ events later, hall.undergo? events = some later ∧
      later.Mirrors { world with jobs := world.jobs.set place next, shared := shared } := by
  cases waits : job.awaitsTick with
  | false => exact mirrors.work sound going found waits step
  | true =>
    cases job with
    | program => cases waits
    | interval job =>
      cases phase : job.phase with
      | stopped => simp [Job.awaitsTick, phase] at waits
      | emitting => simp [Job.awaitsTick, phase] at waits
      | waiting ticker =>
        -- The tick is taken, and its run is over at once.
        obtain ⟨⟨moved, changed⟩, own, same⟩ := Option.map_eq_some_iff.mp step
        obtain ⟨rfl, rfl⟩ := Prod.mk.inj same
        have told : world.moment.cancelled = false := going
        rw [IntervalJob.step?, phase] at own
        dsimp only at own
        rw [if_neg (by simp [told])] at own
        split at own
        · rename_i due
          have here := mirrors.found found
          have inside := (List.getElem?_eq_some_iff.mp here).1
          have begins : Task.begin? hall.moment (.only (.interval job)) =
              some (.run job ticker world.moment) := by
            rw [mirrors.moment, Task.begin?, phase]
            exact if_pos due
          have begun : hall.Deed (.begin place)
              (hall.put place (.run job ticker world.moment) hall.shared) := .begin here begins
          have finishes : Task.finish? hall.shared (.run job ticker world.moment) =
              some (.only (.interval moved), changed) := by
            rw [mirrors.shared, Task.finish?, Option.some.inj own]
          have between : (hall.put place (.run job ticker world.moment) hall.shared).tasks[place]? =
              some (.run job ticker world.moment) := List.getElem?_set_self inside
          have both := undergo_of_deeds begun (.finish between finishes)
          refine ⟨[.begin place, .finish place], _, both, mirrors.moment, rfl, ?_, mirrors.held,
            mirrors.line, mirrors.returning⟩
          show (hall.tasks.set place _).set place _ = _
          rw [List.set_set, mirrors.tasks, List.map_set]
        · cases own

/-- Whatever a world comes to, a hall can come to as well. -/
theorem exists_reachable_of_leads {registry : Registry} {context : Context}
    {surroundings : Surroundings} {lives : String → Nat → Life} {capacity reportPeriod : Nat}
    {consumer : Consumer} {now horizon : Nat} {past : List Happening} {world : World}
    (leads : (World.start registry context surroundings lives capacity reportPeriod consumer now
      horizon).Leads past world) :
    world.cancelled = false ∧ ∃ hall, Reachable hall ∧ hall.Mirrors world := by
  induction leads with
  | start =>
    refine ⟨rfl, _, .start registry context surroundings lives capacity now, rfl, rfl, ?_, rfl, rfl,
      rfl⟩
    exact (List.map_map ..).symm
  | @next past world after action leads performed inductionHypothesis =>
    obtain ⟨going, hall, reachable, mirrors⟩ := inductionHypothesis
    refine ⟨(World.moment_of_perform performed).1.trans going, ?_⟩
    have one {event : Event} {later : Hall} (deed : hall.Deed event later) : Reachable later :=
      reachable.next event (after_of_deed deed)
    have queue : hall.dispatcher = world.dispatcher := congrArg Shared.dispatcher mirrors.shared
    cases World.deed_of_perform performed with
    | report =>
      refine ⟨_, one .report, mirrors.moment, ?_, mirrors.tasks, mirrors.held, mirrors.line,
        mirrors.returning⟩
      rw [withDispatcher, queue, mirrors.shared]
      rfl
    | work found step =>
      obtain ⟨events, later, undergone, same⟩ := mirrors.step reachable.sound going found step
      exact ⟨later, reachable.undergo undergone, same⟩
    | @receive point rest waiting =>
      have taken : hall.dispatcher.receiver = .taken := by
        rw [queue]
        exact World.taken_of_receive performed
      have there : hall.dispatcher.queue = point :: rest := queue ▸ waiting
      -- The slot of the point comes back at once.
      have outside : hall.returning + 1 = 0 + 1 := congrArg (· + 1) mirrors.returning
      have both := undergo_of_deeds (.receive taken there) (.restore outside)
      refine ⟨_, reachable.undergo both, mirrors.moment, ?_, mirrors.tasks, ?_, ?_, rfl⟩
      · rw [withDispatcher, queue, mirrors.shared]
        rfl
      · exact (Slots.restore_of_nil mirrors.line).2.1.trans mirrors.held
      · exact (Slots.restore_of_nil mirrors.line).2.2
    | leave =>
      have taken : hall.dispatcher.receiver = .taken := by
        rw [queue]
        exact World.taken_of_leave performed
      refine ⟨_, one (.leave taken), mirrors.moment, ?_, mirrors.tasks, rfl, rfl, mirrors.returning⟩
      rw [withDispatcher, queue, mirrors.shared]
      rfl
    | @advance moment still next =>
      have forward : hall.moment.now ≤ moment := by
        rw [mirrors.moment]
        exact Nat.le_of_lt (World.now_lt_of_next next).1
      have pass : hall.Deed (.pass moment world.surroundings) _ := .pass forward
      refine ⟨_, one pass, ?_, mirrors.shared, mirrors.tasks, mirrors.held, mirrors.line,
        mirrors.returning⟩
      rw [mirrors.moment]
      rfl

end Hall

end Telemetry
