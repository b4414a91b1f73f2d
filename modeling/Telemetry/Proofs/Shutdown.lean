/-
This file says which jobs come to their end once they are told to stop.

A job that is told to stop can always come further, with one exception: a collector that runs at an
interval does not hear the order while a point of it waits for a slot. Only a slot that comes back
can release it, or a consumer that goes. A slot that comes back is given to the first in the line,
so one point that is received releases one job, and the others stay as they are. Apart from that
every job can come to its end by a bounded number of its own steps. That it does is not said: where
a tick is due beside the order to stop, either may be taken, and a job that takes the tick goes on.
-/

import Telemetry.Proofs.Hall

namespace Telemetry

namespace Hall

variable {hall after later : Hall} {event : Event} {events : List Event} {place : Nat} {task : Task}

/-! ### Jobs that come no further -/

theorem mem_stepsOf : event ∈ Event.stepsOf place ↔
    event = .claim place ∨ event = .begin place ∨ event = .finish place ∨ event = .stop place ∨
      event = .turnBack place ∨ event = .work place := by
  simp [Event.stepsOf]

theorem canStep_iff : hall.canStep place = true ↔
    ∃ event ∈ Event.stepsOf place, ∃ after, hall.Deed event after := by
  rw [canStep, List.any_eq_true]
  refine exists_congr fun event => and_congr_right fun _ => ?_
  rw [Option.isSome_iff_exists]
  exact exists_congr fun after => ⟨deed_of_after, after_of_deed⟩

/-- A job that is over makes no step. -/
theorem not_deed_of_over (found : hall.tasks[place]? = some task) (finished : task.isOver = true)
    (own : event ∈ Event.stepsOf place) : ¬hall.Deed event after := by
  intro deed
  have same {other : Task} (there : hall.tasks[place]? = some other) : other.isOver = true := by
    rwa [← Option.some.inj (found.symm.trans there)]
  rcases mem_stepsOf.mp own with rfl | rfl | rfl | rfl | rfl | rfl
  · cases deed with
    | @claim _ other _ there needs =>
      have finished := same there
      cases other with
      | only job => cases (Job.needsSlot_of_isOver finished).symm.trans needs
      | run => cases finished
  · cases deed with
    | begin there begins => cases (same there).symm.trans (Task.begins_of begins).1
  · cases deed with
    | finish there finishes => cases (same there).symm.trans (Task.finishes_of finishes).1
  · cases deed with
    | stop there stops => cases (same there).symm.trans (Task.stops_of stops).2.1
  · cases deed with
    | turnBack there turns => cases (same there).symm.trans (Task.turns_of turns).1
  · cases deed with
    | push there _ _ works => cases (same there).symm.trans (Task.works_of works).1
    | work there _ works => cases (same there).symm.trans (Task.works_of works).1

/-- Neither does one that waits for a slot, whether it is told to stop or not. -/
theorem not_deed_of_awaitsSlot (awaits : hall.AwaitsSlot place)
    (own : event ∈ Event.stepsOf place) : ¬hall.Deed event after := by
  intro deed
  obtain ⟨job, found, needs, none, without⟩ := awaits
  have same {other : Task} (there : hall.tasks[place]? = some other) :
      other = .only (.interval job) := Option.some.inj (there.symm.trans found)
  have waits {other : Task} (there : hall.tasks[place]? = some other)
      (needless : other.needsSlot hall.dispatcher = false) : False := by
    rw [same there] at needless
    cases needless.symm.trans needs
  rcases mem_stepsOf.mp own with rfl | rfl | rfl | rfl | rfl | rfl
  · cases deed with
    | claim _ _ claims => cases none.symm.trans (Slots.claimed claims).1
  · cases deed with
    | begin there begins => exact waits there ((Task.begins_of begins).2 _)
  · cases deed with
    | finish there finishes => exact waits there ((Task.finishes_of finishes).2.1 _)
  · cases deed with
    | stop there stops =>
      -- A job that runs at an interval looks for the order only while it waits for a tick.
      rw [same there, Task.stop?] at stops
      split at stops
      · rename_i both
        rw [Bool.and_eq_true] at both
        have waits : (Job.interval job).awaitsTick = true := both.2
        cases (Job.needsSlot_of_awaitsTick waits).symm.trans needs
      · cases stops
  · cases deed with
    | turnBack there turns => exact waits there ((Task.turns_of turns).2.1 _)
  · cases deed with
    | push _ _ has => exact without has
    | work there needless => exact waits there needless

/-! ### Steps to the end -/

/-- The order to stop is not taken back. -/
theorem told_of_deed (deed : hall.Deed event after) (told : hall.moment.cancelled = true) :
    after.moment.cancelled = true := by
  cases deed with
  | order => rfl
  | _ => exact told

/-- No job is added, and none is taken away. -/
theorem length_of_deed (deed : hall.Deed event after) :
    after.tasks.length = hall.tasks.length := by
  cases deed with
  | begin => exact List.length_set
  | finish => exact List.length_set
  | stop => exact List.length_set
  | turnBack => exact List.length_set
  | push => exact List.length_set
  | work => exact List.length_set
  | _ => rfl

/-- Only its own steps change a job. -/
theorem tasks_of_deed (deed : hall.Deed event after) (other : event ∉ Event.stepsOf place) :
    after.tasks[place]? = hall.tasks[place]? := by
  have apart {index : Nat} {next : Task} (different : index ≠ place) :
      (hall.tasks.set index next)[place]? = hall.tasks[place]? := List.getElem?_set_ne different
  rw [mem_stepsOf] at other
  cases deed with
  | begin => exact apart fun same => other (by simp [same])
  | finish => exact apart fun same => other (by simp [same])
  | stop => exact apart fun same => other (by simp [same])
  | turnBack => exact apart fun same => other (by simp [same])
  | push => exact apart fun same => other (by simp [same])
  | work => exact apart fun same => other (by simp [same])
  | _ => rfl

/-- The steps of a job leave the others and the receiving end as they are. -/
theorem kept_of_own (deed : hall.Deed event after) (own : event ∈ Event.stepsOf place) :
    after.dispatcher.receiver = hall.dispatcher.receiver ∧
      ∀ other, other ≠ place → after.tasks[other]? = hall.tasks[other]? := by
  refine ⟨?_, fun other different => tasks_of_deed deed ?_⟩
  · rcases mem_stepsOf.mp own with rfl | rfl | rfl | rfl | rfl | rfl
    · cases deed with
      | claim => rfl
    · cases deed with
      | begin => rfl
    · cases deed with
      | finish _ finishes => exact congrArg (·.receiver) (Task.finishes_of finishes).2.2
    · cases deed with
      | stop => rfl
    · cases deed with
      | turnBack _ turns => exact congrArg (·.receiver) (Task.turns_of turns).2.2
    · cases deed with
      | push _ _ _ works => exact (Task.works_of works).2.receiver
      | work _ _ works => exact (Task.works_of works).2.receiver
  · rw [mem_stepsOf] at own ⊢
    rcases own with rfl | rfl | rfl | rfl | rfl | rfl <;> simp [Ne.symm different]

/-- A job that is at work on a batch comes further, if it has the slot that it needs. -/
theorem exists_work (sound : hall.Sound) {job : IntervalJob}
    (found : hall.tasks[place]? = some (.only (.interval job)))
    (busy : (Job.interval job).awaitsTick = false)
    (going : (Job.interval job).isOver = false)
    (has : (Job.interval job).needsSlot hall.dispatcher = true → place ∈ hall.slots.held) :
    ∃ next later, hall.Deed (.work place) later ∧
      later.tasks[place]? = some (.only (.interval next)) ∧ next.pending < job.pending := by
  have room (needs : (Job.interval job).needsSlot hall.dispatcher = true) :
      hall.dispatcher.queue.length < hall.dispatcher.capacity := by
    refine sound.room (fun gone => ?_) (has needs)
    cases (Job.not_needsSlot_of_closed gone _).symm.trans needs
  obtain ⟨⟨next, shared⟩, step⟩ := Option.isSome_iff_exists.mp
    (IntervalJob.isSome_step busy going room : (job.step? hall.moment.untold _).isSome = true)
  have works : Task.work? hall.moment hall.shared (.only (.interval job)) =
      some (.only (.interval next), shared) := by
    have made : (Job.interval job).step? hall.moment.untold hall.shared =
        some (.interval next, shared) := by
      show (job.step? hall.moment.untold hall.shared).map _ = _
      rw [show job.step? hall.moment.untold hall.shared = some (next, shared) from step]
      rfl
    rw [Task.work?, busy, if_neg Bool.false_ne_true, made]
    rfl
  have inside := (List.getElem?_eq_some_iff.mp found).1
  have fewer := IntervalJob.pending_of_step busy step
  cases needs : (Job.interval job).needsSlot hall.dispatcher with
  | true =>
    exact ⟨next, _, .push found needs (has needs) works, List.getElem?_set_self inside, fewer⟩
  | false => exact ⟨next, _, .work found needs works, List.getElem?_set_self inside, fewer⟩

/-- A job that is told to stop comes further by one or two steps of its own, unless it waits for a
slot. -/
theorem exists_progress (sound : hall.Sound) (told : hall.moment.cancelled = true)
    (found : hall.tasks[place]? = some task) (going : task.isOver = false)
    (unblocked : ¬hall.AwaitsSlot place) :
    ∃ first rest next later, (∀ event ∈ first :: rest, event ∈ Event.stepsOf place) ∧
      hall.undergo? (first :: rest) = some later ∧ later.tasks[place]? = some next ∧
      (first :: rest).length + next.stepsLeft ≤ task.stepsLeft := by
  have inside := (List.getElem?_eq_some_iff.mp found).1
  have stops {next : Task} (stopped : task.stop? hall.moment = some next)
      (some : 1 ≤ task.stepsLeft) :
      ∃ first rest next later, (∀ event ∈ first :: rest, event ∈ Event.stepsOf place) ∧
        hall.undergo? (first :: rest) = .some later ∧ later.tasks[place]? = .some next ∧
        (first :: rest).length + next.stepsLeft ≤ task.stepsLeft := by
    refine ⟨.stop place, [], next, _, by simp [mem_stepsOf], undergo_of_deed (.stop found stopped),
      List.getElem?_set_self inside, ?_⟩
    rw [Task.stepsLeft_of_isOver (Task.stops_of stopped).2.2]
    exact some
  cases task with
  | run job ticker tick =>
    exact stops (by rw [Task.stop?, if_pos told]) (Nat.le_refl 1)
  | only job =>
    have left : Task.stepsLeft (.only job) = 2 * job.pending + 1 := by
      rw [Task.stepsLeft, if_neg (by simpa [Task.isOver] using going)]
    by_cases hears : job.hears = true
    · exact stops (by rw [Task.stop?, told, hears]; rfl) (left ▸ Nat.le_add_left 1 _)
    · -- A job that does not look for the order is at work on a batch.
      cases job with
      | program job =>
        refine absurd ?_ hears
        rw [Job.hears, show (Job.program job).isOver = false from going]
        rfl
      | interval job =>
        have busy : (Job.interval job).awaitsTick = false := eq_false_of_ne_true hears
        have less {next : IntervalJob} (fewer : next.pending < job.pending) :
            2 + Task.stepsLeft (.only (.interval next)) ≤ 2 * job.pending + 1 := by
          rw [Task.stepsLeft]
          have same : (Job.interval next).pending = next.pending := rfl
          split <;> omega
        rw [left]
        by_cases has : (Job.interval job).needsSlot hall.dispatcher = true →
          place ∈ hall.slots.held
        · obtain ⟨next, later, deed, there, fewer⟩ := exists_work sound found busy going has
          refine ⟨.work place, [], _, later, by simp [mem_stepsOf], undergo_of_deed deed, there, ?_⟩
          exact Nat.le_trans (Nat.add_le_add_right (Nat.le_succ 1) _) (less fewer)
        · obtain ⟨needs, without⟩ := not_forall.mp has
          have free : hall.slots.free ≠ 0 :=
            fun none => unblocked ⟨job, found, needs, none, without⟩
          have new : hall.slots.IsNew place := by
            rw [Slots.isNew_iff, hall.slots.line_eq_nil free]
            exact ⟨without, List.not_mem_nil⟩
          obtain ⟨slots, claims⟩ := Option.isSome_iff_exists.mp (Slots.claim_isSome free new)
          have claim : hall.Deed (.claim place) { hall with slots := slots } :=
            .claim found needs claims
          have given : place ∈ slots.held := by
            rw [(Slots.claimed claims).2.2.1]
            exact List.mem_append_right _ List.mem_cons_self
          obtain ⟨next, later, deed, there, fewer⟩ :=
            exists_work (sound.deed claim) found busy going fun _ => given
          exact ⟨.claim place, [.work place], _, later, by simp [mem_stepsOf],
            undergo_of_deeds claim deed, there, less fewer⟩

/-- What holds is kept by events, by induction on them. -/
theorem keeps_of_undergo (Holds : Hall → Prop)
    (kept : ∀ hall event after, event ∈ events → Holds hall → hall.Deed event after → Holds after)
    (begins : Holds hall) (undergone : hall.undergo? events = some later) : Holds later := by
  induction events generalizing hall with
  | nil => rwa [← Option.some.inj undergone]
  | cons event rest inductionHypothesis =>
    rw [undergo?] at undergone
    split at undergone
    · cases undergone
    · rename_i next happened
      have holds := kept hall event next List.mem_cons_self begins (deed_of_after happened)
      exact inductionHypothesis
        (fun hall event after member => kept hall event after (List.mem_cons_of_mem _ member))
        holds undergone

/-- By its own steps a job that is told to stop can come to its end, or to where it waits for a
slot. -/
theorem exists_end {hall : Hall} {task : Task} (sound : hall.Sound)
    (told : hall.moment.cancelled = true) (found : hall.tasks[place]? = some task) :
    ∃ events later, (∀ event ∈ events, event ∈ Event.stepsOf place) ∧
      events.length ≤ task.stepsLeft ∧ hall.undergo? events = some later ∧
      ((∃ last, later.tasks[place]? = some last ∧ last.isOver = true) ∨
        later.AwaitsSlot place) := by
  by_cases done : task.isOver = true ∨ hall.AwaitsSlot place
  · exact ⟨[], hall, nofun, Nat.zero_le _, rfl,
      done.imp_left fun finished => ⟨task, found, finished⟩⟩
  · obtain ⟨going, unblocked⟩ := not_or.mp done
    obtain ⟨first, rest, next, between, own, undergone, there, fewer⟩ :=
      exists_progress sound told found (eq_false_of_ne_true going) unblocked
    have less : next.stepsLeft < task.stepsLeft := by
      rw [List.length_cons] at fewer
      omega
    have kept := keeps_of_undergo (fun hall => hall.Sound ∧ hall.moment.cancelled = true)
      (fun _ _ _ _ holds deed => ⟨holds.1.deed deed, told_of_deed deed holds.2⟩)
      ⟨sound, told⟩ undergone
    obtain ⟨events, later, others, few, further, ended⟩ := exists_end kept.1 kept.2 there
    refine ⟨first :: rest ++ events, later, fun event member => ?_, ?_, ?_, ended⟩
    · exact (List.mem_append.mp member).elim (own event) (others event)
    · rw [List.length_append]
      omega
    · rw [undergo?_append undergone, further]
  termination_by task.stepsLeft
  decreasing_by exact less

/-- Once the consumer has gone, all jobs that are told to stop come to their end by their own steps,
one after the other. -/
theorem exists_all_over (sound : hall.Sound) (told : hall.moment.cancelled = true)
    (gone : hall.dispatcher.receiver = .dropped) (count : Nat) :
    ∃ events later, (∀ event ∈ events, ∃ place, event ∈ Event.stepsOf place) ∧
      hall.undergo? events = some later ∧ later.Sound ∧ later.moment.cancelled = true ∧
      later.dispatcher.receiver = .dropped ∧
      ∀ place < count, ∀ task, later.tasks[place]? = some task → task.isOver = true := by
  induction count with
  | zero => exact ⟨[], hall, nofun, rfl, sound, told, gone, nofun⟩
  | succ count inductionHypothesis =>
    obtain ⟨events, later, own, undergone, sound, told, gone, finished⟩ := inductionHypothesis
    cases found : later.tasks[count]? with
    | none =>
      refine ⟨events, later, own, undergone, sound, told, gone, fun place early task there => ?_⟩
      rcases Nat.lt_succ_iff_lt_or_eq.mp early with before | rfl
      · exact finished place before task there
      · cases found.symm.trans there
    | some task =>
      obtain ⟨more, final, others, _, further, ended⟩ := exists_end sound told found
      have kept := keeps_of_undergo
        (fun hall => hall.Sound ∧ hall.moment.cancelled = true ∧
          hall.dispatcher.receiver = .dropped ∧
          ∀ other, other ≠ count → hall.tasks[other]? = later.tasks[other]?)
        (fun hall event after member holds deed => by
          obtain ⟨sound, told, gone, same⟩ := holds
          obtain ⟨receiver, tasks⟩ := kept_of_own deed (others event member)
          exact ⟨sound.deed deed, told_of_deed deed told, receiver.trans gone,
            fun other different => (tasks other different).trans (same other different)⟩)
        ⟨sound, told, gone, fun _ _ => rfl⟩ further
      obtain ⟨soundThen, toldThen, goneThen, same⟩ := kept
      refine ⟨events ++ more, final, fun event member => ?_, ?_, soundThen, toldThen, goneThen,
        fun place early task there => ?_⟩
      · exact (List.mem_append.mp member).elim (own event) fun new => ⟨count, others event new⟩
      · rw [undergo?_append undergone, further]
      · rcases Nat.lt_succ_iff_lt_or_eq.mp early with before | rfl
        · exact finished place before task ((same place (Nat.ne_of_lt before)).symm.trans there)
        · rcases ended with ⟨last, here, done⟩ | ⟨_, _, needs, _⟩
          · rwa [Option.some.inj (there.symm.trans here)]
          · cases (Job.not_needsSlot_of_closed goneThen _).symm.trans needs

/-! ### Jobs that wait for a slot -/

/-- As long as no slot comes back and the consumer does not go, nobody gets a slot. -/
theorem slots_of_deed (deed : hall.Deed event after) (stays : event ≠ .leave)
    (kept : ¬hall.Restores event) (none : hall.slots.free = 0) :
    after.slots.free = 0 ∧ ∀ place, place ∉ hall.slots.held → place ∉ after.slots.held := by
  cases deed with
  | restore => exact absurd (.inl rfl) kept
  | leave => exact absurd rfl stays
  | wait _ _ waits =>
    obtain ⟨_, _, free, held, _⟩ := Slots.waited waits
    exact ⟨free.trans none, fun place without => held ▸ without⟩
  | claim _ _ claims => cases none.symm.trans (Slots.claimed claims).1
  | @stop place _ _ found stops =>
    have without : place ∉ hall.slots.held := fun has => kept (.inr ⟨place, has, rfl⟩)
    obtain ⟨free, held, _⟩ := Slots.quit_of_not_held without
    exact ⟨free.trans none, fun other without => by
      rw [show Slots.held _ = hall.slots.held from held]
      exact without⟩
  | push => exact ⟨none, fun other without has => without (List.mem_of_mem_erase has)⟩
  | _ => exact ⟨none, fun _ without => without⟩

/-- So a job that waits for one stays as it is. -/
theorem awaitsSlot_of_deed (awaits : hall.AwaitsSlot place) (deed : hall.Deed event after)
    (stays : event ≠ .leave) (kept : ¬hall.Restores event) :
    after.tasks[place]? = hall.tasks[place]? ∧ after.AwaitsSlot place := by
  have other : event ∉ Event.stepsOf place :=
    fun own => not_deed_of_awaitsSlot awaits own deed
  have same := tasks_of_deed deed other
  obtain ⟨job, found, needs, none, without⟩ := awaits
  obtain ⟨free, given⟩ := slots_of_deed deed stays kept none
  have receiver : after.dispatcher.receiver = hall.dispatcher.receiver := by
    cases deed with
    | leave => exact absurd rfl stays
    | finish _ finishes => exact congrArg (·.receiver) (Task.finishes_of finishes).2.2
    | turnBack _ turns => exact congrArg (·.receiver) (Task.turns_of turns).2.2
    | push _ _ _ works => exact (Task.works_of works).2.receiver
    | work _ _ works => exact (Task.works_of works).2.receiver
    | _ => rfl
  exact ⟨same, job, same.trans found, (Job.needsSlot_congr receiver _).trans needs, free,
    given place without⟩

/-- Where nobody has a slot and none has to come back, a job that waits for one does so for good if
nothing is received and the consumer does not go. -/
theorem awaitsSlot_of_undergo (nobody : hall.slots.held = []) (outside : hall.returning = 0)
    (awaits : hall.AwaitsSlot place) (undergone : hall.undergo? events = some later)
    (unreceived : .receive ∉ events) (stays : .leave ∉ events) :
    later.tasks[place]? = hall.tasks[place]? ∧ later.AwaitsSlot place := by
  have kept := keeps_of_undergo
    (fun between => between.slots.held = [] ∧ between.returning = 0 ∧ between.AwaitsSlot place ∧
      between.tasks[place]? = hall.tasks[place]?)
    (fun between event after member holds deed => by
      obtain ⟨nobody, outside, awaits, same⟩ := holds
      have restores : ¬between.Restores event := by
        rintro (rfl | ⟨_, has, _⟩)
        · cases deed with
          | restore one => cases outside.symm.trans one
        · rw [nobody] at has
          cases has
      have none : after.returning = 0 := by
        cases deed with
        | receive => exact absurd member unreceived
        | restore one => cases outside.symm.trans one
        | _ => exact outside
      have here : event ≠ .leave := fun gone => stays (gone ▸ member)
      obtain ⟨tasks, still⟩ := awaitsSlot_of_deed awaits deed here restores
      obtain ⟨_, _, _, full, _⟩ := awaits
      have given := (slots_of_deed deed here restores full).2
      exact ⟨List.eq_nil_iff_forall_not_mem.mpr fun other => given other (by simp [nobody]), none,
        still, tasks.trans same⟩)
    ⟨nobody, outside, awaits, rfl⟩ undergone
  exact ⟨kept.2.2.2, kept.2.2.1⟩

/-- Those who wait keep their order, and whoever joins them stands behind them. -/
theorem line_of_deed (deed : hall.Deed event after) :
    after.slots.line.Sublist hall.slots.line ∨
      ∃ place, event = .wait place ∧ after.slots.line = hall.slots.line ++ [place] := by
  cases deed with
  | restore => exact .inl hall.slots.line_restore
  | leave => exact .inl (List.nil_sublist _)
  | @wait place _ _ _ _ waits => exact .inr ⟨place, rfl, (Slots.waited waits).2.2.2.2⟩
  | claim _ _ claims => exact .inl ((Slots.claimed claims).2.2.2 ▸ List.Sublist.refl _)
  | @stop place => exact .inl (hall.slots.line_quit place)
  | _ => exact .inl (List.Sublist.refl _)

/-- A job that is told to stop can come further unless it is over or waits for a slot. -/
theorem canStep_of_going (sound : hall.Sound) (told : hall.moment.cancelled = true)
    (found : hall.tasks[place]? = some task) (going : task.isOver = false)
    (unblocked : ¬hall.AwaitsSlot place) : hall.canStep place = true := by
  obtain ⟨first, rest, _, later, own, undergone, _⟩ :=
    exists_progress sound told found going unblocked
  rw [undergo?] at undergone
  split at undergone
  · cases undergone
  · rename_i next happened
    exact canStep_iff.mpr ⟨first, own first List.mem_cons_self, next, deed_of_after happened⟩

theorem canStep_eq_false_iff (sound : hall.Sound) (told : hall.moment.cancelled = true)
    (found : hall.tasks[place]? = some task) :
    hall.canStep place = false ↔ task.isOver = true ∨ hall.AwaitsSlot place := by
  constructor
  · intro still
    by_contra neither
    obtain ⟨going, unblocked⟩ := not_or.mp neither
    cases still.symm.trans (canStep_of_going sound told found (eq_false_of_ne_true going) unblocked)
  · intro either
    refine eq_false_of_ne_true fun steps => ?_
    obtain ⟨event, own, after, deed⟩ := canStep_iff.mp steps
    rcases either with finished | awaits
    · exact not_deed_of_over found finished own deed
    · exact not_deed_of_awaitsSlot awaits own deed

/-- A slot that comes back is given to the first in the line, which can come further then, and the
others move up. -/
theorem released_of_deed (sound : hall.Sound) (told : hall.moment.cancelled = true)
    (deed : hall.Deed event after) (restores : hall.Restores event) {first : Nat}
    {rest : List Nat} (line : hall.slots.line = first :: rest) :
    after.slots.line = rest ∧ first ∈ after.slots.held ∧ after.canStep first = true := by
  have served : after.slots.line = rest ∧ first ∈ after.slots.held := by
    rcases restores with rfl | ⟨place, has, rfl⟩
    · cases deed with
      | restore =>
        obtain ⟨_, held, moved⟩ := Slots.restore_of_line line
        exact ⟨moved, held ▸ List.mem_append_right _ List.mem_cons_self⟩
    · cases deed with
      | stop =>
        have same : (hall.slots.use place).line = first :: rest := line
        obtain ⟨_, held, moved⟩ := Slots.restore_of_line same
        show (hall.slots.quit place).line = rest ∧ first ∈ (hall.slots.quit place).held
        rw [Slots.quit_of_held has]
        exact ⟨moved, held ▸ List.mem_append_right _ List.mem_cons_self⟩
  have soundAfter := sound.deed deed
  have old : ¬after.slots.IsNew first := fun new => (Slots.isNew_iff.mp new).1 served.2
  obtain ⟨task, found, needs⟩ := soundAfter.needed first old
  have going : task.isOver = false := by
    refine eq_false_of_ne_true fun finished => ?_
    cases task with
    | only job => cases (Job.needsSlot_of_isOver finished).symm.trans needs
    | run => cases needs
  exact ⟨served.1, served.2, canStep_of_going soundAfter (told_of_deed deed told) found going
    fun ⟨_, _, _, _, without⟩ => without served.2⟩

/-! ### The order to stop -/

/-- What the order to stop does in a hall. -/
structure ShutsDown (hall : Hall) : Prop where
  /-- A job can come further, whatever the consumer does, unless it is over or waits for a slot. -/
  still_iff : ∀ place task, hall.tasks[place]? = some task →
    (hall.canStep place = false ↔ task.isOver = true ∨ hall.AwaitsSlot place)
  /-- A job waits for a slot only as long as the points in the queue, the slots that are given and
  those that have not come back leave no room. -/
  full : ∀ place, hall.AwaitsSlot place →
    hall.dispatcher.queue.length + hall.slots.held.length + hall.returning =
      hall.dispatcher.capacity
  /-- A job that waits stays as it is in whatever happens until a slot comes back or the consumer
  goes. -/
  stays : ∀ place, hall.AwaitsSlot place → ∀ event after, hall.after? event = some after →
    event ≠ .leave → ¬hall.Restores event →
      after.tasks[place]? = hall.tasks[place]? ∧ after.AwaitsSlot place
  /-- Where nobody has a slot that could be passed on and none has to come back, it does so until
  the consumer receives or goes. -/
  forGood : hall.slots.held = [] → hall.returning = 0 → ∀ place, hall.AwaitsSlot place →
    ∀ events later, hall.undergo? events = some later → .receive ∉ events → .leave ∉ events →
      later.tasks[place]? = hall.tasks[place]? ∧ later.canStep place = false
  /-- A slot that comes back is given to the first in the line, and this one can come further. -/
  released : ∀ event after, hall.after? event = some after → hall.Restores event →
    ∀ first rest, hall.slots.line = first :: rest →
      after.slots.line = rest ∧ first ∈ after.slots.held ∧ after.canStep first = true
  /-- Nobody overtakes anybody in the line. -/
  ordered : ∀ event after, hall.after? event = some after →
    after.slots.line.Sublist hall.slots.line ∨
      ∃ place, event = .wait place ∧ after.slots.line = hall.slots.line ++ [place]
  /-- By a bounded number of its own steps a job can come to its end, or to where it waits for a
  slot. -/
  ends : ∀ place task, hall.tasks[place]? = some task →
    ∃ events later, (∀ event ∈ events, event ∈ Event.stepsOf place) ∧
      events.length ≤ task.stepsLeft ∧ hall.undergo? events = some later ∧
      ((∃ last, later.tasks[place]? = some last ∧ last.isOver = true) ∨ later.AwaitsSlot place)
  /-- Once the consumer has gone, all jobs can come to their end by their own steps. -/
  completes : hall.dispatcher.receiver = .dropped →
    ∃ events later, (∀ event ∈ events, ∃ place, event ∈ Event.stepsOf place) ∧
      hall.undergo? events = some later ∧ ∀ task ∈ later.tasks, task.isOver = true

/-- In every hall that can be reached, whenever the order comes and whatever the consumer does, the
jobs can come to their end but for those that wait for a slot. -/
theorem shutsDown_of_cancelled (reachable : Reachable hall)
    (told : hall.moment.cancelled = true) : hall.ShutsDown where
  still_iff place task found := canStep_eq_false_iff reachable.sound told found
  full place awaits := by
    obtain ⟨job, _, needs, none, _⟩ := awaits
    have balance := reachable.sound.balance fun gone => by
      cases (Job.not_needsSlot_of_closed gone _).symm.trans needs
    rw [Slots.spare, none] at balance
    omega
  stays place awaits event after happened stays kept :=
    awaitsSlot_of_deed awaits (deed_of_after happened) stays kept
  forGood nobody outside place awaits events later undergone unreceived stays := by
    obtain ⟨same, still⟩ :=
      awaitsSlot_of_undergo nobody outside awaits undergone unreceived stays
    refine ⟨same, eq_false_of_ne_true fun steps => ?_⟩
    obtain ⟨event, own, after, deed⟩ := canStep_iff.mp steps
    exact not_deed_of_awaitsSlot still own deed
  released event after happened restores first rest line :=
    released_of_deed reachable.sound told (deed_of_after happened) restores line
  ordered event after happened := line_of_deed (deed_of_after happened)
  ends place task found := exists_end reachable.sound told found
  completes gone := by
    obtain ⟨events, later, own, undergone, _, _, _, finished⟩ :=
      exists_all_over reachable.sound told gone hall.tasks.length
    have same := keeps_of_undergo (fun between => between.tasks.length = hall.tasks.length)
      (fun between event after _ same deed => (length_of_deed deed).trans same) rfl undergone
    refine ⟨events, later, own, undergone, fun task member => ?_⟩
    obtain ⟨place, there⟩ := List.mem_iff_getElem?.mp member
    exact finished place (same ▸ (List.getElem?_eq_some_iff.mp there).1) task there

/-- A hall whose only collector makes up three points a second, with room for one of them. -/
def narrowHall : Hall :=
  start ⟨[.interval (.fake 3)]⟩ (Context.new "web01") Surroundings.none (fun _ _ => ⟨none, 0⟩) 1 0

/-- What comes about in it until the order comes. The first point is in the queue then, the second
one waits for a slot, and the consumer receives nothing. -/
def narrowEvents : List Event :=
  [.pass second Surroundings.none, .begin 0, .finish 0, .claim 0, .work 0, .wait 0, .order]

theorem exists_stalled :
    ∃ hall task, Reachable hall ∧ hall.moment.cancelled = true ∧ hall.slots.held = [] ∧
      hall.returning = 0 ∧ hall.tasks[0]? = some task ∧ task.isOver = false ∧
      hall.canStep 0 = false := by
  have seen : (narrowHall.undergo? narrowEvents).map (fun hall =>
      (hall.moment.cancelled, hall.slots.held, hall.returning, hall.tasks.map Task.isOver,
        hall.canStep 0)) = some (true, [], 0, [false], false) := by
    decide +kernel
  obtain ⟨hall, undergone, same⟩ := Option.map_eq_some_iff.mp seen
  obtain ⟨told, same⟩ := Prod.mk.inj same
  obtain ⟨nobody, same⟩ := Prod.mk.inj same
  obtain ⟨outside, same⟩ := Prod.mk.inj same
  obtain ⟨going, still⟩ := Prod.mk.inj same
  obtain ⟨task, tasks, unfinished⟩ := List.map_eq_singleton_iff.mp going
  refine ⟨hall, task, ?_, told, nobody, outside, ?_, unfinished, still⟩
  · exact (Reachable.start _ _ _ _ _ _).undergo undergone
  · rw [tasks]
    rfl

/-- The second point of the collector waits for a slot, so the collector stays as it is in whatever
happens until the consumer receives or goes. -/
theorem shutsDown_of_narrowHall :
    ∃ hall task, Reachable hall ∧ hall.moment.cancelled = true ∧ hall.ShutsDown ∧
      hall.tasks[0]? = some task ∧ task.isOver = false ∧
      ∀ events later, hall.undergo? events = some later → .receive ∉ events → .leave ∉ events →
        later.tasks[0]? = some task ∧ later.canStep 0 = false := by
  obtain ⟨hall, task, reachable, told, nobody, outside, found, going, still⟩ := exists_stalled
  have shutsDown := shutsDown_of_cancelled reachable told
  have either := (shutsDown.still_iff 0 task found).mp still
  rw [going] at either
  have awaits := either.resolve_left Bool.false_ne_true
  refine ⟨hall, task, reachable, told, shutsDown, found, going, ?_⟩
  intro events later undergone unreceived stays
  obtain ⟨same, none⟩ :=
    shutsDown.forGood nobody outside 0 awaits events later undergone unreceived stays
  exact ⟨same.trans found, none⟩

/-- A job that is told to stop and is not over cannot always come further. -/
theorem not_always_canStep :
    ¬∀ (hall : Hall) (place : Nat) (task : Task), Reachable hall →
      hall.moment.cancelled = true → hall.tasks[place]? = some task → task.isOver = false →
        hall.canStep place = true := by
  intro always
  obtain ⟨hall, task, reachable, told, _, _, found, going, still⟩ := exists_stalled
  cases still.symm.trans (always hall 0 task reachable told found going)

end Hall

end Telemetry
