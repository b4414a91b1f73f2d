/-
This file says that a tally loses no count and doubles none.

Whatever calls and snapshots do in between each other, what all snapshots have read of a name and
what the tally still holds of it are together what the calls have counted, up to the wrapping of
sixty-four bits. A call moves its amount into the tally, a snapshot moves a count out of it, and
nothing else touches it; that is one case for each event. What a snapshot reports is what it has
read, but for zeros and the order, because it reads no name twice.

Among the runs is the one in which a snapshot is left alone; it comes to what reading all names at
once does.
-/

import Mathlib.Data.List.Nodup
import Mathlib.Data.List.Perm.Basic
import Telemetry.Tally.Traffic
import Telemetry.Proofs.Tables

namespace Telemetry

namespace Tally

/-- Where an element stands, it can be put in front of the others. -/
theorem perm_of_getElem? {α : Type} {elements : List α} {place : Nat} {element : α}
    (found : elements[place]? = some element) :
    elements.Perm (element :: elements.eraseIdx place) := by
  obtain ⟨inside, same⟩ := List.getElem?_eq_some_iff.mp found
  exact same ▸ (List.getElem_cons_eraseIdx_perm inside).symm

/-! ### Counts -/

/-- What entries hold of a name. -/
def totalOf (name : String) : List (String × UInt64) → Nat
  | [] => 0
  | entry :: rest => (if entry.1 = name then entry.2.toNat else 0) + totalOf name rest

theorem totalOf_append (name : String) (first rest : List (String × UInt64)) :
    totalOf name (first ++ rest) = totalOf name first + totalOf name rest := by
  induction first with
  | nil => exact (Nat.zero_add _).symm
  | cons entry others inductionHypothesis =>
    rw [List.cons_append, totalOf, inductionHypothesis, totalOf, Nat.add_assoc]

theorem totalOf_perm (name : String) {entries others : List (String × UInt64)}
    (perm : entries.Perm others) : totalOf name entries = totalOf name others := by
  induction perm with
  | nil => rfl
  | cons entry _ inductionHypothesis => rw [totalOf, totalOf, inductionHypothesis]
  | swap first second rest => simp only [totalOf]; omega
  | trans _ _ before after => exact before.trans after

theorem totalOf_nonzero (name : String) (entries : List (String × UInt64)) :
    totalOf name (entries.filter fun entry => entry.2 ≠ 0) = totalOf name entries := by
  induction entries with
  | nil => rfl
  | cons entry rest inductionHypothesis =>
    by_cases zero : entry.2 = 0
    · rw [List.filter_cons_of_neg (by simp [zero]), inductionHypothesis, totalOf, zero]
      simp
    · rw [List.filter_cons_of_pos (by simp [zero]), totalOf, inductionHypothesis, totalOf]

/-- A report holds what was read. -/
theorem totalOf_listed (name : String) (read : List (String × UInt64)) :
    totalOf name (listed read) = totalOf name read := by
  rw [listed, totalOf_perm name (List.mergeSort_perm _ _), totalOf_nonzero]

theorem count_record (tally : Tally) (name asked : String) (amount : UInt64) :
    (tally.record name amount).count asked =
      if asked = name then tally.count name + amount else tally.count asked := by
  rw [record, count, Table.get?_insert]
  split <;> rfl

theorem count_take (tally : Tally) (name asked : String) :
    (tally.take name).2.count asked = if asked = name then 0 else tally.count asked := by
  rw [take, count, Table.get?_insert]
  split <;> rfl

/-! ### Reports -/

/-- A list of counts by ascending name, each name once and none with a count of zero. -/
structure IsReport (report : List (String × UInt64)) : Prop where
  ascending : (report.map (·.1)).Pairwise (· < ·)
  nonzero : ∀ entry ∈ report, entry.2 ≠ 0

theorem isReport_listed {read : List (String × UInt64)} (once : (read.map (·.1)).Nodup) :
    IsReport (listed read) := by
  have perm := List.mergeSort_perm (read.filter fun entry => entry.2 ≠ 0)
    fun left right => decide (left.1 ≤ right.1)
  refine ⟨?_, fun entry member => by simpa using (List.mem_filter.mp (perm.mem_iff.mp member)).2⟩
  have distinct : ((listed read).map (·.1)).Nodup :=
    (perm.map _).nodup_iff.mpr (once.sublist (List.filter_sublist.map _))
  have sorted : ((listed read).map (·.1)).Pairwise (· ≤ ·) := by
    refine List.pairwise_map.mpr ((List.pairwise_mergeSort ?_ ?_ _).imp of_decide_eq_true)
    · intro first second third before after
      exact decide_eq_true (String.le_trans (of_decide_eq_true before) (of_decide_eq_true after))
    · intro first second
      rcases String.le_total first.1 second.1 with before | after
      · simp [before]
      · simp [after]
  refine (sorted.and distinct).imp fun {left right} both => String.not_le.mp fun after => ?_
  exact both.2 (String.le_antisymm both.1 after)

namespace Traffic

variable {traffic after : Traffic} {event : Event}

/-! ### One event -/

/-- What an event does to traffic in which it is possible. -/
inductive Step (traffic : Traffic) : Event → Traffic → Prop where
  | added (name : String) (amount : UInt64) :
      Step traffic (.record name amount) (traffic.add name amount)
  | delayed (name : String) (amount : UInt64) :
      Step traffic (.record name amount) { traffic with late := traffic.late ++ [(name, amount)] }
  | created {place : Nat} {name : String} {amount : UInt64}
      (found : traffic.late[place]? = some (name, amount)) :
      Step traffic (.create place)
        (add { traffic with late := traffic.late.eraseIdx place } name amount)
  | survey :
      Step traffic .survey
        { traffic with surveys := traffic.surveys ++ [⟨traffic.tally.counts.keys, []⟩] }
  | read {place : Nat} {name : String} {survey : Survey}
      (found : traffic.surveys[place]? = some survey) (fresh : name ∉ survey.read.map (·.1)) :
      Step traffic (.read place name)
        { traffic with
          tally := (traffic.tally.take name).2
          surveys := traffic.surveys.set place
            ⟨survey.ahead.erase name, survey.read ++ [(name, traffic.tally.count name)]⟩ }
  | report {place : Nat} {read : List (String × UInt64)}
      (found : traffic.surveys[place]? = some ⟨[], read⟩) :
      Step traffic (.report place)
        { traffic with
          surveys := traffic.surveys.eraseIdx place
          reports := traffic.reports ++ [listed read] }

/-- An event that is possible does what the cases say. -/
theorem step_of_step? (step : traffic.step? event = some after) : Step traffic event after := by
  cases event with
  | record name amount =>
    rw [← Option.some.inj step, record]
    split
    · exact .added name amount
    · exact .delayed name amount
  | create place =>
    rw [step?, create?] at step
    split at step
    · rename_i name amount found
      rw [← Option.some.inj step]
      exact .created found
    · cases step
  | survey =>
    rw [← Option.some.inj step]
    exact .survey
  | read place name =>
    rw [step?, read?] at step
    split at step
    · rename_i survey found
      split at step
      · rename_i fresh
        rw [← Option.some.inj step]
        exact .read found fresh.2
      · cases step
    · cases step
  | report place =>
    rw [step?, report?] at step
    split at step
    · rename_i read found
      rw [← Option.some.inj step]
      exact .report found
    · cases step

/-! ### Conservation -/

/-- What all snapshots have read of a name, those that are over and those under way. -/
def readOf (traffic : Traffic) (name : String) : Nat :=
  totalOf name traffic.reports.flatten + totalOf name (traffic.surveys.flatMap Survey.read)

/-- What was read and what is held of every name is what was counted. -/
def Balances (traffic : Traffic) : Prop :=
  ∀ name, (traffic.readOf name + (traffic.tally.count name).toNat) % UInt64.size =
    totalOf name traffic.recorded % UInt64.size

theorem balances_add (balances : traffic.Balances) (name : String) (amount : UInt64) :
    (traffic.add name amount).Balances := by
  intro asked
  show (traffic.readOf asked + ((traffic.tally.record name amount).count asked).toNat) % _ =
    totalOf asked (traffic.recorded ++ [(name, amount)]) % _
  have before := balances asked
  rw [count_record, totalOf_append, totalOf, totalOf]
  by_cases same : asked = name
  · subst same
    rw [if_pos rfl, if_pos rfl, UInt64.toNat_add]
    simp only [UInt64.size] at before ⊢
    omega
  · rw [if_neg same, if_neg (Ne.symm same)]
    exact before

/-- What was read of a name by a snapshot and by the others. -/
theorem totalOf_surveys {surveys others : List Survey} {survey : Survey}
    (perm : surveys.Perm (survey :: others)) (name : String) :
    totalOf name (surveys.flatMap Survey.read) =
      totalOf name survey.read + totalOf name (others.flatMap Survey.read) := by
  rw [totalOf_perm name (perm.flatMap_right Survey.read), List.flatMap_cons, totalOf_append]

theorem balances_of_step (step : Step traffic event after) (balances : traffic.Balances) :
    after.Balances := by
  cases step with
  | added name amount => exact balances_add balances name amount
  | delayed => exact balances
  | @created place name amount found =>
    have others : Balances { traffic with late := traffic.late.eraseIdx place } := balances
    exact balances_add others name amount
  | survey =>
    intro asked
    simpa [readOf] using balances asked
  | @read place name survey found fresh =>
    intro asked
    have inside := (List.getElem?_eq_some_iff.mp found).1
    have balance := balances asked
    rw [readOf, totalOf_surveys (perm_of_getElem? found)] at balance
    rw [readOf, totalOf_surveys (List.set_perm_cons_eraseIdx inside _), totalOf_append, totalOf,
      totalOf, count_take, ← balance]
    by_cases same : name = asked
    · rw [if_pos same, if_pos same.symm, same]
      simp only [UInt64.toNat_zero]
      congr 1
      omega
    · rw [if_neg same, if_neg (Ne.symm same)]
      rfl
  | @report place read found =>
    intro asked
    have balance := balances asked
    rw [readOf, totalOf_surveys (perm_of_getElem? found)] at balance
    rw [readOf, ← balance]
    show (totalOf asked (traffic.reports ++ [listed read]).flatten + _ + _) % _ = _
    rw [List.flatten_append, List.flatten_singleton, totalOf_append, totalOf_listed, Nat.add_assoc
      (totalOf asked traffic.reports.flatten)]

/-! ### What is read and reported -/

/-- No snapshot has read a name twice, and what was reported are reports. -/
structure Reads (traffic : Traffic) : Prop where
  once : ∀ survey ∈ traffic.surveys, (survey.read.map (·.1)).Nodup
  reports : ∀ report ∈ traffic.reports, IsReport report

theorem reads_of_step (step : Step traffic event after) (reads : traffic.Reads) :
    after.Reads := by
  cases step with
  | added => exact ⟨reads.once, reads.reports⟩
  | delayed => exact ⟨reads.once, reads.reports⟩
  | created => exact ⟨reads.once, reads.reports⟩
  | survey =>
    refine ⟨fun survey member => ?_, reads.reports⟩
    rcases List.mem_append.mp member with old | new
    · exact reads.once survey old
    · rw [List.mem_singleton.mp new]
      exact List.nodup_nil
  | @read place name survey found fresh =>
    refine ⟨fun other member => ?_, reads.reports⟩
    rcases List.mem_or_eq_of_mem_set member with old | rfl
    · exact reads.once other old
    · show ((survey.read ++ [(name, traffic.tally.count name)]).map (·.1)).Nodup
      rw [List.map_append, List.map_singleton, List.nodup_append_comm]
      exact List.nodup_cons.mpr ⟨fresh, reads.once survey (List.mem_of_getElem? found)⟩
  | @report place read found =>
    refine ⟨fun other member => reads.once other (List.mem_of_mem_eraseIdx member),
      fun report member => ?_⟩
    rcases List.mem_append.mp member with old | new
    · exact reads.reports report old
    · rw [List.mem_singleton.mp new]
      exact isReport_listed (reads.once ⟨[], read⟩ (List.mem_of_getElem? found))

/-! ### Calls -/

/-- A call that has begun is over or has still to add its amount. -/
theorem calls_of_step (step : Step traffic event after) :
    (after.recorded ++ after.late).Perm
      (traffic.recorded ++ traffic.late ++ event.call?.toList) := by
  cases step with
  | added name amount =>
    show (traffic.recorded ++ [(name, amount)] ++ traffic.late).Perm _
    rw [List.append_assoc, List.append_assoc]
    exact List.perm_append_comm.append_left traffic.recorded
  | delayed name amount => exact .of_eq (List.append_assoc _ _ _).symm
  | @created place name amount found =>
    show (traffic.recorded ++ [(name, amount)] ++ traffic.late.eraseIdx place).Perm
      (traffic.recorded ++ traffic.late ++ [])
    rw [List.append_nil, List.append_assoc]
    exact (perm_of_getElem? found).symm.append_left traffic.recorded
  | survey => exact .of_eq (List.append_nil _).symm
  | read => exact .of_eq (List.append_nil _).symm
  | report => exact .of_eq (List.append_nil _).symm

theorem calls_of_run {events : List Event} (run : traffic.run? events = some after) :
    (after.recorded ++ after.late).Perm
      (traffic.recorded ++ traffic.late ++ events.filterMap Event.call?) := by
  induction events generalizing traffic with
  | nil => exact .of_eq (Option.some.inj run ▸ (List.append_nil _).symm)
  | cons event rest inductionHypothesis =>
    obtain ⟨next, possible, later⟩ := Option.bind_eq_some_iff.mp run
    have now := (calls_of_step (step_of_step? possible)).append_right
      (rest.filterMap Event.call?)
    refine (inductionHypothesis later).trans (now.trans (.of_eq ?_))
    rw [List.append_assoc]
    cases called : event.call? with
    | none => rw [List.filterMap_cons_none called]; rfl
    | some call => rw [List.filterMap_cons_some called]; rfl

/-! ### Every run -/

/-- What calls and snapshots come to, whatever they do in between each other. -/
structure Conserves (events : List Event) (traffic : Traffic) : Prop where
  /-- Every call has counted its amount once or is about to. -/
  calls : (traffic.recorded ++ traffic.late).Perm (events.filterMap Event.call?)
  /-- What all snapshots have read of a name and what is held of it are together what was
  counted. -/
  balance : ∀ name, (totalOf name traffic.reports.flatten +
      totalOf name (traffic.surveys.flatMap Survey.read) +
      (traffic.tally.count name).toNat) % UInt64.size =
    totalOf name traffic.recorded % UInt64.size
  /-- When no call and no snapshot is under way, what the snapshots have reported and what is held
  are together what the calls give. -/
  settled : traffic.late = [] → traffic.surveys = [] → ∀ name,
    (totalOf name traffic.reports.flatten + (traffic.tally.count name).toNat) % UInt64.size =
      totalOf name (events.filterMap Event.call?) % UInt64.size
  /-- Every report lists names in ascending order, each name once. -/
  ascending : ∀ report ∈ traffic.reports, (report.map (·.1)).Pairwise (· < ·)
  /-- No report lists a count of zero. -/
  nonzero : ∀ report ∈ traffic.reports, ∀ entry ∈ report, entry.2 ≠ 0

/-- A tally that many use at once loses no count and doubles none. -/
theorem conserves_of_run {events : List Event} (run : start.run? events = some traffic) :
    traffic.Conserves events := by
  have calls : (traffic.recorded ++ traffic.late).Perm (events.filterMap Event.call?) :=
    calls_of_run run
  have balances : traffic.Balances :=
    run?_induction (fun _ possible => balances_of_step (step_of_step? possible)) run fun _ => rfl
  have reads : traffic.Reads :=
    run?_induction (fun _ possible => reads_of_step (step_of_step? possible)) run
      ⟨fun _ member => absurd member List.not_mem_nil,
        fun _ member => absurd member List.not_mem_nil⟩
  refine
    { calls := calls
      balance := balances
      settled := fun ended idle name => ?_
      ascending := fun report member => (reads.reports report member).ascending
      nonzero := fun report member => (reads.reports report member).nonzero }
  rw [ended, List.append_nil] at calls
  have balance := balances name
  rw [readOf, idle, totalOf_perm name calls] at balance
  exact balance

/-- Two calls find no count for one name, and a snapshot begins when one of them has made it. It
reads the wrapped sum of both, and later calls count on. -/
def lateCalls : List Event :=
  [.record "load" 5, .record "load" 18446744073709551615, .create 0, .survey, .create 0,
    .read 0 "load", .record "disk" 1, .create 0, .record "load" 7, .report 0]

/-- Then four are reported and seven are held, which is what was counted. -/
theorem conserves_of_lateCalls :
    ∃ traffic, start.run? lateCalls = some traffic ∧ traffic.Conserves lateCalls ∧
      traffic.reports = [[("load", 4)]] ∧ traffic.tally.count "load" = 7 ∧
      totalOf "load" traffic.recorded = UInt64.size + 11 := by
  have possible : (start.run? lateCalls).isSome = true := by decide +kernel
  obtain ⟨traffic, run⟩ := Option.isSome_iff_exists.mp possible
  have seen : (start.run? lateCalls).map (fun traffic =>
      (traffic.reports, traffic.tally.count "load", totalOf "load" traffic.recorded)) =
      some ([[("load", 4)]], 7, UInt64.size + 11) := by decide +kernel
  simp only [run, Option.map_some, Option.some.injEq, Prod.mk.injEq] at seen
  exact ⟨traffic, run, conserves_of_run run, seen⟩

/-! ### Calls and snapshots on their own -/

/-- When nobody else acts, a call does what counting at once does. -/
theorem exists_run_record (traffic : Traffic) (name : String) (amount : UInt64) :
    ∃ events, traffic.run? events = some (traffic.add name amount) := by
  by_cases known : traffic.tally.counts.contains name
  · refine ⟨[.record name amount], ?_⟩
    simp [run?, step?, record, known]
  · refine ⟨[.record name amount, .create traffic.late.length], ?_⟩
    simp [run?, step?, record, known, create?, add, List.eraseIdx_append_of_length_le]

/-- Resetting a name keeps the names that have a count. -/
theorem contains_take (tally : Tally) (name asked : String) :
    (tally.take name).2.counts.contains asked =
      (decide (asked = name) || tally.counts.contains asked) := by
  rw [take, Table.contains, Table.get?_insert]
  by_cases same : asked = name <;> simp [same, Table.contains]

/-- When nobody else acts, a snapshot reads the names it has ahead as reading them all at once
does. -/
theorem exists_run_reads {names : List String} (distinct : names.Nodup) (traffic : Traffic)
    {others : List Survey} {read : List (String × UInt64)}
    (last : traffic.surveys = others ++ [⟨names, read⟩])
    (known : ∀ name ∈ names, traffic.tally.counts.contains name)
    (fresh : ∀ name ∈ names, name ∉ read.map (·.1)) :
    ∃ events new,
      traffic.run? events =
        some { traffic with
          tally := (traffic.tally.takeAll names).2
          surveys := others ++ [⟨[], read ++ new⟩] } ∧
      new.map (·.1) = names ∧
      (new.filter fun entry => entry.2 ≠ 0) = (traffic.tally.takeAll names).1 := by
  induction names generalizing traffic read with
  | nil => exact ⟨[], [], by rw [run?, List.append_nil, ← last]; rfl, rfl, rfl⟩
  | cons name rest inductionHypothesis =>
    obtain ⟨absent, restDistinct⟩ := List.nodup_cons.mp distinct
    let entry := (name, traffic.tally.count name)
    let next : Traffic :=
      { traffic with
        tally := (traffic.tally.take name).2
        surveys := others ++ [⟨rest, read ++ [entry]⟩] }
    have possible : traffic.step? (.read others.length name) = some next := by
      have found : traffic.surveys[others.length]? = some ⟨name :: rest, read⟩ := by simp [last]
      rw [step?, read?, found]
      simp [known name List.mem_cons_self, fresh name List.mem_cons_self, last, take, next, entry]
    have restKnown : ∀ other ∈ rest, next.tally.counts.contains other := fun other member => by
      rw [contains_take, known other (List.mem_cons_of_mem _ member), Bool.or_true]
    have restFresh : ∀ other ∈ rest, other ∉ (read ++ [entry]).map (·.1) := by
      intro other member
      have different : other ≠ name := fun same => absent (same ▸ member)
      simpa [different, entry] using fresh other (List.mem_cons_of_mem _ member)
    obtain ⟨events, new, run, names, listed⟩ :=
      inductionHypothesis restDistinct next rfl restKnown restFresh
    refine ⟨.read others.length name :: events, entry :: new, ?_, ?_, ?_⟩
    · rw [run?, possible, Option.bind_some, run, List.append_assoc]
      rfl
    · rw [List.map_cons, names]
    · rw [takeAll, List.filter_cons, listed]
      by_cases zero : traffic.tally.count name = 0 <;> simp [entry, zero, next]

/-- Counts that are read by ascending name are reported in the order in which they are read. -/
theorem listed_of_ascending {read : List (String × UInt64)}
    (ascending : (read.map (·.1)).Pairwise (· < ·)) :
    listed read = read.filter fun entry => entry.2 ≠ 0 := by
  have sorted : read.Pairwise fun left right => decide (left.1 ≤ right.1) = true := by
    refine (List.pairwise_map.mp ascending).imp fun before => decide_eq_true ?_
    exact String.not_lt.mp fun after => String.lt_irrefl _ (String.lt_trans before after)
  exact List.mergeSort_of_pairwise (sorted.filter _)

/-- When nobody else acts, a snapshot reports what reading all names at once reports. -/
theorem exists_run_snapshot (traffic : Traffic) :
    ∃ events, traffic.run? events =
      some { traffic with
        tally := traffic.tally.snapshot.2
        reports := traffic.reports ++ [traffic.tally.snapshot.1] } := by
  let begun : Traffic :=
    { traffic with surveys := traffic.surveys ++ [⟨traffic.tally.counts.keys, []⟩] }
  have ascending : traffic.tally.counts.keys.Pairwise (· < ·) :=
    List.pairwise_map.mpr traffic.tally.counts.ascending
  have known : ∀ name ∈ traffic.tally.counts.keys, begun.tally.counts.contains name := by
    intro name member
    obtain ⟨⟨_, amount⟩, entry, rfl⟩ := List.mem_map.mp member
    exact Option.isSome_of_eq_some (Table.get?_eq_some_iff.mpr entry)
  have distinct : traffic.tally.counts.keys.Nodup :=
    Table.nodup_keys traffic.tally.counts.ascending
  obtain ⟨events, new, run, names, listed⟩ :=
    exists_run_reads distinct begun rfl known fun _ _ => List.not_mem_nil
  have reported : Tally.listed new = (traffic.tally.takeAll traffic.tally.counts.keys).1 := by
    rw [listed_of_ascending (names ▸ ascending), listed]
  refine ⟨.survey :: (events ++ [.report traffic.surveys.length]), ?_⟩
  rw [run?, step?, Option.bind_some, run?_append, run, Option.bind_some]
  simp [run?, step?, report?, reported, List.eraseIdx_append_of_length_le, begun, snapshot]

end Traffic

end Tally

end Telemetry
