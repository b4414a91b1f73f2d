/-
This file says how the processes of a watch entry keep and get their numbers.

An entry is brought up to date with a listing in two passes: it watches the new processes, and then
ends the watch of those that the listing lacks. As the first pass ends before the second begins, no
number changes hands within one listing. Over any course of listings and single ends, the numbers
that were ever used are exactly as many as the most processes that one listing made the entry watch
at once.
-/

import Telemetry.Proofs.Passes

namespace Telemetry

namespace Watch

variable {watch : Watch}

/-! ### One listing -/

/-- The processes that a listing makes an entry watch, in the order in which they first appear. -/
def newcomers (watch : Watch) (processes : List RunningProcess) : List Nat :=
  watch.unwatched (watch.covered processes)

/-- The count of processes that an entry watches or that a listing makes it watch. -/
def population (watch : Watch) (processes : List RunningProcess) : Nat :=
  (watch.pids ++ watch.covered processes).eraseDups.length

theorem mem_covered {pid : Nat} {processes : List RunningProcess} :
    pid ∈ watch.covered processes ↔
      ∃ process ∈ processes, watch.covers process ∧ process.pid = pid := by
  rw [covered, List.mem_map]
  simp only [List.mem_filter, and_assoc]

theorem mem_missing {pid : Nat} {named : List Nat} :
    pid ∈ watch.missing named ↔ pid ∈ watch.pids ∧ pid ∉ named := by
  rw [missing, List.mem_filter, pids]
  simp

theorem eraseDups_of_nodup {numbers : List Nat} (distinct : numbers.Nodup) :
    numbers.eraseDups = numbers := by
  induction numbers with
  | nil => rfl
  | cons number rest inductionHypothesis =>
    obtain ⟨absent, later⟩ := List.nodup_cons.mp distinct
    have others : (rest.filter fun other => !other == number) = rest := by
      refine List.filter_eq_self.mpr fun other member => ?_
      have different : other ≠ number := fun same => absent (same ▸ member)
      simpa using different
    rw [List.eraseDups_cons, others, inductionHypothesis later]

/-- Between the two passes the entry watches all that it watches before or after. -/
theorem Consistent.population_eq (consistent : watch.Consistent)
    (processes : List RunningProcess) :
    watch.population processes = ((watch.covered processes).foldl Watch.track watch).size := by
  have others : (watch.covered processes).removeAll watch.pids =
      (watch.covered processes).filter fun pid => (watch.id? pid).isNone := by
    refine List.filter_congr fun pid _ => ?_
    cases found : watch.id? pid with
    | none => simpa using id?_eq_none_iff.mp found
    | some number => simpa using isSome_id?_iff.mp (by rw [found]; rfl)
  have size : watch.pids.length = watch.size := List.length_map _
  rw [population, List.eraseDups_append, eraseDups_of_nodup consistent.distinct, others,
    List.length_append, size, consistent.size_foldl_track, unwatched]

theorem settings_check (watch : Watch) (processes : List RunningProcess) :
    (watch.check processes).settings = watch.settings := by
  rw [check, settings_foldl_remove, settings_foldl_track]

theorem Consistent.check (consistent : watch.Consistent) (processes : List RunningProcess) :
    (watch.check processes).Consistent :=
  (consistent.foldl_track _).foldl_remove _

/-- After a listing a process has its number of the first pass when the entry names it, and none
else. -/
theorem Consistent.id?_check (consistent : watch.Consistent) (processes : List RunningProcess)
    (pid : Nat) :
    (watch.check processes).id? pid =
      if pid ∈ watch.covered processes
      then ((watch.covered processes).foldl Watch.track watch).id? pid else none := by
  rw [Watch.check, (consistent.foldl_track _).id?_foldl_remove]
  by_cases named : pid ∈ watch.covered processes
  · rw [if_pos named, if_neg fun gone => (mem_missing.mp gone).2 named]
  · rw [if_neg named]
    split
    · rfl
    · rename_i present
      exact id?_eq_none_iff.mpr fun member => present (mem_missing.mpr ⟨member, named⟩)

theorem Consistent.next_check (consistent : watch.Consistent) (processes : List RunningProcess) :
    (watch.check processes).pool.next =
      max watch.pool.next (watch.population processes + 1) := by
  rw [Watch.check, next_foldl_remove, consistent.next_foldl_track, consistent.population_eq]

/-- What a listing does to the numbers of an entry. -/
structure Reconciled (watch : Watch) (processes : List RunningProcess) (after : Watch) :
    Prop where
  /-- The entry watches the processes of the listing that it names. -/
  watched : ∀ pid, (after.id? pid).isSome ↔
    ∃ process ∈ processes, watch.covers process ∧ process.pid = pid
  /-- A process that stays keeps its number. -/
  kept : ∀ pid number, watch.id? pid = some number → (after.id? pid).isSome →
    after.id? pid = some number
  /-- New processes get the free numbers, the lowest first, and then unused ones. -/
  assigned : (watch.newcomers processes).map after.id? =
    (watch.pool.supply (watch.newcomers processes).length).map some
  /-- No new process gets a number that was held when the listing came. -/
  unshared : ∀ pid ∈ watch.newcomers processes, ∀ holder number,
    watch.id? holder = some number → after.id? pid ≠ some number

theorem Consistent.reconciled (consistent : watch.Consistent) (processes : List RunningProcess) :
    watch.Reconciled processes (watch.check processes) := by
  have watched : ∀ pid, ((watch.check processes).id? pid).isSome ↔
      pid ∈ watch.covered processes := by
    intro pid
    rw [consistent.id?_check]
    split
    · rename_i named
      exact iff_of_true ((consistent.isSome_id?_foldl_track pid _).mpr (.inr named)) named
    · rename_i unnamed
      exact iff_of_false Bool.false_ne_true unnamed
  have assigned : (watch.newcomers processes).map (watch.check processes).id? =
      (watch.pool.supply (watch.newcomers processes).length).map some := by
    rw [newcomers, ← consistent.map_id?_foldl_track]
    refine List.map_congr_left fun pid member => ?_
    rw [consistent.id?_check, if_pos (mem_unwatched.mp member).1]
  refine ⟨fun pid => (watched pid).trans mem_covered, fun pid number found stays => ?_, assigned,
    fun pid member holder number held given => ?_⟩
  · rw [consistent.id?_check, if_pos ((watched pid).mp stays)]
    exact consistent.id?_foldl_track_of_some found _
  · have supplied : some number ∈ (watch.newcomers processes).map (watch.check processes).id? :=
      List.mem_map.mpr ⟨pid, member, given⟩
    rw [assigned, List.mem_map] at supplied
    obtain ⟨handed, inSupply, same⟩ := supplied
    exact consistent.shares.not_held_of_mem_supply inSupply
      (Option.some.inj same ▸ mem_ids_of_id? held)

/-! ### Any course of listings -/

/-- What can happen to an entry. -/
inductive Event where
  | check (processes : List RunningProcess)
  | remove (pid : Nat)

/-- What an event does to an entry. -/
def step (watch : Watch) : Event → Watch
  | .check processes => watch.check processes
  | .remove pid => watch.remove pid

/-- An entry after some events. -/
def run (watch : Watch) (events : List Event) : Watch := events.foldl step watch

/-- The most processes that an entry watched before a listing or was made to watch by it, over the
listings of some events. -/
def peak (watch : Watch) : List Event → Nat
  | [] => 0
  | .check processes :: rest =>
    max (watch.population processes) ((watch.check processes).peak rest)
  | .remove pid :: rest => (watch.remove pid).peak rest

/-- An entry that is set up and watches nothing yet. -/
def fresh (settings : String × String × Pattern) : Watch :=
  ⟨settings.1, settings.2.1, settings.2.2, [], IdPool.fresh⟩

theorem consistent_of_fresh (settings : String × String × Pattern) :
    (fresh settings).Consistent :=
  ⟨.nil, .nil, IdPool.shares_fresh⟩

theorem settings_run (watch : Watch) (events : List Event) :
    (watch.run events).settings = watch.settings := by
  induction events generalizing watch with
  | nil => rfl
  | cons event rest inductionHypothesis =>
    have later : (watch.run (event :: rest)).settings = (watch.step event).settings :=
      inductionHypothesis (watch.step event)
    rw [later]
    cases event with
    | check processes => exact settings_check watch processes
    | remove pid => exact settings_remove watch pid

theorem Consistent.step (consistent : watch.Consistent) (event : Event) :
    (watch.step event).Consistent := by
  cases event with
  | check processes => exact consistent.check processes
  | remove pid => exact consistent.remove pid

theorem Consistent.run (consistent : watch.Consistent) (events : List Event) :
    (watch.run events).Consistent := by
  induction events generalizing watch with
  | nil => exact consistent
  | cons event rest inductionHypothesis => exact inductionHypothesis (consistent.step event)

/-- The pool used as many numbers as it had before, or as the most processes at one listing. -/
theorem Consistent.next_run (consistent : watch.Consistent) (events : List Event) :
    (watch.run events).pool.next = max watch.pool.next (watch.peak events + 1) := by
  induction events generalizing watch with
  | nil =>
    have positive := consistent.shares.positive
    exact (Nat.max_eq_left positive).symm
  | cons event rest inductionHypothesis =>
    have later : (watch.run (event :: rest)).pool.next =
        max (watch.step event).pool.next ((watch.step event).peak rest + 1) :=
      inductionHypothesis (consistent.step event)
    rw [later]
    cases event with
    | check processes =>
      rw [Watch.step, consistent.next_check, peak]
      omega
    | remove pid => rw [Watch.step, next_remove, peak]

/-- What holds of an entry after any events, as it was at the start and as it is now. -/
structure Identity (start : Watch) (events : List Event) (watch : Watch) : Prop where
  /-- The entry names the processes that it named at the start. -/
  names : watch.covers = start.covers
  /-- No two watched processes have one number. -/
  injective : ∀ pid other number,
    watch.id? pid = some number → watch.id? other = some number → pid = other
  /-- No number is both held and free. -/
  disjoint : ∀ pid number, watch.id? pid = some number → number ∉ watch.pool.free
  /-- The held and the free numbers are all from one to below the least unused one. -/
  exhaustive : ∀ number, number ∈ watch.pool.free ∨ (∃ pid, watch.id? pid = some number) ↔
    1 ≤ number ∧ number < watch.pool.next
  /-- The free numbers stand by size, so the lowest one is handed out first. -/
  lowestFirst : watch.pool.free.Pairwise (· < ·)
  /-- What the next listing does, whichever it is. -/
  reconciled : ∀ processes, watch.Reconciled processes (watch.check processes)
  /-- As many numbers were ever used as there were processes at the most crowded listing. -/
  compact : watch.pool.next - 1 = start.peak events

/-- Processes keep their numbers, share none, and get the lowest ones there are, whatever listings
an entry has seen and whichever of its processes were dropped in between. -/
theorem identity_of_run (settings : String × String × Pattern) (events : List Event) :
    Identity (fresh settings) events ((fresh settings).run events) := by
  have start := consistent_of_fresh settings
  have consistent := start.run events
  refine ⟨covers_of_settings (settings_run _ events), fun pid other number => consistent.eq_of_id?,
    fun pid number held free => consistent.shares.not_held free (mem_ids_of_id? held),
    fun number => ?_, consistent.shares.ascending, consistent.reconciled, ?_⟩
  · rw [← consistent.shares.mem_iff, consistent.mem_ids_iff]
  · have most : max 1 ((fresh settings).peak events + 1) = (fresh settings).peak events + 1 :=
      Nat.max_eq_right (Nat.le_add_left 1 _)
    have next := (start.next_run events).trans most
    rw [next, Nat.add_sub_cancel]

end Watch

end Telemetry
