/-
This file says what an entry of the watch list keeps true of the processes it watches.

In a consistent entry no process is listed twice, the processes stand by ascending number, and
their numbers are the ones that the pool of the entry has given out. Watching a process and ending
its watch both keep the entry consistent, and each changes the number of that one process only. A
consistent entry is determined by its list and by the least number it never used.
-/

import Mathlib.Data.List.Nodup
import Telemetry.Proofs.Pool
import Telemetry.Watch.Basic

namespace Telemetry

namespace Watch

/-- The processes an entry watches, by ascending number. -/
def pids (watch : Watch) : List Nat := watch.tracked.map (·.pid)

/-- The numbers of the processes an entry watches. -/
def ids (watch : Watch) : List Nat := watch.tracked.map (·.id)

/-- What an entry is set up with. -/
def settings (watch : Watch) : String × String × Pattern :=
  (watch.name, watch.command, watch.pattern)

/-- The entry watches every process once, in the order of the numbers, and its pool shares all
numbers it ever used with the processes. -/
structure Consistent (watch : Watch) : Prop where
  distinct : watch.pids.Nodup
  ascending : watch.ids.Pairwise (· < ·)
  shares : watch.pool.Shares watch.ids

variable {watch : Watch} {pid number : Nat}

theorem name_of_settings {other : Watch} (same : watch.settings = other.settings) :
    watch.name = other.name :=
  congrArg Prod.fst same

/-- Which processes an entry names depends on its settings alone. -/
theorem covers_of_settings {other : Watch} (same : watch.settings = other.settings) :
    watch.covers = other.covers := by
  have command : watch.command = other.command := congrArg (·.2.1) same
  have pattern : watch.pattern = other.pattern := congrArg (·.2.2) same
  funext process
  rw [covers, covers, command, pattern]

/-! ### The number of a process -/

theorem mem_of_id? (found : watch.id? pid = some number) : ⟨pid, number⟩ ∈ watch.tracked := by
  obtain ⟨entry, first, same⟩ := Option.map_eq_some_iff.mp found
  have right : entry.pid = pid := by simpa using List.find?_some first
  have member := List.mem_of_find?_eq_some first
  rw [← right, ← same]
  exact member

theorem mem_ids_of_id? (found : watch.id? pid = some number) : number ∈ watch.ids :=
  List.mem_map.mpr ⟨⟨pid, number⟩, mem_of_id? found, rfl⟩

/-- A process has no number when it is not watched. -/
theorem id?_eq_none_iff : watch.id? pid = none ↔ pid ∉ watch.pids := by
  rw [id?, Option.map_eq_none_iff, List.find?_eq_none, pids, List.mem_map]
  constructor
  · intro different ⟨entry, member, same⟩
    exact different entry member (decide_eq_true same)
  · intro absent entry member same
    exact absent ⟨entry, member, of_decide_eq_true same⟩

theorem isSome_id?_iff : (watch.id? pid).isSome ↔ pid ∈ watch.pids := by
  rw [Option.isSome_iff_ne_none, ne_eq, id?_eq_none_iff, Decidable.not_not]

/-- The number of a watched process is the one that is listed with it. -/
theorem Consistent.id?_eq_some_iff (consistent : watch.Consistent) :
    watch.id? pid = some number ↔ ⟨pid, number⟩ ∈ watch.tracked := by
  refine ⟨mem_of_id?, fun member => ?_⟩
  obtain ⟨other, found⟩ := Option.isSome_iff_exists.mp
    (isSome_id?_iff.mpr (List.mem_map.mpr ⟨⟨pid, number⟩, member, rfl⟩))
  have same : (⟨pid, other⟩ : Tracked) = ⟨pid, number⟩ :=
    List.inj_on_of_nodup_map consistent.distinct (mem_of_id? found) member rfl
  rw [found, (Tracked.mk.inj same).2]

theorem Consistent.mem_ids_iff (consistent : watch.Consistent) :
    number ∈ watch.ids ↔ ∃ pid, watch.id? pid = some number := by
  refine ⟨fun member => ?_, fun ⟨pid, found⟩ => mem_ids_of_id? found⟩
  obtain ⟨entry, listed, same⟩ := List.mem_map.mp member
  exact ⟨entry.pid, consistent.id?_eq_some_iff.mpr (same ▸ listed)⟩

/-- No two watched processes have one number. -/
theorem Consistent.eq_of_id? (consistent : watch.Consistent) {other : Nat}
    (found : watch.id? pid = some number) (foundOther : watch.id? other = some number) :
    pid = other := by
  have distinct : (watch.tracked.map (·.id)).Nodup := consistent.ascending.imp Nat.ne_of_lt
  have same : (⟨pid, number⟩ : Tracked) = ⟨other, number⟩ :=
    List.inj_on_of_nodup_map distinct (mem_of_id? found) (mem_of_id? foundOther) rfl
  exact (Tracked.mk.inj same).1

/-! ### Watching a process -/

theorem perm_place (entry : Tracked) (tracked : List Tracked) :
    (place entry tracked).Perm (entry :: tracked) := by
  induction tracked with
  | nil => exact .refl _
  | cons other rest inductionHypothesis =>
    rw [place]
    split
    · exact .refl _
    · exact (inductionHypothesis.cons other).trans (.swap entry other rest)

/-- Placing a process with a number that no other has keeps the order of the numbers. -/
theorem pairwise_place {entry : Tracked} {tracked : List Tracked}
    (ascending : (tracked.map (·.id)).Pairwise (· < ·)) (absent : entry.id ∉ tracked.map (·.id)) :
    ((place entry tracked).map (·.id)).Pairwise (· < ·) := by
  induction tracked with
  | nil => exact List.pairwise_singleton _ _
  | cons other rest inductionHypothesis =>
    rw [List.map_cons, List.mem_cons, not_or] at absent
    rw [List.map_cons, List.pairwise_cons] at ascending
    obtain ⟨first, later⟩ := ascending
    rw [place]
    split
    · rename_i before
      rw [List.map_cons, List.map_cons, List.pairwise_cons, List.pairwise_cons]
      refine ⟨fun number member => ?_, first, later⟩
      rcases List.mem_cons.mp member with rfl | inRest
      · exact before
      · exact Nat.lt_trans before (first number inRest)
    · rename_i notBefore
      rw [List.map_cons, List.pairwise_cons]
      refine ⟨fun number member => ?_, inductionHypothesis later absent.2⟩
      have placed := ((perm_place entry rest).map (·.id)).mem_iff.mp member
      rcases List.mem_cons.mp placed with rfl | inRest
      · exact Nat.lt_of_le_of_ne (Nat.le_of_not_lt notBefore) (Ne.symm absent.1)
      · exact first number inRest

theorem track_of_some (found : watch.id? pid = some number) : watch.track pid = watch := by
  rw [track, found]
  rfl

theorem track_of_none (unwatched : watch.id? pid = none) :
    watch.track pid = { watch with
      tracked := place ⟨pid, watch.pool.get.1⟩ watch.tracked
      pool := watch.pool.get.2 } := by
  rw [track, unwatched]
  rfl

theorem size_track (unwatched : watch.id? pid = none) :
    (watch.track pid).size = watch.size + 1 := by
  rw [track_of_none unwatched]
  exact (perm_place ⟨pid, watch.pool.get.1⟩ watch.tracked).length_eq

theorem settings_track (watch : Watch) (pid : Nat) :
    (watch.track pid).settings = watch.settings := by
  rw [track]
  split <;> rfl

/-- Watching a process keeps an entry consistent. -/
theorem Consistent.track (consistent : watch.Consistent) (pid : Nat) :
    (watch.track pid).Consistent := by
  cases found : watch.id? pid with
  | some number =>
    rw [track_of_some found]
    exact consistent
  | none =>
    rw [track_of_none found]
    have placed := perm_place ⟨pid, watch.pool.get.1⟩ watch.tracked
    have distinct : (pid :: watch.pids).Nodup :=
      List.nodup_cons.mpr ⟨id?_eq_none_iff.mp found, consistent.distinct⟩
    exact ⟨(placed.map Tracked.pid).nodup_iff.mpr distinct,
      pairwise_place consistent.ascending consistent.shares.get_not_mem,
      consistent.shares.get.perm (placed.map Tracked.id).symm⟩

/-- A process that was not watched gets the number that the pool hands out. The others keep
theirs. -/
theorem Consistent.id?_track (consistent : watch.Consistent) (unwatched : watch.id? pid = none)
    (other : Nat) :
    (watch.track pid).id? other =
      if other = pid then some watch.pool.get.1 else watch.id? other := by
  have grown := consistent.track pid
  have placed : (watch.track pid).tracked.Perm (⟨pid, watch.pool.get.1⟩ :: watch.tracked) := by
    rw [track_of_none unwatched]
    exact perm_place ⟨pid, watch.pool.get.1⟩ watch.tracked
  refine Option.ext fun number => ?_
  rw [grown.id?_eq_some_iff, placed.mem_iff, List.mem_cons, Tracked.mk.injEq,
    ← consistent.id?_eq_some_iff]
  by_cases same : other = pid
  · rw [if_pos same, same, unwatched]
    simp [eq_comm]
  · rw [if_neg same]
    simp [same]

theorem Consistent.id?_track_of_some (consistent : watch.Consistent) {other : Nat}
    (found : watch.id? pid = some number) : (watch.track other).id? pid = some number := by
  cases foundOther : watch.id? other with
  | some taken => rw [track_of_some foundOther, found]
  | none =>
    have different : pid ≠ other := by
      rintro rfl
      exact absurd (found.symm.trans foundOther) (Option.some_ne_none number)
    rw [consistent.id?_track foundOther, if_neg different, found]

/-! ### Ending the watch of a process -/

theorem perm_filter {entry : Tracked} {tracked : List Tracked} (member : entry ∈ tracked)
    (distinct : (tracked.map (·.pid)).Nodup) :
    tracked.Perm (entry :: tracked.filter fun other => other.pid ≠ entry.pid) := by
  induction tracked with
  | nil => exact absurd member List.not_mem_nil
  | cons other rest inductionHypothesis =>
    rw [List.map_cons, List.nodup_cons] at distinct
    rcases List.mem_cons.mp member with rfl | inRest
    · have others : (rest.filter fun other => other.pid ≠ entry.pid) = rest := by
        refine List.filter_eq_self.mpr fun later inRest => ?_
        have different : later.pid ≠ entry.pid := fun same =>
          distinct.1 (List.mem_map.mpr ⟨later, inRest, same⟩)
        exact decide_eq_true different
      rw [List.filter_cons_of_neg (by simp), others]
    · have different : other.pid ≠ entry.pid := fun same =>
        distinct.1 (List.mem_map.mpr ⟨entry, inRest, same.symm⟩)
      rw [List.filter_cons_of_pos (by simpa using different)]
      exact ((inductionHypothesis inRest distinct.2).cons other).trans (.swap entry other _)

theorem remove_of_none (unwatched : watch.id? pid = none) : watch.remove pid = watch := by
  rw [remove, unwatched]

theorem remove_of_some (found : watch.id? pid = some number) :
    watch.remove pid = { watch with
      tracked := watch.tracked.filter fun entry => entry.pid ≠ pid
      pool := watch.pool.put number } := by
  rw [remove, found]

/-- After the watch of a process ended, the entry watches the others. -/
theorem tracked_remove (watch : Watch) (pid : Nat) :
    (watch.remove pid).tracked = watch.tracked.filter fun entry => entry.pid ≠ pid := by
  cases found : watch.id? pid with
  | some number => rw [remove_of_some found]
  | none =>
    rw [remove_of_none found]
    refine (List.filter_eq_self.mpr fun entry member => ?_).symm
    have different : entry.pid ≠ pid := fun same =>
      id?_eq_none_iff.mp found (List.mem_map.mpr ⟨entry, member, same⟩)
    exact decide_eq_true different

theorem settings_remove (watch : Watch) (pid : Nat) :
    (watch.remove pid).settings = watch.settings := by
  rw [remove]
  split <;> rfl

theorem next_remove (watch : Watch) (pid : Nat) :
    (watch.remove pid).pool.next = watch.pool.next := by
  cases found : watch.id? pid with
  | some number =>
    rw [remove_of_some found]
    exact watch.pool.put_next number
  | none => rw [remove_of_none found]

/-- Ending the watch of a process keeps an entry consistent. -/
theorem Consistent.remove (consistent : watch.Consistent) (pid : Nat) :
    (watch.remove pid).Consistent := by
  cases found : watch.id? pid with
  | none =>
    rw [remove_of_none found]
    exact consistent
  | some number =>
    rw [remove_of_some found]
    have kept : (watch.tracked.filter fun entry => entry.pid ≠ pid).Sublist watch.tracked :=
      List.filter_sublist
    have parted := perm_filter (mem_of_id? found) consistent.distinct
    exact ⟨consistent.distinct.sublist (kept.map Tracked.pid),
      consistent.ascending.sublist (kept.map Tracked.id),
      (consistent.shares.perm (parted.map Tracked.id)).put⟩

/-- Ending the watch of a process takes its number and leaves those of the others. -/
theorem Consistent.id?_remove (consistent : watch.Consistent) (pid other : Nat) :
    (watch.remove pid).id? other = if other = pid then none else watch.id? other := by
  refine Option.ext fun number => ?_
  rw [(consistent.remove pid).id?_eq_some_iff, tracked_remove, List.mem_filter,
    ← consistent.id?_eq_some_iff]
  by_cases same : other = pid
  · rw [if_pos same]
    simp [same]
  · rw [if_neg same]
    simp [same]

/-! ### What determines an entry -/

/-- Two consistent entries are one when they were set up alike, watch the same processes under the
same numbers, and used as many numbers. -/
theorem Consistent.eq_of_tracked (consistent : watch.Consistent) {other : Watch}
    (consistentOther : other.Consistent) (settings : watch.settings = other.settings)
    (tracked : watch.tracked = other.tracked) (next : watch.pool.next = other.pool.next) :
    watch = other := by
  have ids : watch.ids = other.ids := congrArg (List.map Tracked.id) tracked
  have all := consistent.shares.all.trans (next ▸ consistentOther.shares.all.symm)
  rw [ids] at all
  have free : watch.pool.free = other.pool.free :=
    List.Perm.eq_of_pairwise (fun first second _ _ before after => by omega)
      consistent.shares.ascending consistentOther.shares.ascending
      ((List.perm_append_right_iff _).mp all)
  have pool : watch.pool = other.pool :=
    calc watch.pool = ⟨watch.pool.next, watch.pool.free⟩ := rfl
      _ = ⟨other.pool.next, other.pool.free⟩ := by rw [next, free]
      _ = other.pool := rfl
  calc watch = ⟨watch.settings.1, watch.settings.2.1, watch.settings.2.2, watch.tracked,
        watch.pool⟩ := rfl
    _ = ⟨other.settings.1, other.settings.2.1, other.settings.2.2, other.tracked,
        other.pool⟩ := by rw [settings, tracked, pool]
    _ = other := rfl

end Watch

end Telemetry
