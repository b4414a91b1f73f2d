/-
This file follows the two passes that bring a watch entry up to date through their lists.

The first pass watches the processes of a list, one at a time. It gives those that are new the
numbers that the pool hands out next and leaves all others alone. The second pass ends the watch of
the processes of a list. It only takes numbers away, and its order makes no difference.
-/

import Telemetry.Proofs.Tracked

namespace Telemetry

namespace Watch

variable {watch : Watch}

/-! ### Watching the new processes of a list -/

/-- The processes of a list that an entry does not watch, each where it appears first. -/
def unwatched (watch : Watch) (pids : List Nat) : List Nat :=
  (pids.filter fun pid => (watch.id? pid).isNone).eraseDups

theorem mem_unwatched {pid : Nat} {pids : List Nat} :
    pid ∈ watch.unwatched pids ↔ pid ∈ pids ∧ watch.id? pid = none := by
  rw [unwatched, List.mem_eraseDups, List.mem_filter, Option.isNone_iff_eq_none]

theorem unwatched_cons_of_some {pid number : Nat} (found : watch.id? pid = some number)
    (rest : List Nat) : watch.unwatched (pid :: rest) = watch.unwatched rest := by
  rw [unwatched, unwatched, List.filter_cons_of_neg (by simp [found])]

theorem Consistent.unwatched_cons_of_none (consistent : watch.Consistent) {pid : Nat}
    (absent : watch.id? pid = none) (rest : List Nat) :
    watch.unwatched (pid :: rest) = pid :: (watch.track pid).unwatched rest := by
  have others : ((rest.filter fun other => (watch.id? other).isNone).filter
      fun other => !other == pid) =
      rest.filter fun other => ((watch.track pid).id? other).isNone := by
    rw [List.filter_filter]
    refine List.filter_congr fun other _ => ?_
    rw [consistent.id?_track absent]
    by_cases same : other = pid
    · simp [same]
    · simp [same]
  rw [unwatched, unwatched, List.filter_cons_of_pos (by simp [absent]), List.eraseDups_cons, others]

theorem settings_foldl_track (watch : Watch) (pids : List Nat) :
    (pids.foldl track watch).settings = watch.settings := by
  induction pids generalizing watch with
  | nil => rfl
  | cons pid rest inductionHypothesis =>
    rw [List.foldl_cons, inductionHypothesis, settings_track]

theorem Consistent.foldl_track (consistent : watch.Consistent) (pids : List Nat) :
    (pids.foldl Watch.track watch).Consistent := by
  induction pids generalizing watch with
  | nil => exact consistent
  | cons pid rest inductionHypothesis => exact inductionHypothesis (consistent.track pid)

/-- A process that is watched keeps its number while others are added. -/
theorem Consistent.id?_foldl_track_of_some (consistent : watch.Consistent) {pid number : Nat}
    (found : watch.id? pid = some number) (pids : List Nat) :
    (pids.foldl Watch.track watch).id? pid = some number := by
  induction pids generalizing watch with
  | nil => exact found
  | cons other rest inductionHypothesis =>
    exact inductionHypothesis (consistent.track other) (consistent.id?_track_of_some found)

/-- The new processes get, in their order, the numbers that the pool hands out next. -/
theorem Consistent.map_id?_foldl_track (consistent : watch.Consistent) (pids : List Nat) :
    (watch.unwatched pids).map (pids.foldl Watch.track watch).id? =
      (watch.pool.supply (watch.unwatched pids).length).map some := by
  induction pids generalizing watch with
  | nil => rfl
  | cons pid rest inductionHypothesis =>
    rw [List.foldl_cons]
    cases found : watch.id? pid with
    | some number =>
      rw [track_of_some found, unwatched_cons_of_some found]
      exact inductionHypothesis consistent
    | none =>
      have grown := consistent.track pid
      have first : (watch.track pid).id? pid = some watch.pool.get.1 := by
        rw [consistent.id?_track found, if_pos rfl]
      have pool : (watch.track pid).pool = watch.pool.get.2 := by rw [track_of_none found]
      rw [consistent.unwatched_cons_of_none found, List.map_cons, List.length_cons,
        IdPool.supply_succ, List.map_cons, grown.id?_foldl_track_of_some first rest,
        inductionHypothesis grown, pool]

/-- Afterwards the entry watches what it watched before and the processes of the list. -/
theorem Consistent.isSome_id?_foldl_track (consistent : watch.Consistent) (pid : Nat)
    (pids : List Nat) :
    ((pids.foldl Watch.track watch).id? pid).isSome ↔ (watch.id? pid).isSome ∨ pid ∈ pids := by
  induction pids generalizing watch with
  | nil => simp
  | cons other rest inductionHypothesis =>
    rw [List.foldl_cons, inductionHypothesis (consistent.track other), List.mem_cons, ← or_assoc]
    refine or_congr_left ?_
    cases found : watch.id? other with
    | some number =>
      rw [track_of_some found]
      refine ⟨.inl, fun either => either.elim id fun same => ?_⟩
      rw [same, found]
      rfl
    | none =>
      rw [consistent.id?_track found]
      by_cases same : pid = other
      · simp [same]
      · simp [same]

theorem Consistent.size_foldl_track (consistent : watch.Consistent) (pids : List Nat) :
    (pids.foldl Watch.track watch).size = watch.size + (watch.unwatched pids).length := by
  induction pids generalizing watch with
  | nil => rfl
  | cons pid rest inductionHypothesis =>
    rw [List.foldl_cons, inductionHypothesis (consistent.track pid)]
    cases found : watch.id? pid with
    | some number => rw [track_of_some found, unwatched_cons_of_some found]
    | none =>
      rw [consistent.unwatched_cons_of_none found, List.length_cons, size_track found]
      omega

/-- An unused number is taken only when every number in use is held by a watched process. -/
theorem Consistent.next_foldl_track (consistent : watch.Consistent) (pids : List Nat) :
    (pids.foldl Watch.track watch).pool.next =
      max watch.pool.next ((pids.foldl Watch.track watch).size + 1) := by
  induction pids generalizing watch with
  | nil =>
    have used := consistent.shares.size
    have size : watch.ids.length = watch.size := List.length_map _
    rw [List.foldl_nil]
    omega
  | cons pid rest inductionHypothesis =>
    have grown := consistent.track pid
    have later := grown.size_foldl_track rest
    rw [List.foldl_cons, inductionHypothesis grown]
    cases found : watch.id? pid with
    | some number => rw [track_of_some found]
    | none =>
      have size := size_track found
      have next : (watch.track pid).pool.next = max watch.pool.next (watch.ids.length + 2) := by
        rw [track_of_none found]
        exact consistent.shares.get_next
      have held : watch.ids.length = watch.size := List.length_map _
      -- The processes of the rest only add to this one, so the final size is the larger one.
      rw [next, held]
      omega

/-! ### Ending the watch of the processes of a list -/

theorem settings_foldl_remove (watch : Watch) (gone : List Nat) :
    (gone.foldl remove watch).settings = watch.settings := by
  induction gone generalizing watch with
  | nil => rfl
  | cons pid rest inductionHypothesis =>
    rw [List.foldl_cons, inductionHypothesis, settings_remove]

theorem Consistent.foldl_remove (consistent : watch.Consistent) (gone : List Nat) :
    (gone.foldl Watch.remove watch).Consistent := by
  induction gone generalizing watch with
  | nil => exact consistent
  | cons pid rest inductionHypothesis => exact inductionHypothesis (consistent.remove pid)

theorem Consistent.id?_foldl_remove (consistent : watch.Consistent) (gone : List Nat)
    (pid : Nat) :
    (gone.foldl Watch.remove watch).id? pid = if pid ∈ gone then none else watch.id? pid := by
  induction gone generalizing watch with
  | nil => rw [if_neg List.not_mem_nil, List.foldl_nil]
  | cons other rest inductionHypothesis =>
    rw [List.foldl_cons, inductionHypothesis (consistent.remove other), consistent.id?_remove]
    by_cases same : pid = other
    · simp [same]
    · simp [same]

theorem next_foldl_remove (watch : Watch) (gone : List Nat) :
    (gone.foldl Watch.remove watch).pool.next = watch.pool.next := by
  induction gone generalizing watch with
  | nil => rfl
  | cons pid rest inductionHypothesis =>
    rw [List.foldl_cons, inductionHypothesis, next_remove]

theorem tracked_foldl_remove (watch : Watch) (gone : List Nat) :
    (gone.foldl remove watch).tracked = watch.tracked.filter fun entry => entry.pid ∉ gone := by
  induction gone generalizing watch with
  | nil => simp
  | cons pid rest inductionHypothesis =>
    rw [List.foldl_cons, inductionHypothesis, tracked_remove, List.filter_filter]
    simp [Bool.and_comm]

/-- The order in which the watches end makes no difference, and neither does a repetition. -/
theorem Consistent.foldl_remove_congr (consistent : watch.Consistent) {gone others : List Nat}
    (same : ∀ pid, pid ∈ gone ↔ pid ∈ others) :
    gone.foldl Watch.remove watch = others.foldl Watch.remove watch := by
  refine (consistent.foldl_remove gone).eq_of_tracked (consistent.foldl_remove others) ?_ ?_ ?_
  · rw [settings_foldl_remove, settings_foldl_remove]
  · rw [tracked_foldl_remove, tracked_foldl_remove]
    simp only [same]
  · rw [next_foldl_remove, next_foldl_remove]

end Watch

end Telemetry
