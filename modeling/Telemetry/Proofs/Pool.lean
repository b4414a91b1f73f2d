/-
This file says what a pool of numbers knows about the numbers that are held.

The pool keeps the numbers that were given back and the least number that it never handed out. As
long as only held numbers are given back, these two and the held numbers share the numbers from one
on: every number below the least unused one is either free or held, and none is both. What the pool
hands out next is then said in one list, the free numbers followed by the unused ones.
-/

import Telemetry.Watch.IdPool

namespace Telemetry

namespace IdPool

/-- The free numbers of a pool and the numbers that are held are, in some order, all numbers from
one to below the least unused one. -/
structure Shares (pool : IdPool) (held : List Nat) : Prop where
  positive : 1 ≤ pool.next
  ascending : pool.free.Pairwise (· < ·)
  all : (pool.free ++ held).Perm (List.range' 1 (pool.next - 1))

namespace Shares

variable {pool : IdPool} {held : List Nat}

theorem nodup (shares : pool.Shares held) : (pool.free ++ held).Nodup :=
  shares.all.symm.nodup List.nodup_range'

/-- A number is free or held exactly when it was handed out once. -/
theorem mem_iff (shares : pool.Shares held) {number : Nat} :
    number ∈ pool.free ∨ number ∈ held ↔ 1 ≤ number ∧ number < pool.next := by
  have positive := shares.positive
  rw [← List.mem_append, shares.all.mem_iff, List.mem_range'_1]
  omega

/-- A free number is not held. -/
theorem not_held (shares : pool.Shares held) {number : Nat} (free : number ∈ pool.free) :
    number ∉ held :=
  fun taken => (List.nodup_append.mp shares.nodup).2.2 number free number taken rfl

theorem lt_next (shares : pool.Shares held) {number : Nat} (taken : number ∈ held) :
    number < pool.next :=
  (shares.mem_iff.mp (.inr taken)).2

/-- There are as many free and held numbers as were ever handed out. -/
theorem size (shares : pool.Shares held) : pool.free.length + held.length + 1 = pool.next := by
  have length := shares.all.length_eq
  rw [List.length_append, List.length_range'] at length
  have positive := shares.positive
  omega

/-- Only which numbers are held matters, not their order. -/
theorem perm (shares : pool.Shares held) {others : List Nat} (same : held.Perm others) :
    pool.Shares others :=
  ⟨shares.positive, shares.ascending, (same.symm.append_left pool.free).trans shares.all⟩

end Shares

theorem shares_fresh : fresh.Shares [] := ⟨Nat.le_refl 1, .nil, .refl _⟩

/-! ### Handing out -/

/-- Handing out a number makes it a held one. -/
theorem Shares.get {pool : IdPool} {held : List Nat} (shares : pool.Shares held) :
    pool.get.2.Shares (pool.get.1 :: held) := by
  obtain ⟨next, free⟩ := pool
  cases free with
  | cons lowest rest =>
    exact ⟨shares.positive, (List.pairwise_cons.mp shares.ascending).2,
      List.perm_middle.trans shares.all⟩
  | nil =>
    -- Nothing is free, so the held numbers are all that were ever used. The next one joins them.
    have all : held.Perm (List.range' 1 (next - 1)) := shares.all
    have grown : List.range' 1 next = List.range' 1 (next - 1) ++ [next] := by
      have positive : 1 ≤ next := shares.positive
      have unused : 1 + (next - 1) = next := by omega
      rw [show next = next - 1 + 1 by omega, List.range'_1_concat, Nat.add_sub_cancel, unused,
        Nat.sub_add_cancel positive]
    refine ⟨Nat.succ_pos next, .nil, ?_⟩
    show (next :: held).Perm (List.range' 1 next)
    rw [grown]
    exact (all.cons next).trans (List.perm_append_singleton next _).symm

/-- A number that is handed out was not held. -/
theorem Shares.get_not_mem {pool : IdPool} {held : List Nat} (shares : pool.Shares held) :
    pool.get.1 ∉ held :=
  (List.nodup_cons.mp (List.nodup_append.mp shares.get.nodup).2.1).1

/-- Only when no number is free the pool hands out an unused one. It has then handed out as many
numbers as are held. -/
theorem Shares.get_next {pool : IdPool} {held : List Nat} (shares : pool.Shares held) :
    pool.get.2.next = max pool.next (held.length + 2) := by
  have size := shares.size
  obtain ⟨next, free⟩ := pool
  cases free with
  | cons lowest rest =>
    simp only [IdPool.get, List.length_cons] at size ⊢
    omega
  | nil =>
    simp only [IdPool.get, List.length_nil] at size ⊢
    omega

/-- The numbers that a pool hands out next: the free ones, and after them the unused ones. -/
def supply (pool : IdPool) (count : Nat) : List Nat :=
  (pool.free ++ List.range' pool.next count).take count

theorem supply_succ (pool : IdPool) (count : Nat) :
    pool.supply (count + 1) = pool.get.1 :: pool.get.2.supply count := by
  obtain ⟨next, free⟩ := pool
  cases free with
  | cons lowest rest =>
    simp only [supply, IdPool.get, List.cons_append, List.take_succ_cons]
    have enough : count ≤ (rest ++ List.range' next count).length := by
      rw [List.length_append, List.length_range']
      omega
    rw [List.range'_1_concat, ← List.append_assoc, List.take_append_of_le_length enough]
  | nil =>
    simp only [supply, IdPool.get, List.nil_append, List.range'_succ, List.take_succ_cons]

/-- A number that a pool hands out next is not held. -/
theorem Shares.not_held_of_mem_supply {pool : IdPool} {held : List Nat}
    (shares : pool.Shares held) {count number : Nat} (member : number ∈ pool.supply count) :
    number ∉ held := by
  rcases List.mem_append.mp (List.mem_of_mem_take member) with free | unused
  · exact shares.not_held free
  · intro taken
    have used := shares.lt_next taken
    have unusedYet := (List.mem_range'_1.mp unused).1
    omega

/-! ### Giving back -/

theorem perm_place {number : Nat} {numbers : List Nat} (absent : number ∉ numbers) :
    (place number numbers).Perm (number :: numbers) := by
  induction numbers with
  | nil => exact .refl _
  | cons other rest inductionHypothesis =>
    obtain ⟨different, later⟩ := not_or.mp fun member => absent (List.mem_cons.mpr member)
    rw [place]
    split
    · exact .refl _
    · exact ((inductionHypothesis later).cons other).trans (.swap number other rest)

/-- Placing a number that is there already changes nothing. -/
theorem place_of_mem {number : Nat} {numbers : List Nat}
    (ascending : numbers.Pairwise (· < ·)) (member : number ∈ numbers) :
    place number numbers = numbers := by
  induction numbers with
  | nil => cases member
  | cons other rest inductionHypothesis =>
    obtain ⟨least, later⟩ := List.pairwise_cons.mp ascending
    rcases List.mem_cons.mp member with rfl | inRest
    · rw [place, if_neg (Nat.lt_irrefl number), if_pos rfl]
    · have before : other < number := least number inRest
      rw [place, if_neg (Nat.lt_asymm before), if_neg (Nat.ne_of_gt before),
        inductionHypothesis later inRest]

/-- Giving back a held number makes it a free one. -/
theorem Shares.put {pool : IdPool} {held : List Nat} {number : Nat}
    (shares : pool.Shares (number :: held)) : (pool.put number).Shares held := by
  have used : number < pool.next := shares.lt_next List.mem_cons_self
  have absent : number ∉ pool.free := fun free =>
    shares.not_held free List.mem_cons_self
  rw [IdPool.put, if_pos used]
  exact ⟨shares.positive, pairwise_place shares.ascending,
    ((perm_place absent).append_right held).trans (List.perm_middle.symm.trans shares.all)⟩

theorem put_next (pool : IdPool) (number : Nat) : (pool.put number).next = pool.next := by
  rw [put]
  split <;> rfl

end IdPool

end Telemetry
