/-
This file says what a pool of numbers does whatever it is asked.

A pool has no list of the held numbers. It takes a number for a held one when it is below the least
unused number and not free. Which numbers are held is therefore said here without the pool, by what
happened at it: a number is held from when it was handed out until it is given back. Whoever gives
back whichever numbers, the free numbers are those that were given back while they were held and
were not handed out since, and the numbers below the least unused one are those that were ever
handed out. So a number that is not held can be given back without any effect.

Zero is the exception. It is below the least unused number from the start, though the pool never
handed it out, and so it becomes free when it is given back: it strays until it is handed out.

The notions about the past are all of one form, something happened and since then something else did
not; what one more handover does to that form is said once.
-/

import Mathlib.Data.List.Basic
import Mathlib.Data.List.Induction
import Mathlib.Order.Bounds.Defs
import Telemetry.Proofs.Pool

namespace Telemetry

namespace IdPool

/-! ### Requests and handovers -/

/-- What is asked of a pool. -/
inductive Request where
  | get
  | put (number : Nat)

/-- A number that changes hands. -/
inductive Handover where
  | out (number : Nat)
  | back (number : Nat)
  deriving DecidableEq

/-- Whether a number is handed out. -/
def Handover.isOut : Handover → Bool
  | .out _ => true
  | .back _ => false

/-- What a request does: a number changes hands, and the pool is another one. -/
def serve (pool : IdPool) : Request → Handover × IdPool
  | .get => (.out pool.get.1, pool.get.2)
  | .put number => (.back number, pool.put number)

/-- A pool after requests. -/
def after (pool : IdPool) : List Request → IdPool
  | [] => pool
  | request :: rest => (pool.serve request).2.after rest

/-- What requests make change hands, in order. -/
def handovers (pool : IdPool) : List Request → List Handover
  | [] => []
  | request :: rest => (pool.serve request).1 :: (pool.serve request).2.handovers rest

/-! ### What the past says -/

/-- Something happened when the past before it met a condition, and since then something else did
not happen. -/
def Since (start stop : Handover) (condition : List Handover → Prop) (past : List Handover) :
    Prop :=
  ∃ before since, past = before ++ start :: since ∧ condition before ∧ stop ∉ since

/-- A number was handed out and was not given back since. -/
def Holds (past : List Handover) (number : Nat) : Prop :=
  Since (.out number) (.back number) (fun _ => True) past

/-- A number was given back while it was held and was not handed out since. -/
def Spare (past : List Handover) (number : Nat) : Prop :=
  Since (.back number) (.out number) (Holds · number) past

/-- Zero was given back, held or not, and was not handed out since. -/
def Stray (past : List Handover) : Prop := Since (.back 0) (.out 0) (fun _ => True) past

section Since

variable {start stop last : Handover} {condition other : List Handover → Prop}
  {past : List Handover}

theorem not_since_nil : ¬Since start stop condition [] := by
  rintro ⟨before, since, split, _⟩
  exact List.append_ne_nil_of_right_ne_nil before (List.cons_ne_nil start since) split.symm

/-- One more handover is what had to happen, or it is not what must not happen. -/
theorem since_append_singleton : Since start stop condition (past ++ [last]) ↔
    last = start ∧ condition past ∨ last ≠ stop ∧ Since start stop condition past := by
  constructor
  · rintro ⟨before, since, split, met, absent⟩
    -- The last handover is the one that started, or it came after that.
    rcases List.eq_nil_or_concat' since with rfl | ⟨earlier, final, rfl⟩
    · obtain ⟨rfl, same⟩ := List.append_inj' split rfl
      exact .inl ⟨(List.cons.inj same).1, met⟩
    · rw [← List.cons_append, ← List.append_assoc] at split
      obtain ⟨rfl, same⟩ := List.append_inj' split rfl
      obtain ⟨earlierAbsent, finalAbsent⟩ := not_or.mp fun member =>
        absent (List.mem_append.mpr member)
      refine .inr ⟨fun stopped => finalAbsent ?_, before, earlier, rfl, met, earlierAbsent⟩
      rw [← stopped, (List.cons.inj same).1]
      exact List.mem_singleton_self final
  · rintro (⟨rfl, met⟩ | ⟨different, before, since, rfl, met, absent⟩)
    · exact ⟨past, [], rfl, met, List.not_mem_nil⟩
    · refine ⟨before, since ++ [last], List.append_assoc _ _ _, met, fun member => ?_⟩
      rcases List.mem_append.mp member with earlier | final
      · exact absent earlier
      · exact different (List.mem_singleton.mp final).symm

/-- Of two handovers only one can be the later one. -/
theorem not_since_of_since (different : start ≠ stop) (since : Since start stop condition past) :
    ¬Since stop start other past := by
  induction past using List.reverseRecOn with
  | nil => exact absurd since not_since_nil
  | append_singleton past last inductionHypothesis =>
    rw [since_append_singleton] at since ⊢
    rintro (⟨stopped, _⟩ | ⟨notStarted, reverse⟩)
    · rcases since with ⟨started, _⟩ | ⟨notStopped, _⟩
      · exact different (started.symm.trans stopped)
      · exact notStopped stopped
    · rcases since with ⟨started, _⟩ | ⟨_, earlier⟩
      · exact notStarted started
      · exact inductionHypothesis earlier reverse

theorem mem_of_since (since : Since start stop condition past) : start ∈ past := by
  obtain ⟨before, since, rfl, _⟩ := since
  exact List.mem_append_right before List.mem_cons_self

end Since

variable {past : List Handover} {number asked : Nat}

theorem holds_append_out :
    Holds (past ++ [.out number]) asked ↔ number = asked ∨ Holds past asked := by
  simp [Holds, since_append_singleton]

theorem holds_append_back :
    Holds (past ++ [.back number]) asked ↔ number ≠ asked ∧ Holds past asked := by
  simp [Holds, since_append_singleton]

theorem spare_append_out :
    Spare (past ++ [.out number]) asked ↔ number ≠ asked ∧ Spare past asked := by
  simp [Spare, since_append_singleton]

theorem spare_append_back : Spare (past ++ [.back number]) asked ↔
    number = asked ∧ Holds past asked ∨ Spare past asked := by
  simp [Spare, since_append_singleton]

theorem stray_append_out : Stray (past ++ [.out number]) ↔ number ≠ 0 ∧ Stray past := by
  simp [Stray, since_append_singleton]

theorem stray_append_back : Stray (past ++ [.back number]) ↔ number = 0 ∨ Stray past := by
  simp [Stray, since_append_singleton]

/-- A number that was handed out is held or spare. -/
theorem holds_or_spare_of_mem (used : .out number ∈ past) :
    Holds past number ∨ Spare past number := by
  induction past using List.reverseRecOn with
  | nil => cases used
  | append_singleton past last inductionHypothesis =>
    have earlier (member : .out number ∈ past) := inductionHypothesis member
    cases last with
    | out other =>
      rw [holds_append_out, spare_append_out]
      by_cases same : other = number
      · exact .inl (.inl same)
      · have member : .out number ∈ past := by simpa [Ne.symm same] using used
        exact (earlier member).imp .inr fun spare => ⟨same, spare⟩
    | back other =>
      have member : .out number ∈ past := by simpa using used
      rw [holds_append_back, spare_append_back]
      by_cases same : other = number
      · exact .inr ((earlier member).imp (fun holds => ⟨same, holds⟩) id)
      · exact (earlier member).imp (fun holds => ⟨same, holds⟩) .inr

/-- A spare number was handed out. -/
theorem mem_of_spare (spare : Spare past number) : .out number ∈ past := by
  obtain ⟨before, since, rfl, holds, _⟩ := spare
  exact List.mem_append_left _ (mem_of_since holds)

/-! ### What the pool knows of the past -/

/-- What a pool takes for free: the spare numbers, and zero when it strays. -/
def Free (past : List Handover) (number : Nat) : Prop :=
  Spare past number ∨ number = 0 ∧ Stray past

/-- A pool and what happened at it: the free numbers and the least unused one say which numbers were
given back and which were ever handed out. -/
structure Follows (pool : IdPool) (past : List Handover) : Prop where
  positive : 1 ≤ pool.next
  ascending : pool.free.Pairwise (· < ·)
  free : ∀ number, number ∈ pool.free ↔ Free past number
  used : ∀ number, 1 ≤ number → (number < pool.next ↔ .out number ∈ past)
  small : pool.next ≤ past.countP Handover.isOut + 1

theorem Free.not_holds (free : Free past number) : ¬Holds past number := by
  intro holds
  rcases free with spare | ⟨rfl, stray⟩
  · exact not_since_of_since (by simp) holds spare
  · exact not_since_of_since (by simp) holds stray

/-- Zero is free when it strays: given back while it is held, it strays as well. -/
theorem free_zero_iff : Free past 0 ↔ Stray past := by
  refine ⟨fun free => free.elim (fun spare => ?_) And.right, fun stray => .inr ⟨rfl, stray⟩⟩
  obtain ⟨before, since, split, _, absent⟩ := spare
  exact ⟨before, since, split, trivial, absent⟩

theorem free_iff_spare (firm : ¬Stray past) : Free past number ↔ Spare past number :=
  or_iff_left fun free => firm free.2

theorem free_append_out :
    Free (past ++ [.out number]) asked ↔ number ≠ asked ∧ Free past asked := by
  rw [Free, Free, spare_append_out, stray_append_out]
  grind

/-- A number that is given back becomes free when it was held or is zero. -/
theorem free_append_back : Free (past ++ [.back number]) asked ↔
    number = asked ∧ (Holds past asked ∨ asked = 0) ∨ Free past asked := by
  rw [Free, Free, spare_append_back, stray_append_back]
  grind

namespace Follows

variable {pool : IdPool}

theorem fresh : IdPool.fresh.Follows [] where
  positive := Nat.le_refl 1
  ascending := .nil
  free number := by simp [IdPool.fresh, Free, Spare, Stray, not_since_nil]
  used number positive := by
    show number < 1 ↔ _
    simp only [List.not_mem_nil, iff_false]
    omega
  small := Nat.le_refl 1

theorem lt_next (follows : pool.Follows past) (free : Free past number) : number < pool.next := by
  rcases Nat.eq_zero_or_pos number with rfl | positive
  · exact follows.positive
  · rcases free with spare | ⟨rfl, _⟩
    · exact (follows.used number positive).mpr (mem_of_spare spare)
    · exact absurd positive (Nat.lt_irrefl 0)

/-- A number below the least unused one is held when it is not free. -/
theorem holds_or_free (follows : pool.Follows past) (positive : 1 ≤ number)
    (used : number < pool.next) : Holds past number ∨ Free past number :=
  (holds_or_spare_of_mem ((follows.used number positive).mp used)).imp id .inl

theorem lt_next_of_holds (follows : pool.Follows past) (holds : Holds past number) :
    number < pool.next := by
  rcases Nat.eq_zero_or_pos number with rfl | positive
  · exact follows.positive
  · exact (follows.used number positive).mpr (mem_of_since holds)

/-! ### One request -/

/-- The pool hands out its lowest free number. -/
theorem isLeast_get (follows : pool.Follows past) (some : ∃ number, Free past number) :
    IsLeast {number | Free past number} pool.get.1 := by
  obtain ⟨number, free⟩ := some
  have member := (follows.free number).mpr free
  have ascending := follows.ascending
  have isFree := follows.free
  obtain ⟨next, _ | ⟨lowest, rest⟩⟩ := pool
  · cases member
  · refine ⟨(isFree lowest).mp List.mem_cons_self, fun other free => ?_⟩
    rcases List.mem_cons.mp ((isFree other).mpr free) with rfl | later
    · exact Nat.le_refl other
    · exact Nat.le_of_lt ((List.pairwise_cons.mp ascending).1 other later)

/-- Where no number is free the pool hands out the least unused one. -/
theorem get_eq_next (follows : pool.Follows past) (none : ∀ number, ¬Free past number) :
    pool.get.1 = pool.next := by
  have isFree := follows.free
  obtain ⟨next, _ | ⟨lowest, rest⟩⟩ := pool
  · rfl
  · exact absurd ((isFree lowest).mp List.mem_cons_self) (none lowest)

theorem get (follows : pool.Follows past) :
    pool.get.2.Follows (past ++ [.out pool.get.1]) := by
  have lt_next {number : Nat} (free : Free past number) := follows.lt_next free
  obtain ⟨positive, ascending, free, used, small⟩ := follows
  obtain ⟨next, _ | ⟨lowest, rest⟩⟩ := pool
  · -- Nothing is free, so the least unused number is handed out and the next one is unused.
    refine ⟨Nat.le_succ_of_le positive, .nil, fun number => ?_, fun number positive => ?_, ?_⟩
    · have never : ¬Free past number := fun isFree => List.not_mem_nil ((free number).mpr isFree)
      simp [IdPool.get, free_append_out, never]
    · have before := used number positive
      simp only [IdPool.get, List.mem_append, List.mem_singleton, Handover.out.injEq] at before ⊢
      rw [← before]
      omega
    · simpa [IdPool.get, List.countP_append, Handover.isOut] using small
  · -- The lowest free number was handed out before, or it is zero: no other numbers are used now.
    obtain ⟨least, later⟩ := List.pairwise_cons.mp ascending
    have lowestFree : Free past lowest := (free lowest).mp List.mem_cons_self
    refine ⟨positive, later, fun number => ?_, fun number positive => ?_, ?_⟩
    · rw [IdPool.get, free_append_out, ← free number, List.mem_cons]
      constructor
      · intro member
        exact ⟨Nat.ne_of_lt (least number member), .inr member⟩
      · rintro ⟨different, same | member⟩
        · exact absurd same.symm different
        · exact member
    · have before := used number positive
      simp only [IdPool.get, List.mem_append, List.mem_singleton, Handover.out.injEq]
      refine before.trans ⟨.inl, ?_⟩
      rintro (member | rfl)
      · exact member
      · exact before.mp (lt_next lowestFree)
    · refine Nat.le_trans small ?_
      simp [IdPool.get, List.countP_append, Handover.isOut]

/-- Giving back a number that is free already changes nothing. -/
theorem put_of_free (follows : pool.Follows past) (free : Free past number) :
    pool.put number = pool := by
  have placed := place_of_mem follows.ascending ((follows.free number).mpr free)
  rw [IdPool.put, if_pos (follows.lt_next free), placed]

/-- Giving back a number that is not held changes nothing, unless it is zero. -/
theorem put_of_not_holds (follows : pool.Follows past) (unheld : ¬Holds past number)
    (harmless : number ≠ 0 ∨ Stray past) : pool.put number = pool := by
  by_cases used : number < pool.next
  · refine follows.put_of_free ?_
    rcases Nat.eq_zero_or_pos number with rfl | positive
    · exact .inr ⟨rfl, harmless.resolve_left fun different => different rfl⟩
    · exact (follows.holds_or_free positive used).resolve_left unheld
  · rw [IdPool.put, if_neg used]

theorem put (follows : pool.Follows past) (number : Nat) :
    (pool.put number).Follows (past ++ [.back number]) := by
  have next := put_next pool number
  have unused (asked : Nat) :
      Handover.out asked ∈ past ++ [.back number] ↔ .out asked ∈ past := by simp
  refine ⟨next ▸ follows.positive, ?_, fun asked => ?_, fun asked positive => ?_, ?_⟩
  · rw [IdPool.put]
    split
    · exact pairwise_place follows.ascending
    · exact follows.ascending
  · rw [free_append_back, IdPool.put]
    split
    · -- A number that the pool takes back is held, or it is free already, or it is zero.
      rename_i used
      rw [mem_place, follows.free asked]
      constructor
      · rintro (rfl | free)
        · rcases Nat.eq_zero_or_pos asked with zero | positive
          · exact .inl ⟨rfl, .inr zero⟩
          · exact (follows.holds_or_free positive used).imp (fun holds => ⟨rfl, .inl holds⟩) id
        · exact .inr free
      · exact Or.imp_left fun back => back.1.symm
    · -- A number that it does not take back was never handed out.
      rename_i unused
      rw [follows.free asked]
      refine ⟨.inr, fun free => free.resolve_left ?_⟩
      rintro ⟨rfl, holds | rfl⟩
      · exact unused (follows.lt_next_of_holds holds)
      · exact unused follows.positive
  · rw [next, unused, follows.used asked positive]
  · rw [next, List.countP_append]
    exact follows.small

theorem serve (follows : pool.Follows past) (request : Request) :
    (pool.serve request).2.Follows (past ++ [(pool.serve request).1]) := by
  cases request with
  | get => exact follows.get
  | put number => exact follows.put number

/-! ### Any requests -/

theorem after (follows : pool.Follows past) (requests : List Request) :
    (pool.after requests).Follows (past ++ pool.handovers requests) := by
  induction requests generalizing pool past with
  | nil => simpa [IdPool.after, handovers] using follows
  | cons request rest inductionHypothesis =>
    simpa [IdPool.after, handovers] using inductionHypothesis (follows.serve request)

end Follows

/-- What a pool does next, as it follows from what happened at it. -/
structure Lends (pool : IdPool) (past : List Handover) : Prop where
  /-- No held number is handed out. -/
  apart : ¬Holds past pool.get.1
  /-- A spare number is handed out when there is one, and the lowest of them. -/
  spare : ¬Stray past → (∃ number, Spare past number) →
    IsLeast {number | Spare past number} pool.get.1
  /-- Without a spare number the lowest is handed out, from one on, that never was. -/
  unused : ¬Stray past → (∀ number, ¬Spare past number) →
    IsLeast {number | 1 ≤ number ∧ .out number ∉ past} pool.get.1
  /-- What is handed out is at least one, unless zero strays. -/
  zero : pool.get.1 = 0 ↔ Stray past
  /-- Giving back a number that is not held does not change what any later requests do. -/
  idle : ∀ number, ¬Holds past number → (number ≠ 0 ∨ Stray past) →
    ∀ later, (pool.put number).handovers later = pool.handovers later
  /-- Zero is the exception: whenever it is given back, held or not, it is handed out next. -/
  strays : (pool.put 0).get.1 = 0
  /-- The counter of the pool does not run ahead of how many numbers were handed out. -/
  small : pool.next ≤ past.countP Handover.isOut + 1

namespace Follows

variable {pool : IdPool}

/-- No held number is handed out. -/
theorem not_holds_get (follows : pool.Follows past) : ¬Holds past pool.get.1 := by
  by_cases some : ∃ number, Free past number
  · exact (follows.isLeast_get some).1.not_holds
  · intro holds
    have before := follows.lt_next_of_holds holds
    rw [follows.get_eq_next (not_exists.mp some)] at before
    exact Nat.lt_irrefl pool.next before

/-- Where no number is free the lowest one is handed out that never was. -/
theorem isLeast_get_unused (follows : pool.Follows past) (none : ∀ number, ¬Free past number) :
    IsLeast {number | 1 ≤ number ∧ .out number ∉ past} pool.get.1 := by
  rw [follows.get_eq_next none]
  refine ⟨⟨follows.positive, fun used => ?_⟩, fun number ⟨positive, unused⟩ => ?_⟩
  · exact Nat.lt_irrefl pool.next ((follows.used pool.next follows.positive).mpr used)
  · exact Nat.le_of_not_lt fun before => unused ((follows.used number positive).mp before)

/-- Zero is handed out when it strays, and only then. -/
theorem get_eq_zero_iff (follows : pool.Follows past) : pool.get.1 = 0 ↔ Stray past := by
  constructor
  · intro zero
    by_cases some : ∃ number, Free past number
    · exact free_zero_iff.mp (zero ▸ (follows.isLeast_get some).1)
    · have positive := follows.positive
      rw [← follows.get_eq_next (not_exists.mp some), zero] at positive
      exact absurd positive (Nat.not_succ_le_zero 0)
  · intro stray
    have free : Free past 0 := free_zero_iff.mpr stray
    exact Nat.le_zero.mp ((follows.isLeast_get ⟨0, free⟩).2 free)

end Follows

/-- Whatever a pool was asked, it hands out no held number, and as long as zero does not stray it
hands out the lowest spare number and else the lowest that it never handed out. A number that is not
held is given back without any effect, unless it is zero. -/
theorem lends_of_requests (requests : List Request) :
    (fresh.after requests).Lends (fresh.handovers requests) := by
  have follows : (fresh.after requests).Follows (fresh.handovers requests) :=
    Follows.fresh.after requests
  refine
    { apart := follows.not_holds_get
      spare := fun firm some => ?_
      unused := fun firm none => ?_
      zero := follows.get_eq_zero_iff
      idle := fun number unheld harmless later => ?_
      strays := (follows.put 0).get_eq_zero_iff.mpr (stray_append_back.mpr (.inl rfl))
      small := follows.small }
  · simpa only [free_iff_spare firm] using follows.isLeast_get (some.imp fun _ => .inl)
  · exact follows.isLeast_get_unused fun number => mt (free_iff_spare firm).mp (none number)
  · rw [follows.put_of_not_holds unheld harmless]

/-- Numbers that nobody holds are given back in vain, and the lowest spare number comes first. -/
example : fresh.handovers [.put 1, .get, .get, .put 7, .put 1, .put 1, .get, .get] =
    [.back 1, .out 1, .out 2, .back 7, .back 1, .back 1, .out 1, .out 3] := by
  decide

/-- A number that is not held is not always given back without effect: zero is handed out next. -/
theorem not_always_idle :
    ¬∀ requests number later, ¬Holds (fresh.handovers requests) number →
      ((fresh.after requests).put number).handovers later =
        (fresh.after requests).handovers later := by
  intro always
  have same := always [] 0 [.get] not_since_nil
  exact absurd same (by decide)

end IdPool

end Telemetry
