/-
This file holds pools of small numbers that tell the processes of one watch entry apart.

A pool hands out the lowest number that was given back, and else the next one that was never handed
out. Numbers begin at one. Giving back a number that was never handed out changes nothing.
-/

import Telemetry.Table

namespace Telemetry

/-- A pool of numbers. -/
structure IdPool where
  /-- The lowest number that was never handed out. -/
  next : Nat
  /-- The numbers that were given back, ascending. -/
  free : List Nat
  deriving DecidableEq, Repr

namespace IdPool

/-- The pool of which nothing was handed out. -/
def fresh : IdPool := ⟨1, []⟩

/-- Hands out a number. -/
def get (pool : IdPool) : Nat × IdPool :=
  match pool.free with
  | lowest :: rest => (lowest, { pool with free := rest })
  | [] => (pool.next, { pool with next := pool.next + 1 })

/-- Puts a number at its place among ascending ones, unless it is there already. -/
def place (number : Nat) : List Nat → List Nat
  | [] => [number]
  | other :: rest =>
    if number < other then number :: other :: rest
    else if number = other then other :: rest
    else other :: place number rest

/-- Gives a number back. -/
def put (pool : IdPool) (number : Nat) : IdPool :=
  if number < pool.next then { pool with free := place number pool.free } else pool

/-- A number is among the placed ones when it is the new one or was there before. -/
theorem mem_place {number other : Nat} {numbers : List Nat} :
    other ∈ place number numbers ↔ other = number ∨ other ∈ numbers := by
  induction numbers with
  | nil => simp [place]
  | cons head rest inductionHypothesis =>
    simp only [place]
    split
    · simp
    · split
      · rename_i equal
        subst equal
        simp
      · simp only [List.mem_cons, inductionHypothesis]
        exact or_left_comm

/-- Placing keeps the order. -/
theorem pairwise_place {number : Nat} {numbers : List Nat}
    (ascending : numbers.Pairwise (· < ·)) : (place number numbers).Pairwise (· < ·) := by
  induction numbers with
  | nil => simp [place]
  | cons head rest inductionHypothesis =>
    obtain ⟨first, later⟩ := List.pairwise_cons.mp ascending
    simp only [place]
    split
    · rename_i before
      refine List.pairwise_cons.mpr ⟨fun other member => ?_, ascending⟩
      rcases List.mem_cons.mp member with rfl | inRest
      · exact before
      · exact Nat.lt_trans before (first other inRest)
    · split
      · exact ascending
      · rename_i notBefore different
        refine List.pairwise_cons.mpr ⟨fun other member => ?_, inductionHypothesis later⟩
        rcases mem_place.mp member with rfl | inRest
        · omega
        · exact first other inRest

end IdPool

end Telemetry
