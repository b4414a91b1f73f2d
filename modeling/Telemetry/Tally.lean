/-
This file holds tallies: counts by name that are read and reset together.

A count has sixty-four bits and wraps around. A snapshot reads and resets one name after the other,
so other parts of the program may count in between; what matters is that a single name is read and
reset at once.
-/

import Telemetry.Table

namespace Telemetry

/-- Counts by name. -/
structure Tally where
  counts : Table UInt64
  deriving DecidableEq

namespace Tally

/-- The tally without names. -/
def empty : Tally := ⟨∅⟩

/-- The count of a name. -/
def count (tally : Tally) (name : String) : UInt64 := (tally.counts.get? name).getD 0

/-- Adds to the count of a name. -/
def record (tally : Tally) (name : String) (amount : UInt64) : Tally :=
  ⟨tally.counts.insert name (tally.count name + amount)⟩

/-- Reads and resets the count of a name. -/
def take (tally : Tally) (name : String) : UInt64 × Tally :=
  (tally.count name, ⟨tally.counts.insert name 0⟩)

/-- Reads and resets names one after the other, and lists the counts that are not zero. -/
def takeAll (tally : Tally) : List String → List (String × UInt64) × Tally
  | [] => ([], tally)
  | name :: rest =>
    let (amount, tally) := tally.take name
    let (others, tally) := tally.takeAll rest
    (if amount = 0 then others else (name, amount) :: others, tally)

/-- Reads and resets all names, by ascending name. -/
def snapshot (tally : Tally) : List (String × UInt64) × Tally := tally.takeAll tally.counts.keys

@[simp] theorem count_empty (name : String) : empty.count name = 0 := rfl

@[simp] theorem takeAll_nil (tally : Tally) : tally.takeAll [] = ([], tally) := rfl

@[simp] theorem take_fst (tally : Tally) (name : String) : (tally.take name).1 = tally.count name :=
  rfl

end Tally

end Telemetry
