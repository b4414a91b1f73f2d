/-
This file holds sets of characters as a pattern describes them.

A set is built from ranges and from tables of properties by union, intersection and complement.
Whether case matters is decided when the set is asked: a range or a table then also holds the
characters that differ from one of its own in case alone, and the operations come after that.
-/

import Telemetry.Text.CaseFold
import Telemetry.Text.Property

namespace Telemetry

/-- Which differences in case a set overlooks. -/
inductive Folding where
  /-- Case matters. -/
  | exact
  /-- The case of ASCII letters does not matter. -/
  | ascii
  /-- Case does not matter. -/
  | unicode
  deriving DecidableEq, Repr

/-- A code point and those that a folding makes equal to it. -/
def Folding.variants : Folding → Nat → List Nat
  | .exact, code => [code]
  | .ascii, code =>
    if 65 ≤ code ∧ code ≤ 90 then [code, code + 32]
    else if 97 ≤ code ∧ code ≤ 122 then [code, code - 32]
    else [code]
  | .unicode, code => equalUpToCase code

/-- A set of characters. -/
inductive CharSet where
  /-- The code points from the first one to the last one. -/
  | span (first last : Nat)
  /-- The code points of a table. -/
  | table (spans : List Span)
  | complement (set : CharSet)
  | union (left right : CharSet)
  | intersection (left right : CharSet)
  deriving DecidableEq, Repr

namespace CharSet

/-- The set without characters. -/
def empty : CharSet := .span 1 0

/-- The set of all characters. -/
def all : CharSet := .complement empty

/-- The set of one character. -/
def single (character : Char) : CharSet := .span character.toNat character.toNat

/-- The set of the code points of any of some tables. -/
def ofTables (tables : List (List Span)) : CharSet :=
  tables.foldl (fun set spans => .union set (.table spans)) empty

/-- A set, or its complement. -/
def negateIf (negated : Bool) (set : CharSet) : CharSet := if negated then .complement set else set

/-- What the left set holds and the right one does not. -/
def difference (left right : CharSet) : CharSet := .intersection left (.complement right)

/-- What exactly one of two sets holds. -/
def symmetricDifference (left right : CharSet) : CharSet :=
  .union (difference left right) (difference right left)

/-- Whether a code point is in a set. -/
def contains (folding : Folding) (code : Nat) : CharSet → Bool
  | .span first last =>
    (folding.variants code).any fun variant => decide (first ≤ variant) && decide (variant ≤ last)
  | .table spans => (folding.variants code).any (Span.listed spans)
  | .complement set => !set.contains folding code
  | .union left right => left.contains folding code || right.contains folding code
  | .intersection left right => left.contains folding code && right.contains folding code

/-- Whether a set of bytes holds no byte beyond ASCII. -/
def isAscii (folding : Folding) (set : CharSet) : Bool :=
  (List.range 128).all fun offset => !set.contains folding (128 + offset)

/-- About how many spans a set is made of. -/
def spanCount : CharSet → Nat
  | .span _ _ => 1
  | .table spans => spans.length
  | .complement set => set.spanCount
  | .union left right => left.spanCount + right.spanCount
  | .intersection left right => left.spanCount + right.spanCount

@[simp] theorem contains_complement (folding : Folding) (code : Nat) (set : CharSet) :
    (complement set).contains folding code = !set.contains folding code := rfl

@[simp] theorem contains_union (folding : Folding) (code : Nat) (left right : CharSet) :
    (union left right).contains folding code =
      (left.contains folding code || right.contains folding code) := rfl

@[simp] theorem contains_intersection (folding : Folding) (code : Nat) (left right : CharSet) :
    (intersection left right).contains folding code =
      (left.contains folding code && right.contains folding code) := rfl

end CharSet

end Telemetry
