/-
This file holds sets of code points written as tables of spans.

A span is an arithmetic progression of code points. The step is there for the scripts that
alternate a capital and a small letter: one span then stands for every second code point of a
block, and the tables stay short. A table lists its spans by their first code point, so a search
may stop at the first span that begins after the code point it looks for.
-/

namespace Telemetry

/-- Every `step`-th code point from `first` up to and including `last`. -/
structure Span where
  first : Nat
  last : Nat
  step : Nat
  deriving DecidableEq, Repr

namespace Span

/-- A code point lies in a span when a whole number of steps leads to it from the first one. -/
def contains (span : Span) (code : Nat) : Bool :=
  decide (span.first ≤ code) && decide (code ≤ span.last) && (code - span.first) % span.step == 0

/-- A code point lies in a table when one of the spans that begin at or before it contains it. -/
def listed : List Span → Nat → Bool
  | [], _ => false
  | span :: rest, code =>
    if code < span.first then false else span.contains code || listed rest code

@[simp] theorem listed_nil (code : Nat) : listed [] code = false := rfl

/-- The search stops at a span that begins after the code point. -/
theorem listed_cons_of_lt {span : Span} {rest : List Span} {code : Nat}
    (before : code < span.first) : listed (span :: rest) code = false := by
  simp [listed, before]

/-- A listed code point lies in a span of the table. -/
theorem exists_contains_of_listed {table : List Span} {code : Nat} (inside : listed table code) :
    ∃ span ∈ table, span.contains code := by
  induction table with
  | nil => simp at inside
  | cons span rest inductionHypothesis =>
    by_cases before : code < span.first
    · simp [listed_cons_of_lt before] at inside
    · simp only [listed, before, ↓reduceIte, Bool.or_eq_true] at inside
      rcases inside with here | later
      · exact ⟨span, by simp, here⟩
      · obtain ⟨found, member, contained⟩ := inductionHypothesis later
        exact ⟨found, by simp [member], contained⟩

end Span

end Telemetry
