/-
This file says how an output is cut and what a single piece of it gives.

There is one way to cut an output behind every line feed, so an output that ends with one is cut
independently of what follows. What a piece gives depends on the settings of the context alone, and
reading it changes the counters by just that. A piece that is refused because of a tag does not
exist, since such a line is accepted with the tags before it; and a point that is given is
canonical, so it is not refused a second time.
-/

import Telemetry.Program.Yield
import Telemetry.Proofs.Canonical
import Telemetry.Proofs.Steady

namespace Telemetry

/-! ### Cutting -/

namespace Program

/-- A line with its line feed is cut off what follows. -/
theorem linesOf_line {line : Bytes} (free : 10 ∉ line) (rest : Bytes) :
    linesOf (line ++ 10 :: rest) = (line ++ [10]) :: linesOf rest := by
  induction line with
  | nil => rw [List.nil_append, linesOf, if_pos rfl, List.nil_append]
  | cons byte others inductionHypothesis =>
    obtain ⟨here, later⟩ : 10 ≠ byte ∧ 10 ∉ others := by simpa using free
    rw [List.cons_append, linesOf, if_neg (Ne.symm here), inductionHypothesis later]
    rfl

/-- What no line feed ends is a single piece. -/
theorem linesOf_unended {piece : Bytes} (nonempty : piece ≠ []) (free : 10 ∉ piece) :
    linesOf piece = [piece] := by
  induction piece with
  | nil => exact absurd rfl nonempty
  | cons byte rest inductionHypothesis =>
    obtain ⟨here, later⟩ : 10 ≠ byte ∧ 10 ∉ rest := by simpa using free
    rw [linesOf, if_neg (Ne.symm here)]
    by_cases last : rest = []
    · rw [last, linesOf_nil]
    · rw [inductionHypothesis last later]

/-- A byte that is no line feed belongs to the first piece of the rest. -/
theorem cut_linesOf_cons {byte : UInt8} (other : byte ≠ 10) {rest : Bytes}
    (cut : Cut rest (linesOf rest)) : Cut (byte :: rest) (linesOf (byte :: rest)) := by
  have different : 10 ≠ byte := Ne.symm other
  rw [linesOf, if_neg other]
  generalize linesOf rest = pieces at cut ⊢
  cases cut with
  | nothing => exact .unended (List.cons_ne_nil _ _) (by simp [different])
  | unended nonempty free => exact .unended (List.cons_ne_nil _ _) (by simp [free, different])
  | @line line _ _ free later =>
    have unended : 10 ∉ byte :: line := by simp [free, different]
    exact .line unended later

theorem cut_linesOf (output : Bytes) : Cut output (linesOf output) := by
  induction output with
  | nil => exact .nothing
  | cons byte rest inductionHypothesis =>
    by_cases ended : byte = 10
    · rw [linesOf, if_pos ended, ended]
      exact .line (List.not_mem_nil (a := 10)) inductionHypothesis
    · exact cut_linesOf_cons ended inductionHypothesis

/-- There is one way to cut an output. -/
theorem cut_iff {output : Bytes} {pieces : List Bytes} :
    Cut output pieces ↔ pieces = linesOf output := by
  constructor
  · intro cut
    induction cut with
    | nothing => rfl
    | unended nonempty free => rw [linesOf_unended nonempty free]
    | line free _ inductionHypothesis => rw [linesOf_line free, inductionHypothesis]
  · intro same
    rw [same]
    exact cut_linesOf output

/-- No piece is left open at the end of an output. -/
def IsEnded (output : Bytes) : Prop := output = [] ∨ output.getLast? = some 10

theorem isEnded_of_line {line rest : Bytes} (ended : IsEnded (line ++ 10 :: rest)) :
    IsEnded rest := by
  rcases ended with empty | last
  · exact absurd empty (by simp)
  · cases rest with
    | nil => exact .inl rfl
    | cons byte others =>
      rw [List.getLast?_append_cons, List.getLast?_cons_cons] at last
      exact .inr last

/-- What follows the end of a line is cut by itself. -/
theorem linesOf_append {first : Bytes} (ended : IsEnded first) (second : Bytes) :
    linesOf (first ++ second) = linesOf first ++ linesOf second := by
  -- The induction is on how the first part is cut: all its pieces stay as they are.
  have cut := cut_linesOf first
  generalize linesOf first = pieces at cut
  induction cut with
  | nothing => rfl
  | @unended piece nonempty free =>
    have last := ended.resolve_left nonempty
    exact absurd (List.mem_of_getLast? last) free
  | line free _ inductionHypothesis =>
    rw [List.append_assoc, List.cons_append, linesOf_line free,
      inductionHypothesis (isEnded_of_line ended), List.cons_append]

end Program

/-! ### What pieces give -/

namespace Yield

variable (first second : Yield)

@[simp] theorem points_append : (first ++ second).points = first.points ++ second.points := rfl

@[simp] theorem unreadable_append :
    (first ++ second).unreadable = first.unreadable + second.unreadable := rfl

@[simp] theorem rejected_append :
    (first ++ second).rejected = first.rejected + second.rejected := rfl

theorem append_empty : first ++ (∅ : Yield) = first :=
  Yield.ext (List.append_nil _) (Nat.add_zero _) (Nat.add_zero _)

end Yield

namespace Context

variable {context other : Context}

/-- What more pieces give comes after what the first ones give. -/
theorem yieldOf_append (context : Context) (first second : List Bytes) :
    context.yieldOf (first ++ second) = context.yieldOf first ++ context.yieldOf second := by
  refine Yield.ext ?_ ?_ ?_
  · simp [yieldOf]
  · simp [yieldOf]
  · simp [yieldOf]

theorem readFields_congr (same : context.settings = other.settings) (line : String)
    (fields : List String) :
    Line.readFields context line fields = Line.readFields other line fields := by
  unfold Line.readFields
  simp only [canonicalize_congr same]

/-- How a piece is read depends on the settings alone. -/
theorem readBytes_congr (same : context.settings = other.settings) (piece : Bytes) :
    Line.readBytes context piece = Line.readBytes other piece := by
  unfold Line.readBytes Line.read
  simp only [readFields_congr same]

theorem yieldOf_congr (same : context.settings = other.settings) :
    context.yieldOf = other.yieldOf := by
  funext pieces
  have lines : Line.readBytes context = Line.readBytes other := by
    funext piece
    exact readBytes_congr same piece
  rw [yieldOf, yieldOf, lines]

/-- No line is refused because of a tag. -/
theorem readBytes_ne_tag (context : Context) (piece : Bytes) (token : String) (refusal : Refusal) :
    Line.readBytes context piece ≠ .error (.tag token refusal) := by
  intro read
  unfold Line.readBytes Line.read Line.readFields at read
  split at read
  · cases read
  · split at read
    · split at read
      · cases read
      · split at read
        · cases read
        · simp only at read
          split at read <;> cases read
    · cases read

/-- Reading a piece changes the counters by what the piece gives, and its point is at hand. -/
structure Takes (context : Context) (piece : Bytes) (after : Context) (point : Option Point) :
    Prop where
  points : (context.yieldOf [piece]).points = point.toList
  unreadable : after.health.unreadable =
    context.health.unreadable + (context.yieldOf [piece]).unreadable
  rejected : after.health.rejected =
    context.health.rejected + (context.yieldOf [piece]).rejected

theorem takes_takeLine (context : Context) (piece : Bytes) :
    context.Takes piece (context.takeLine piece).1 (context.takeLine piece).2 := by
  have noTag := context.readBytes_ne_tag piece
  have alone : context.yieldOf [piece] =
      ⟨(Line.point? (Line.readBytes context piece)).toList,
        if Line.isUnreadable (Line.readBytes context piece) then 1 else 0,
        if Line.isRejected (Line.readBytes context piece) then 1 else 0⟩ := by
    refine Yield.ext ?_ ?_ ?_
    · simp only [yieldOf, List.map_cons, List.map_nil, List.filterMap_cons, List.filterMap_nil]
      cases Line.point? (Line.readBytes context piece) <;> rfl
    · simp [yieldOf, List.countP_cons]
    · simp [yieldOf, List.countP_cons]
  unfold takeLine
  generalize Line.readBytes context piece = read at noTag alone
  cases read with
  | ok line =>
    have counted : (context.yieldOf [piece]).unreadable = if line.tagError.isSome then 1 else 0 :=
      congrArg Yield.unreadable alone
    dsimp only
    cases reported : line.tagError with
    | none =>
      rw [reported] at counted
      exact ⟨congrArg Yield.points alone, by rw [counted]; rfl, by rw [alone]; rfl⟩
    | some error =>
      rw [reported] at counted
      exact ⟨congrArg Yield.points alone, by rw [counted]; rfl, by rw [alone]; rfl⟩
  | error error =>
    cases error with
    | tag token refusal => exact absurd rfl (noTag token refusal)
    | _ => exact ⟨congrArg Yield.points alone, by rw [alone]; rfl, by rw [alone]; rfl⟩

/-- A point read from bytes is canonical. -/
theorem isCanonical_of_readBytes {piece : Bytes} {line : Line}
    (success : Line.readBytes context piece = .ok line) : line.point.IsCanonical := by
  unfold Line.readBytes at success
  split at success
  · cases success
  · exact Line.isCanonical_of_read success

/-- Cleaning leaves the points of an output as they are. -/
theorem clean_of_mem_yieldOf {pieces : List Bytes} {point : Point}
    (member : point ∈ (context.yieldOf pieces).points) : point.clean = .ok point := by
  obtain ⟨read, made, accepted⟩ := List.mem_filterMap.mp member
  obtain ⟨piece, _, rfl⟩ := List.mem_map.mp made
  cases success : Line.readBytes context piece with
  | error error =>
    rw [success] at accepted
    cases accepted
  | ok line =>
    rw [success] at accepted
    rw [← Option.some.inj accepted]
    exact Point.clean_of_isCanonical (isCanonical_of_readBytes success)

end Context

end Telemetry
