/-
This file says that the output of a drain can be taken apart again.

A drain with no limit writes every point, and the JSON of a point is one line. So the line feeds of
the output are just those behind the points, and cutting the output behind its line feeds gives one
piece for each point, in order, whatever its metric and its tags hold. Where the values are whole
numbers a piece tells the point: its metric, its timestamp, its value and its tags.
-/

import Telemetry.Proofs.Delivery
import Telemetry.Proofs.Encoding
import Telemetry.Proofs.JsonText
import Telemetry.Proofs.OneLine
import Telemetry.Proofs.Pieces

namespace Telemetry

namespace Point

/-! ### The line of a point -/

theorem bytes_eq (point : Point) : point.bytes = bytesOf point.json ++ [10] := by
  have ending : bytesOf "\n" = [10] := by rw [bytesOf_eq]; rfl
  rw [bytes, line, bytesOf_append, ending]

/-- The only line feed of a line is its last byte. -/
theorem lineFeed_not_mem_json (point : Point) : 10 ∉ bytesOf point.json :=
  fun member => point.isOneLine_json (lineFeed_mem_bytesOf.mp member)

/-- Two lines that are the same are those of the same JSON. -/
theorem json_of_bytes {first second : Point} (same : first.bytes = second.bytes) :
    first.json = second.json := by
  rw [bytes_eq, bytes_eq] at same
  exact bytesOf_inj (List.append_cancel_right same)

end Point

/-- Cutting the lines of points behind the line feeds gives the lines. -/
theorem linesOf_encoded (points : List Point) :
    Program.linesOf (encoded points) = points.map Point.bytes := by
  induction points with
  | nil => exact Program.linesOf_nil
  | cons point rest inductionHypothesis =>
    have first : encoded (point :: rest) = bytesOf point.json ++ 10 :: encoded rest := by
      rw [encoded, List.flatMap_cons, Point.bytes_eq, List.append_assoc, List.singleton_append]
      rfl
    rw [first, Program.linesOf_line point.lineFeed_not_mem_json, inductionHypothesis,
      List.map_cons, Point.bytes_eq]

namespace Drain

/-! ### A drain without a limit -/

variable {points : List Point}

/-- Points that all wait when the queue is closed came before. -/
theorem fed_start (limit : Option Nat) (points : List Point) :
    Fed limit points (start points true false limit) := by
  have opened : Fed limit [] (start [] false false limit) := .start
  have arrived := opened.next (.arrive points) rfl
  have closed := arrived.next .close rfl
  rwa [Event.points_close, List.append_nil, List.nil_append] at closed

/-- Nothing is too long for a sink without a limit. -/
theorem not_exceeds_none (chunks : List Bytes) : ¬Exceeds none chunks := by
  rintro ⟨_, ⟨⟩, _⟩

theorem taken_run_eq_encoded (points : List Point) :
    (start points true false none).run.writer.sink.taken = encoded points := by
  have keeps := (fed_start none points).run.keeps
  have going : (start points true false none).run.cancelled = false := cancelled_run _
  have closed : (start points true false none).closed = true := rfl
  obtain ⟨result, returned⟩ := exists_result_run closed
  unfold result? at returned
  split at returned
  · rename_i finished
    exact (keeps.all going finished).2
  · rename_i failure failed
    exact absurd (keeps.exceeds failure failed) (not_exceeds_none _)
  · cases returned

end Drain

/-! ### The output -/

/-- What an output tells of the points whose lines it holds. -/
structure Frames (points : List Point) (output : Bytes) : Prop where
  /-- It has one line for each point, in order: the JSON of the point and a line feed. -/
  lines : output = points.flatMap fun point => bytesOf point.json ++ [10]
  /-- There is no line feed within a line. -/
  free : ∀ point ∈ points, 10 ∉ bytesOf point.json
  /-- There is one way to cut it behind its line feeds, and the pieces are the lines. -/
  cut : ∀ pieces, Program.Cut output pieces ↔
    pieces = points.map fun point => bytesOf point.json ++ [10]

theorem frames_encoded (points : List Point) : Frames points (encoded points) where
  lines := by
    rw [encoded]
    exact List.flatMap_congr fun point _ => point.bytes_eq
  free point _ := point.lineFeed_not_mem_json
  cut _ := by
    have pieces : points.map Point.bytes = points.map fun point => bytesOf point.json ++ [10] :=
      List.map_congr_left fun point _ => point.bytes_eq
    rw [Program.cut_iff, linesOf_encoded, pieces]

/-- The output of a drain frames its points, and where the value of a point is a whole number its
line tells the point. -/
theorem frames_of_drain (points : List Point) :
    Frames points (Drain.start points true false none).run.writer.sink.taken ∧
      ∀ (first second : Point) (number other : Int64),
        first.value = .integer number → second.value = .integer other →
          first.bytes = second.bytes →
            first.metric = second.metric ∧ first.timestamp = second.timestamp ∧
              number = other ∧ first.tags = second.tags := by
  refine ⟨?_, fun first second number other whole alsoWhole same => ?_⟩
  · rw [Drain.taken_run_eq_encoded]
    exact frames_encoded points
  · have equal := Point.eq_of_json whole alsoWhole (Point.json_of_bytes same)
    rw [equal] at whole ⊢
    exact ⟨rfl, rfl, Value.integer.inj (whole.symm.trans alsoWhole), rfl⟩

/-- A point that has the same text as its metric and in its only tag. -/
def namesake (text : String) : Point := ⟨text, 0, .integer 7, Table.ofList [(text, text)]⟩

/-- A line feed is not mistaken for the two characters that stand for it. -/
theorem frames_of_namesakes :
    Frames [namesake "\n", namesake "\\n"]
        (Drain.start [namesake "\n", namesake "\\n"] true false none).run.writer.sink.taken ∧
      (namesake "\n").value = .integer 7 ∧ (namesake "\\n").value = .integer 7 ∧
      (namesake "\n").bytes ≠ (namesake "\\n").bytes := by
  obtain ⟨frames, tells⟩ := frames_of_drain [namesake "\n", namesake "\\n"]
  refine ⟨frames, rfl, rfl, fun same => ?_⟩
  exact absurd (tells _ _ 7 7 rfl rfl same).1 (by decide)

end Telemetry
