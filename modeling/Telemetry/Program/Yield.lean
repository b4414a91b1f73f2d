/-
This file holds what the output of a program gives, said of each of its pieces alone.

An output is cut behind every line feed, and what follows the last one is a piece too unless it is
empty. A piece gives a point, or it is counted, or both: the point of a line whose tags cannot all
be read is kept. What the pieces give is put together in their order.
-/

import Telemetry.Program.Basic

namespace Telemetry

/-- The pieces of an output, which is cut behind every line feed. -/
inductive Program.Cut : Bytes → List Bytes → Prop where
  | nothing : Cut [] []
  /-- The last piece, if no line feed ends it. -/
  | unended {piece : Bytes} (nonempty : piece ≠ []) (free : 10 ∉ piece) : Cut piece [piece]
  | line {line rest : Bytes} {pieces : List Bytes} (free : 10 ∉ line) (later : Cut rest pieces) :
      Cut (line ++ 10 :: rest) ((line ++ [10]) :: pieces)

/-- What comes of some work: the points that were queued, how many lines were counted because they
could not be read, and how many because their points were rejected. -/
@[ext]
structure Yield where
  points : List Point
  unreadable : Nat
  rejected : Nat
  deriving DecidableEq

namespace Yield

instance : EmptyCollection Yield := ⟨⟨[], 0, 0⟩⟩

/-- Points, and nothing that is counted. -/
def ofPoints (points : List Point) : Yield := ⟨points, 0, 0⟩

/-- What comes of some work and then of some more. -/
instance : Append Yield where
  append first second :=
    { points := first.points ++ second.points
      unreadable := first.unreadable + second.unreadable
      rejected := first.rejected + second.rejected }

end Yield

namespace Line

/-- Whether a line is counted as one that cannot be read: it is no text, it has too few fields, its
timestamp or its value is none, or a tag of an otherwise good line is none. -/
def isUnreadable : Except LineError Line → Bool
  | .ok line => line.tagError.isSome
  | .error (.encoding _) => true
  | .error (.tooFewFields _) => true
  | .error (.timestamp _) => true
  | .error (.value _) => true
  | .error (.tag _ _) => false
  | .error (.invalid _) => false

/-- Whether a line is counted as one whose point is rejected. -/
def isRejected : Except LineError Line → Bool
  | .error (.invalid _) => true
  | _ => false

/-- The point of a line that is accepted. -/
def point? : Except LineError Line → Option Point
  | .ok line => some line.point
  | .error _ => none

end Line

/-- What pieces of an output give. -/
def Context.yieldOf (context : Context) (pieces : List Bytes) : Yield :=
  let lines := pieces.map (Line.readBytes context)
  { points := lines.filterMap Line.point?
    unreadable := lines.countP Line.isUnreadable
    rejected := lines.countP Line.isRejected }

end Telemetry
