/-
This file writes the stream of points as lines of JSON.

The lines go through a buffer. A line that finds no room in it has the buffer written out first, and
a line that would fill the buffer alone passes it by. Beneath the buffer is a sink that takes a
chunk as a whole or fails. The drain receives points and writes them until the queue is closed or it
is told to stop; whenever the queue runs dry, and at the end, the buffer is written out.
-/

import Telemetry.Point.Basic
import Telemetry.Text.Utf8

namespace Telemetry

/-- The line of a point. -/
def Point.line (point : Point) : String := point.json ++ "\n"

/-- The bytes of the line of a point. -/
def Point.bytes (point : Point) : Bytes := bytesOf point.line

/-- The sink of all output. It fails once more than `limit` bytes would have been taken. -/
structure Sink where
  limit : Option Nat
  /-- The bytes taken so far. -/
  taken : Bytes
  deriving DecidableEq, Repr

/-- Offers a chunk to a sink. Nothing is taken of a chunk that it refuses. -/
def Sink.write? (sink : Sink) (chunk : Bytes) : Option Sink :=
  match sink.limit with
  | none => some { sink with taken := sink.taken ++ chunk }
  | some limit =>
    if sink.taken.length + chunk.length ≤ limit then
      some { sink with taken := sink.taken ++ chunk }
    else none

/-- A sink with a buffer before it. -/
structure Writer where
  sink : Sink
  buffer : Bytes
  deriving DecidableEq, Repr

namespace Writer

/-- How many bytes the buffer holds. -/
def bufferSize : Nat := 8192

/-- A writer with an empty buffer. -/
def new (limit : Option Nat) : Writer := ⟨⟨limit, []⟩, []⟩

/-- Writes the buffer out. An empty one needs no writing. -/
def flush? (writer : Writer) : Option Writer :=
  if writer.buffer.isEmpty then some writer
  else (writer.sink.write? writer.buffer).map fun sink => ⟨sink, []⟩

/-- Writes the buffer out when a chunk finds no room in it. -/
def makeRoom? (writer : Writer) (chunk : Bytes) : Option Writer :=
  if writer.buffer.length + chunk.length > bufferSize then writer.flush? else some writer

/-- Puts a chunk into a buffer that has room for it, or past the buffer when it is as large. -/
def store? (writer : Writer) (chunk : Bytes) : Option Writer :=
  if chunk.length ≥ bufferSize then
    (writer.sink.write? chunk).map fun sink => { writer with sink := sink }
  else some { writer with buffer := writer.buffer ++ chunk }

/-- Writes a chunk, and says whether it was written. When it was not, the buffer may still have been
written out before. -/
def write (writer : Writer) (chunk : Bytes) : Writer × Bool :=
  match writer.makeRoom? chunk with
  | none => (writer, false)
  | some cleared =>
    match cleared.store? chunk with
    | none => (cleared, false)
    | some stored => (stored, true)

end Writer

/-! ### The drain -/

/-- Why the drain fails. -/
inductive OutputFailure where
  | writing
  | flushing
  deriving DecidableEq, Repr

/-- The wording of a failure. -/
def OutputFailure.message : OutputFailure → String
  | .writing => "writing datapoint"
  | .flushing => "flushing output"

/-- What the drain is about to do. -/
inductive DrainPhase where
  /-- To wait for a point, the end of the queue, or the order to stop. -/
  | choosing
  /-- To write the points that wait, until there is none. -/
  | emptying
  /-- To write out the buffer, and to choose again. -/
  | flushing
  /-- To write out the buffer and to end. -/
  | closing
  | finished
  | failed (failure : OutputFailure)
  deriving DecidableEq, Repr

/-- The drain at work: its phase, the queue before it, and the writer behind it. -/
structure Drain where
  phase : DrainPhase
  queue : List Point
  /-- Whether all senders of the queue are gone. -/
  closed : Bool
  /-- Whether it was told to stop. -/
  cancelled : Bool
  writer : Writer
  /-- The count of points written. -/
  written : Nat
  deriving DecidableEq

namespace Drain

/-- Writes a point, and goes on to the next phase unless that fails. -/
def put (drain : Drain) (point : Point) (rest : List Point) : Drain :=
  match drain.writer.write point.bytes with
  | (writer, false) => { drain with phase := .failed .writing, queue := rest, writer := writer }
  | (writer, true) =>
    { drain with phase := .emptying, queue := rest, writer := writer, written := drain.written + 1 }

/-- Writes the buffer out, and goes on to the next phase unless that fails. -/
def flush (drain : Drain) (next : DrainPhase) : Drain :=
  match drain.writer.flush? with
  | none => { drain with phase := .failed .flushing }
  | some writer => { drain with phase := next, writer := writer }

/-- One step, or none where the drain has to wait or is at its end. The order to stop counts only
between two rounds. When points wait there as well, either may be seen first: `heeds` says whether
it is the order. -/
def step? (drain : Drain) (heeds : Bool) : Option Drain :=
  match drain.phase, drain.queue with
  | .choosing, point :: rest =>
    if drain.cancelled && heeds then some { drain with phase := .closing }
    else some (drain.put point rest)
  | .choosing, [] =>
    if drain.cancelled || drain.closed then some { drain with phase := .closing } else none
  | .emptying, point :: rest => some (drain.put point rest)
  | .emptying, [] => some { drain with phase := .flushing }
  | .flushing, _ => some (drain.flush .choosing)
  | .closing, _ => some (drain.flush .finished)
  | .finished, _ => none
  | .failed _, _ => none

/-- How far the phases are from their end. -/
def rank : DrainPhase → Nat
  | .choosing => 2
  | .emptying => 4
  | .flushing => 3
  | .closing => 1
  | .finished => 0
  | .failed _ => 0

@[simp] theorem rank_emptying : rank .emptying = 4 := rfl

@[simp] theorem rank_failed (failure : OutputFailure) : rank (.failed failure) = 0 := rfl

/-- A measure that every step decreases: the points that wait count most. -/
def measure (drain : Drain) : Nat := 4 * drain.queue.length + rank drain.phase

theorem measure_put_lt (drain : Drain) (point : Point) (rest : List Point)
    (waiting : drain.queue = point :: rest) (phase : 1 ≤ rank drain.phase) :
    (drain.put point rest).measure < drain.measure := by
  unfold put
  split
  · simp only [measure, waiting, List.length_cons, rank_failed]
    omega
  · simp only [measure, waiting, List.length_cons, rank_emptying]
    omega

theorem measure_flush_lt (drain : Drain) (next : DrainPhase)
    (lower : rank next < rank drain.phase) :
    (drain.flush next).measure < drain.measure := by
  unfold flush
  split
  · simp only [measure]
    exact Nat.add_lt_add_left (Nat.lt_of_le_of_lt (Nat.zero_le _) lower) _
  · simp only [measure]
    omega

theorem measure_step?_lt {drain next : Drain} {heeds : Bool}
    (step : drain.step? heeds = some next) :
    next.measure < drain.measure := by
  unfold step? at step
  split at step
  · rename_i phase queue
    split at step
    · simp only [Option.some.injEq] at step
      subst step
      simp [measure, rank, phase]
    · simp only [Option.some.injEq] at step
      subst step
      exact measure_put_lt _ _ _ queue (by simp [phase, rank])
  · rename_i phase queue
    split at step
    · simp only [Option.some.injEq] at step
      subst step
      simp [measure, rank, phase]
    · simp at step
  · rename_i phase queue
    simp only [Option.some.injEq] at step
    subst step
    exact measure_put_lt _ _ _ queue (by simp [phase, rank])
  · rename_i phase queue
    simp only [Option.some.injEq] at step
    subst step
    simp [measure, rank, phase]
  · rename_i phase
    simp only [Option.some.injEq] at step
    subst step
    exact measure_flush_lt _ _ (by simp [phase, rank])
  · rename_i phase
    simp only [Option.some.injEq] at step
    subst step
    exact measure_flush_lt _ _ (by simp [phase, rank])
  · simp at step
  · simp at step

/-- Lets the drain work as far as it can without anything new in its queue. It heeds the order to
stop as soon as it may. -/
def run (drain : Drain) : Drain :=
  match _step : drain.step? true with
  | none => drain
  | some next => next.run
  termination_by drain.measure
  decreasing_by exact measure_step?_lt _step

/-- The drain before its first step, with a queue and a limit of the sink. -/
def start (queue : List Point) (closed cancelled : Bool) (limit : Option Nat) : Drain :=
  ⟨.choosing, queue, closed, cancelled, Writer.new limit, 0⟩

end Drain

end Telemetry
