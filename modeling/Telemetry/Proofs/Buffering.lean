/-
This file says what a writer with a buffer does to the chunks it is given.

Chunks leave the writer whole and in their order: the sink has taken the first ones, the buffer
holds those after them, and no chunk is ever cut, whatever way it goes. A chunk that passes the
buffer finds it empty. The writer refuses a chunk, or to write its buffer out, only when the chunks
are too long for the sink altogether.
-/

import Telemetry.Output

namespace Telemetry

/-- Whether chunks are too long for a sink with a limit. -/
def Exceeds (limit : Option Nat) (chunks : List Bytes) : Prop :=
  ∃ most ∈ limit, most < chunks.flatten.length

/-- More chunks are too long as well. -/
theorem Exceeds.append {limit : Option Nat} {chunks : List Bytes} (exceeds : Exceeds limit chunks)
    (more : List Bytes) : Exceeds limit (chunks ++ more) := by
  obtain ⟨most, given, beyond⟩ := exceeds
  refine ⟨most, given, ?_⟩
  rw [List.flatten_append, List.length_append]
  omega

namespace Sink

variable {sink : Sink} {chunk : Bytes}

/-- What a sink takes comes behind what it has taken, and stays within the limit. -/
theorem write?_some {after : Sink} (written : sink.write? chunk = some after) :
    after = { sink with taken := sink.taken ++ chunk } ∧
      ∀ most ∈ sink.limit, (sink.taken ++ chunk).length ≤ most := by
  unfold write? at written
  split at written
  · rename_i unlimited
    refine ⟨(Option.some.inj written).symm, fun most given => ?_⟩
    rw [unlimited] at given
    cases given
  · rename_i limit limited
    split at written
    · rename_i fits
      refine ⟨(Option.some.inj written).symm, fun most given => ?_⟩
      rw [limited] at given
      rw [← Option.some.inj given, List.length_append]
      exact fits
    · cases written

/-- A sink refuses what is beyond the limit. -/
theorem write?_none (refused : sink.write? chunk = none) :
    ∃ most ∈ sink.limit, most < (sink.taken ++ chunk).length := by
  unfold write? at refused
  split at refused
  · cases refused
  · rename_i limit limited
    split at refused
    · cases refused
    · rename_i beyond
      refine ⟨limit, limited, ?_⟩
      rw [List.length_append]
      exact Nat.lt_of_not_le beyond

end Sink

namespace Writer

/-- What a writer has done with the chunks that were written: the sink has taken the first ones, and
the buffer holds the others. -/
structure Holds (limit : Option Nat) (chunks : List Bytes) (writer : Writer) : Prop where
  limited : writer.sink.limit = limit
  within : ∀ most ∈ limit, writer.sink.taken.length ≤ most
  whole : ∃ out kept, chunks = out ++ kept ∧ writer.sink.taken = out.flatten ∧
    writer.buffer = kept.flatten

theorem holds_new (limit : Option Nat) : (new limit).Holds limit [] :=
  ⟨rfl, fun _ _ => Nat.zero_le _, [], [], rfl, rfl, rfl⟩

variable {limit : Option Nat} {chunks : List Bytes} {writer after : Writer} {chunk : Bytes}

/-- Nothing is lost and nothing is reordered. -/
theorem Holds.contents (holds : writer.Holds limit chunks) :
    writer.sink.taken ++ writer.buffer = chunks.flatten := by
  obtain ⟨out, kept, split, taken, buffer⟩ := holds.whole
  rw [split, taken, buffer, List.flatten_append]

/-- With an empty buffer the sink has taken everything. -/
theorem Holds.taken_eq (holds : writer.Holds limit chunks) (empty : writer.buffer = []) :
    writer.sink.taken = chunks.flatten := by
  rw [← holds.contents, empty, List.append_nil]

/-- The sink has taken some of the first chunks. -/
theorem Holds.taken_eq_take (holds : writer.Holds limit chunks) :
    ∃ count ≤ chunks.length, writer.sink.taken = (chunks.take count).flatten := by
  obtain ⟨out, kept, split, taken, _⟩ := holds.whole
  refine ⟨out.length, ?_, ?_⟩
  · rw [split, List.length_append]
    exact Nat.le_add_right _ _
  · rw [split, List.take_left, taken]

/-- A sink that takes all that the buffer held and some more chunks has taken all of them. -/
theorem holds_of_write? {sink : Sink} {more : List Bytes} (holds : writer.Holds limit chunks)
    (taken : writer.sink.taken ++ chunk = (chunks ++ more).flatten)
    (written : writer.sink.write? chunk = some sink) :
    (Writer.mk sink []).Holds limit (chunks ++ more) := by
  obtain ⟨rfl, within⟩ := Sink.write?_some written
  rw [holds.limited] at within
  exact ⟨holds.limited, within, chunks ++ more, [], (List.append_nil _).symm, taken, rfl⟩

theorem exceeds_of_write? {more : List Bytes} (holds : writer.Holds limit chunks)
    (taken : writer.sink.taken ++ chunk = (chunks ++ more).flatten)
    (refused : writer.sink.write? chunk = none) : Exceeds limit (chunks ++ more) := by
  obtain ⟨most, given, beyond⟩ := Sink.write?_none refused
  rw [holds.limited] at given
  rw [taken] at beyond
  exact ⟨most, given, beyond⟩

/-! ### Writing the buffer out -/

/-- Once the buffer is written out the sink has taken everything. -/
theorem Holds.flush (holds : writer.Holds limit chunks) (flushed : writer.flush? = some after) :
    after.Holds limit chunks ∧ after.buffer = [] := by
  unfold flush? at flushed
  split at flushed
  · rename_i empty
    rw [← Option.some.inj flushed]
    exact ⟨holds, List.isEmpty_iff.mp empty⟩
  · obtain ⟨sink, written, rfl⟩ := Option.map_eq_some_iff.mp flushed
    have all : (Writer.mk sink []).Holds limit (chunks ++ []) :=
      holds_of_write? holds (by rw [List.append_nil]; exact holds.contents) written
    rw [List.append_nil] at all
    exact ⟨all, rfl⟩

theorem Holds.exceeds_of_flush (holds : writer.Holds limit chunks)
    (refused : writer.flush? = none) : Exceeds limit chunks := by
  unfold flush? at refused
  split at refused
  · cases refused
  · have all : Exceeds limit (chunks ++ []) :=
      exceeds_of_write? holds (by rw [List.append_nil]; exact holds.contents)
        (Option.map_eq_none_iff.mp refused)
    rwa [List.append_nil] at all

/-! ### Writing a chunk -/

/-- After making room a chunk that is as large as the buffer finds it empty. -/
theorem Holds.makeRoom (holds : writer.Holds limit chunks)
    (made : writer.makeRoom? chunk = some after) :
    after.Holds limit chunks ∧ (bufferSize ≤ chunk.length → after.buffer = []) := by
  unfold makeRoom? at made
  split at made
  · obtain ⟨stillHolds, empty⟩ := holds.flush made
    exact ⟨stillHolds, fun _ => empty⟩
  · rename_i fits
    rw [← Option.some.inj made]
    refine ⟨holds, fun large => List.eq_nil_of_length_eq_zero ?_⟩
    omega

theorem Holds.exceeds_of_makeRoom (holds : writer.Holds limit chunks)
    (refused : writer.makeRoom? chunk = none) : Exceeds limit chunks := by
  unfold makeRoom? at refused
  split at refused
  · exact holds.exceeds_of_flush refused
  · cases refused

/-- A chunk that is stored follows those before it. -/
theorem Holds.store (holds : writer.Holds limit chunks)
    (room : bufferSize ≤ chunk.length → writer.buffer = [])
    (stored : writer.store? chunk = some after) : after.Holds limit (chunks ++ [chunk]) := by
  unfold store? at stored
  split at stored
  · rename_i large
    obtain ⟨sink, written, rfl⟩ := Option.map_eq_some_iff.mp stored
    rw [room large]
    refine holds_of_write? holds ?_ written
    rw [holds.taken_eq (room large), List.flatten_append, List.flatten_singleton]
  · obtain ⟨out, kept, split, taken, buffer⟩ := holds.whole
    rw [← Option.some.inj stored]
    refine ⟨holds.limited, holds.within, out, kept ++ [chunk], ?_, taken, ?_⟩
    · rw [split, List.append_assoc]
    · rw [List.flatten_append, List.flatten_singleton, buffer]

theorem Holds.exceeds_of_store (holds : writer.Holds limit chunks)
    (room : bufferSize ≤ chunk.length → writer.buffer = [])
    (refused : writer.store? chunk = none) : Exceeds limit (chunks ++ [chunk]) := by
  unfold store? at refused
  split at refused
  · rename_i large
    refine exceeds_of_write? holds ?_ (Option.map_eq_none_iff.mp refused)
    rw [holds.taken_eq (room large), List.flatten_append, List.flatten_singleton]
  · cases refused

/-- What becomes of a chunk: it follows those before it, or all of them are too long for the sink.
-/
theorem Holds.write (holds : writer.Holds limit chunks) (chunk : Bytes) :
    (∃ after, writer.write chunk = (after, true) ∧ after.Holds limit (chunks ++ [chunk])) ∨
      ∃ after, writer.write chunk = (after, false) ∧ after.Holds limit chunks ∧
        Exceeds limit (chunks ++ [chunk]) := by
  unfold Writer.write
  cases made : writer.makeRoom? chunk with
  | none => exact .inr ⟨writer, rfl, holds, (holds.exceeds_of_makeRoom made).append _⟩
  | some cleared =>
    obtain ⟨stillHolds, room⟩ := holds.makeRoom made
    dsimp only
    cases stored : cleared.store? chunk with
    | none => exact .inr ⟨cleared, rfl, stillHolds, stillHolds.exceeds_of_store room stored⟩
    | some after => exact .inl ⟨after, rfl, stillHolds.store room stored⟩

end Writer

end Telemetry
