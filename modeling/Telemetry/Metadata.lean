/-
This file holds what is known about metrics apart from their points: how a value evolves, what its
unit is, and what it means.

A hint comes with a point. The store keeps, for every metric, the first rate and the first unit
that a hint gave, and for every series of the metric the first description. Nothing in the store is
ever changed or removed.
-/

import Telemetry.Tags.TagSet

namespace Telemetry

/-- How the value of a metric evolves over time. -/
inductive Rate where
  | unknown
  | gauge
  | counter
  | rate
  deriving DecidableEq, Repr

/-- The text under which a rate is stored. -/
def Rate.text : Rate → String
  | .unknown => ""
  | .gauge => "gauge"
  | .counter => "counter"
  | .rate => "rate"

/-- What the value of a metric counts. -/
inductive Measure where
  | none
  | bytes
  | count
  | fault
  | files
  | load
  | page
  | percent
  | process
  | second
  | systemCall
  deriving DecidableEq, Repr

/-- The text under which a measure is stored. -/
def Measure.text : Measure → String
  | .none => ""
  | .bytes => "bytes"
  | .count => "count"
  | .fault => "faults"
  | .files => "files"
  | .load => "load"
  | .page => "pages"
  | .percent => "percent"
  | .process => "processes"
  | .second => "seconds"
  | .systemCall => "syscalls"

/-- What comes with a point about its metric. Each part may be left open. -/
structure Hint where
  rate : Rate
  measure : Measure
  description : String
  deriving DecidableEq, Repr

namespace Hint

/-- The hint that leaves everything open. -/
def none : Hint := ⟨.unknown, .none, ""⟩

/-- A value that goes up and down. -/
def gauge (measure : Measure) (description : String) : Hint := ⟨.gauge, measure, description⟩

/-- A value that only grows. -/
def counter (measure : Measure) (description : String) : Hint := ⟨.counter, measure, description⟩

end Hint

namespace Metadata

/-- Which part of a hint an entry holds. -/
inductive Part where
  | rate
  | unit
  | description
  deriving DecidableEq, Repr

/-- The name of a part. -/
def Part.text : Part → String
  | .rate => "rate"
  | .unit => "unit"
  | .description => "desc"

/-- The key of an entry. Rate and unit belong to the metric alone, a description to one series of
it, whose tags are given by their text. -/
structure Key where
  metric : String
  tags : String
  part : Part
  deriving DecidableEq, Repr

end Metadata

/-- What hints have said, in the order in which it was first said. -/
structure Metadata where
  entries : List (Metadata.Key × String)
  deriving DecidableEq

namespace Metadata

/-- The store before any hint. -/
def empty : Metadata := ⟨[]⟩

/-- What is stored under a key. -/
def find? (store : Metadata) (key : Key) : Option String :=
  (store.entries.find? fun entry => entry.1 = key).map (·.2)

/-- Stores a text under a key that has none yet. -/
def put (store : Metadata) (key : Key) (text : String) : Metadata :=
  if (store.find? key).isSome then store else ⟨store.entries ++ [(key, text)]⟩

/-- The entries a hint makes for a point: those of its parts that are not left open. -/
def entriesOf (metric : String) (tags : TagSet) (hint : Hint) : List (Key × String) :=
  (if hint.rate = .unknown then [] else [(⟨metric, "", .rate⟩, hint.rate.text)]) ++
  (if hint.measure = .none then [] else [(⟨metric, "", .unit⟩, hint.measure.text)]) ++
  (if hint.description = "" then [] else [(⟨metric, tags.text, .description⟩, hint.description)])

/-- Stores what a hint says about a point, as far as nothing is stored there yet. -/
def record (store : Metadata) (metric : String) (tags : TagSet) (hint : Hint) : Metadata :=
  (entriesOf metric tags hint).foldl (fun store entry => store.put entry.1 entry.2) store

/-- The count of entries. -/
def size (store : Metadata) : Nat := store.entries.length

/-- The entries about one metric. -/
def about (store : Metadata) (metric : String) : List (Key × String) :=
  store.entries.filter fun entry => entry.1.metric = metric

/-! ### Look-up -/

@[simp] theorem find?_empty (key : Key) : empty.find? key = none := rfl

theorem find?_put_self (store : Metadata) (key : Key) (text : String) :
    (store.put key text).find? key = some ((store.find? key).getD text) := by
  unfold put
  split
  · rename_i known
    obtain ⟨old, found⟩ := Option.isSome_iff_exists.mp known
    simp [found]
  · rename_i unknown
    have missing : store.find? key = none := by simpa using unknown
    rw [missing]
    simp only [find?, Option.map_eq_none_iff] at missing
    simp [find?, List.find?_append, missing]

theorem find?_put_other (store : Metadata) {key asked : Key} (different : asked ≠ key)
    (text : String) : (store.put key text).find? asked = store.find? asked := by
  unfold put
  split
  · rfl
  · simp [find?, List.find?_append, Ne.symm different]

end Metadata

end Telemetry
