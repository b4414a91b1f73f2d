/-
This file holds what all collectors share while they build points: the host's name, the default
tags, the store of metadata and the counters.

A collector hands over readings. A reading becomes a point when its tags are resolved against the
host and the defaults and the result is made canonical; a reading for which that fails is counted
and leaves nothing else behind.
-/

import Telemetry.Duration
import Telemetry.Health.Basic
import Telemetry.Metadata
import Telemetry.Point.Basic

namespace Telemetry

/-- The reserved key of the tag that holds the host's name. -/
def hostTag : String := "host"

/-- The interval of collectors that have none, unless it is configured: fifteen seconds. -/
def defaultFrequency : Nat := 15 * second

/-- What all collectors share while they build points. -/
structure Context where
  hostname : String
  defaultTags : TagSet
  metadata : Metadata
  /-- The interval of collectors that have none. -/
  frequency : Nat
  /-- Whether collectors report on themselves. -/
  collectorStats : Bool
  health : Health
  deriving DecidableEq

/-- What a collector hands over to be made a point. -/
structure Reading where
  metric : String
  value : Value
  tags : TagSet
  hint : Hint
  deriving DecidableEq

namespace Context

/-- The name under which a host appears: its name without the characters that are not accepted. -/
def hostnameFor (name : String) : String :=
  match clean name with
  | .ok cleaned => cleaned
  | .error _ => "unknown"

/-- A fresh context for a host. -/
def new (name : String) : Context :=
  { hostname := hostnameFor name, defaultTags := ∅, metadata := Metadata.empty
    frequency := defaultFrequency, collectorStats := false, health := Health.fresh }

/-- A context whose default tags are replaced. Later calls see the new ones. -/
def withDefaults (context : Context) (tags : TagSet) : Context :=
  { context with defaultTags := tags }

/-- The tags of a point, from those of the call. The defaults come first and the tags of the call
replace them. Without a tag for the host its name is added; an empty one asks for no such tag, not
even the default. -/
def resolve (context : Context) (tags : TagSet) : TagSet :=
  match tags.get? hostTag with
  | none => context.defaultTags.merge (tags.insert hostTag context.hostname)
  | some "" => (context.defaultTags.merge (tags.erase hostTag)).erase hostTag
  | some _ => context.defaultTags.merge tags

/-- The canonical point of a reading, without appending it anywhere. -/
def canonicalize (context : Context) (metric : String) (timestamp : Int64) (value : Value)
    (tags : TagSet) : Except Refusal Point :=
  Point.clean ⟨metric, timestamp, value, context.resolve tags⟩

/-- Counts one more rejected point. -/
def reject (context : Context) : Context := { context with health := context.health.reject }

/-- Makes a reading a point, and stores what its hint says. A rejected reading is counted. -/
def accept (context : Context) (timestamp : Int64) (reading : Reading) : Context × Option Point :=
  match context.canonicalize reading.metric timestamp reading.value reading.tags with
  | .ok point =>
    ({ context with metadata := context.metadata.record point.metric point.tags reading.hint },
      some point)
  | .error _ => (context.reject, none)

/-- Appends the point of a reading to a batch, unless it is rejected. -/
def add (context : Context) (batch : List Point) (timestamp : Int64) (reading : Reading) :
    Context × List Point :=
  match context.accept timestamp reading with
  | (context, some point) => (context, batch ++ [point])
  | (context, none) => (context, batch)

/-- Appends the points of readings to a batch, in order. -/
def addAll (context : Context) (batch : List Point) (timestamp : Int64) (readings : List Reading) :
    Context × List Point :=
  readings.foldl (fun state reading => state.1.add state.2 timestamp reading) (context, batch)

/-- Every reading appends one point at most. -/
theorem length_add_le (context : Context) (batch : List Point) (timestamp : Int64)
    (reading : Reading) : (context.add batch timestamp reading).2.length ≤ batch.length + 1 := by
  unfold add
  split <;> simp

/-- Readings append as many points as they are at most. -/
theorem length_foldl_add_le (state : Context × List Point) (timestamp : Int64)
    (readings : List Reading) :
    (readings.foldl (fun state reading => state.1.add state.2 timestamp reading) state).2.length ≤
      state.2.length + readings.length := by
  induction readings generalizing state with
  | nil => simp
  | cons reading rest inductionHypothesis =>
    have added := length_add_le state.1 state.2 timestamp reading
    have later := inductionHypothesis (state.1.add state.2 timestamp reading)
    simp only [List.foldl_cons, List.length_cons]
    omega

theorem length_addAll_le (context : Context) (batch : List Point) (timestamp : Int64)
    (readings : List Reading) :
    (context.addAll batch timestamp readings).2.length ≤ batch.length + readings.length :=
  length_foldl_add_le (context, batch) timestamp readings

end Context

end Telemetry
