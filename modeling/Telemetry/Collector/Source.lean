/-
This file holds the sources that a collector can take its points from.

A run of a source appends points to a batch and ends well, in failure or in panic. A panic carries a
payload, and dropping that may panic once more. Besides the real sources there is the scripted one,
which says for each run what it appends and how it ends.
-/

import Telemetry.LoadAverage
import Telemetry.Watch.Cycle

namespace Telemetry

/-- What becomes of the payload of a panic that is dropped. -/
inductive Payload where
  | quiet
  /-- Dropping it panics, with a quiet payload. -/
  | loud
  deriving DecidableEq, Repr

/-- How a run ends, or the preparation before the first run. -/
inductive Ending where
  | succeeded
  | failed
  | panicked (payload : Payload)
  deriving DecidableEq, Repr

/-- The payload of the panic, if it is one. -/
def Ending.payload? : Ending → Option Payload
  | .panicked payload => some payload
  | _ => none

/-- What the system shows to the sources at one moment. -/
structure Surroundings where
  /-- The text of the load averages, if the system has them. -/
  loadAverage : Option String
  processes : List RunningProcess
  files : ProcessTable

/-- The surroundings of a system that shows nothing. -/
def Surroundings.none : Surroundings := ⟨.none, [], fun _ => ⟨.none, .none, .none, .none⟩⟩

/-- What a scripted run appends. -/
inductive Addition where
  | reading (reading : Reading)
  /-- A point that is appended as it is. -/
  | raw (point : Point)
  deriving DecidableEq

/-- A scripted run: what it appends, and how it ends. -/
structure Run where
  additions : List Addition
  ending : Ending
  deriving DecidableEq

/-- Where a collector takes its points from. -/
inductive Source where
  /-- A count of points that are made up. -/
  | fake (count : Nat)
  | loadAverage
  | processes (watches : List Watch)
  /-- What each run does, by the number of the run. -/
  | script (runs : Nat → Run)

/-- What a run leads to. -/
structure Collected where
  source : Source
  context : Context
  batch : List Point
  ending : Ending

namespace Source

/-- The name of the collector of made-up points. -/
def fakeName : String := "fake"

/-- The readings of made-up points. -/
def fakeReadings (count : Nat) : List Reading :=
  (List.range count).map fun index =>
    ⟨"test.fake", Value.ofNat index, Table.empty.insert "i" (decimal index), Hint.none⟩

/-- What an addition does to a batch. -/
def append (timestamp : Int64) (state : Context × List Point) : Addition → Context × List Point
  | .reading reading => state.1.add state.2 timestamp reading
  | .raw point => (state.1, state.2 ++ [point])

/-- How a run ends that may fail. -/
def endingOf {Failure : Type} : Option Failure → Ending
  | none => .succeeded
  | some _ => .failed

/-- The run of a source with a given number. -/
def run (source : Source) (number : Nat) (context : Context) (timestamp : Int64)
    (surroundings : Surroundings) : Collected :=
  match source with
  | .fake count =>
    let (context, batch) := context.addAll [] timestamp (fakeReadings count)
    ⟨source, context, batch, .succeeded⟩
  | .loadAverage =>
    match surroundings.loadAverage with
    | none => ⟨source, context, [], .failed⟩
    | some text =>
      match LoadAverage.points context timestamp text with
      | (context, .ok batch) => ⟨source, context, batch, .succeeded⟩
      | (context, .error _) => ⟨source, context, [], .failed⟩
  | .processes watches =>
    let (watches, cycle) :=
      Watch.collect watches context timestamp surroundings.processes surroundings.files
    ⟨.processes watches, cycle.context, cycle.batch, endingOf cycle.failure⟩
  | .script runs =>
    let (context, batch) := (runs number).additions.foldl (append timestamp) (context, [])
    ⟨source, context, batch, (runs number).ending⟩

end Source

end Telemetry
