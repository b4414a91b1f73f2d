/-
This file holds collectors that run at an interval.

At every tick the collector asks whether it is enabled, and a tick at which it is not has no effect.
Before its first run it prepares itself: if that fails the run follows nevertheless, if it panics
the tick has failed without a run. The source of the points and the preparation are taken out of the
collector for the time of a run, which a task of its own makes. When the run is over, also in
failure or in panic, the task gives back the source and what was appended, the points go out and the
next tick runs again. The task catches panics, but drops the payload of a panic after that. Where
dropping it panics the task gives nothing back: the points of the run are lost and the collector has
no source any more, so every later tick at which it is enabled fails without a run.
-/

import Telemetry.Collector.Source

namespace Telemetry

/-- A collector that runs at an interval. -/
structure IntervalCollector where
  name : String
  /-- The time between two runs. Without one it is the common frequency; zero asks for that as well,
  but for a first run at once. -/
  interval : Option Nat
  /-- Whether the collector is enabled, by the number of the question. -/
  enabled : Option (Nat → Surroundings → Bool)
  /-- How the preparation ends that is still to be done. -/
  preparation : Option Ending
  source : Source

/-- What a collector was asked to do. -/
inductive Call where
  | enabled (answer : Bool)
  | prepare (ending : Ending)
  | run (number : Nat)
  deriving DecidableEq, Repr

/-- A collector at work: itself, what is left of it to use, and how often it was asked and ran. -/
structure IntervalState where
  collector : IntervalCollector
  /-- Where the points come from. There is none while a run is under way, and none any more once the
  task of a run has not given it back. -/
  source : Option Source
  /-- How the preparation ends that is still to be done. -/
  preparation : Option Ending
  questions : Nat
  runs : Nat

/-- What preparing and running lead to. -/
structure Attempt where
  source : Source
  /-- How often the source has run. -/
  runs : Nat
  context : Context
  batch : List Point
  ending : Ending
  calls : List Call

/-- What the task of an attempt gives back: the source and the points, unless dropping the payload
of a panic has panicked. -/
def Attempt.returned? (attempt : Attempt) : Option (Source × List Point) :=
  if attempt.ending = .panicked .loud then none else some (attempt.source, attempt.batch)

/-- What a tick leads to. -/
structure Tick where
  state : IntervalState
  context : Context
  batch : List Point
  /-- Whether the tick failed. There is no answer for a tick at which the collector was disabled. -/
  failed : Option Bool
  calls : List Call

namespace IntervalCollector

/-- The collector of made-up points, which runs every second. -/
def fake (count : Nat) : IntervalCollector :=
  ⟨Source.fakeName, some second, none, none, .fake count⟩

/-- The collector of load averages. It is enabled where the system has them. -/
def loadAverage : IntervalCollector :=
  ⟨LoadAverage.name, none, some fun _ surroundings => surroundings.loadAverage.isSome, none,
    .loadAverage⟩

/-- The collector of watched processes. -/
def processes (watches : List Watch) : IntervalCollector :=
  ⟨Watch.collectorName, none, none, none, .processes watches⟩

/-- A collector before its first tick. -/
def start (collector : IntervalCollector) : IntervalState :=
  ⟨collector, some collector.source, collector.preparation, 0, 0⟩

end IntervalCollector

namespace IntervalState

/-- The name of the collector. -/
def name (state : IntervalState) : String := state.collector.name

/-- The next answer to the question whether the collector is enabled. There is none to ask where
nothing was said about it. -/
def enabled? (state : IntervalState) (surroundings : Surroundings) : Option Bool :=
  state.collector.enabled.map fun answers => answers state.questions surroundings

/-- Counts a question, if there is one to ask. -/
def asked (state : IntervalState) : IntervalState :=
  if state.collector.enabled.isSome then { state with questions := state.questions + 1 } else state

/-- Runs a source that has run before, after the preparation that is still to be done. A failure of
the preparation is not heeded; a panic is caught, and the run after it is left out. -/
def attempt (source : Source) (preparation : Option Ending) (runs : Nat) (context : Context)
    (timestamp : Int64) (surroundings : Surroundings) : Attempt :=
  let prepared := preparation.toList.map Call.prepare
  match preparation.bind Ending.payload? with
  | some payload => ⟨source, runs, context, [], .panicked payload, prepared⟩
  | none =>
    let collected := source.run runs context timestamp surroundings
    { source := collected.source
      runs := runs + 1
      context := collected.context
      batch := collected.batch
      ending := collected.ending
      calls := prepared ++ [.run runs] }

/-- A tick that ends without a run because the source is not there. -/
def unavailable (state : IntervalState) (context : Context) : Tick :=
  { state := state
    context := { context with health := context.health.countRun state.name true }
    batch := []
    failed := some true
    calls := [] }

/-- A tick at which the collector is enabled: the source and the preparation are taken out, and the
source is put back when the task of the attempt gives it back. The outcome is counted. -/
def collect (state : IntervalState) (context : Context) (timestamp : Int64)
    (surroundings : Surroundings) : Tick :=
  match state.source with
  | none => state.unavailable context
  | some source =>
    let taken := { state with source := none, preparation := none }
    let attempt := attempt source state.preparation state.runs context timestamp surroundings
    let failed := decide (attempt.ending ≠ .succeeded)
    let returned := attempt.returned?
    { state := { taken with source := returned.map (·.1), runs := attempt.runs }
      context :=
        { attempt.context with health := attempt.context.health.countRun state.name failed }
      batch := (returned.map (·.2)).getD []
      failed := some failed
      calls := attempt.calls }

/-- One tick. -/
def tick (state : IntervalState) (context : Context) (timestamp : Int64)
    (surroundings : Surroundings) : Tick :=
  match state.enabled? surroundings with
  | some false => ⟨state.asked, context, [], none, [.enabled false]⟩
  | answer =>
    let collected := state.asked.collect context timestamp surroundings
    { collected with calls := answer.toList.map Call.enabled ++ collected.calls }

/-- The readings about the collector itself after a tick. On a clock that stands still during a run
its duration is zero. -/
def selfReadings (state : IntervalState) (failed : Bool) : List Reading :=
  let tags := Table.empty.insert "collector" state.name
  [⟨"hostcollect.collector.duration", .real (Binary64.zero false), tags,
    Hint.gauge .second "Wall time of the collector's last run."⟩,
   ⟨"hostcollect.collector.error", .integer (if failed then 1 else 0), tags,
    Hint.gauge .none "Whether the collector's last run failed (1) or not (0)."⟩]

end IntervalState

end Telemetry
