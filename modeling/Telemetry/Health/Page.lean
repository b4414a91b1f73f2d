/-
This file holds the page on which the agent shows its counters.

The page lists the instruments by name. An instrument with a label has one series for each label it
was used with and is left out as long as there is none; an instrument without a label is always
shown. A histogram shows, for every bound, how many observations were at most that large, and then
their sum and their count.
-/

import Telemetry.Number.Decimal
import Telemetry.Table
import Telemetry.Text.Integer

namespace Telemetry

/-- How an instrument takes a number. -/
inductive InstrumentKind where
  /-- Adds it. -/
  | counter
  /-- Shows it instead of the one before. -/
  | gauge
  /-- Counts it by its size. -/
  | histogram
  deriving DecidableEq, Repr

/-- The text for a kind on the page. -/
def InstrumentKind.text : InstrumentKind → String
  | .counter => "counter"
  | .gauge => "gauge"
  | .histogram => "histogram"

/-- What the agent measures about itself. -/
inductive Instrument where
  | collectorDuration
  | collectorErrors
  | datapointsEmitted
  | datapointsRejected
  | dispatchQueueLength
  | programParseErrors
  | programRestarts
  | watchedProcesses
  deriving DecidableEq, Repr

namespace Instrument

/-- All instruments in the order of their names on the page. -/
def all : List Instrument :=
  [.collectorDuration, .collectorErrors, .datapointsEmitted, .datapointsRejected,
   .dispatchQueueLength, .programParseErrors, .programRestarts, .watchedProcesses]

/-- The name on the page. -/
def name : Instrument → String
  | .collectorDuration => "hostcollect_collector_duration_seconds"
  | .collectorErrors => "hostcollect_collector_errors_total"
  | .datapointsEmitted => "hostcollect_datapoints_emitted_total"
  | .datapointsRejected => "hostcollect_datapoints_rejected_total"
  | .dispatchQueueLength => "hostcollect_dispatch_queue_length"
  | .programParseErrors => "hostcollect_program_parse_errors_total"
  | .programRestarts => "hostcollect_program_restarts_total"
  | .watchedProcesses => "hostcollect_watched_processes"

/-- What the page says about an instrument. -/
def help : Instrument → String
  | .collectorDuration => "Time spent in a single collector run."
  | .collectorErrors => "Total failed collector runs by collector."
  | .datapointsEmitted => "Total datapoints handed to the output stream by collector."
  | .datapointsRejected => "Total datapoints dropped because a name or tag failed cleaning."
  | .dispatchQueueLength => "Current number of datapoints waiting in the fan-in queue."
  | .programParseErrors => "Total malformed lines read from external programs."
  | .programRestarts => "Total external program restarts by program."
  | .watchedProcesses => "Number of live processes tracked per watch entry."

/-- How an instrument takes a number. -/
def kind : Instrument → InstrumentKind
  | .collectorDuration => .histogram
  | .dispatchQueueLength => .gauge
  | .watchedProcesses => .gauge
  | _ => .counter

/-- The name of the label that tells the series of an instrument apart. -/
def label? : Instrument → Option String
  | .collectorDuration => some "collector"
  | .collectorErrors => some "collector"
  | .datapointsEmitted => some "collector"
  | .programRestarts => some "program"
  | .watchedProcesses => some "name"
  | _ => none

end Instrument

/-! ### Series -/

/-- The bounds of a histogram, ascending. -/
def histogramBounds : List Binary64 :=
  [Binary64.ofDecimal false 1 (-3), Binary64.ofDecimal false 1 (-2),
   Binary64.ofDecimal false 5 (-2), Binary64.ofDecimal false 1 (-1),
   Binary64.ofDecimal false 5 (-1), Binary64.ofNat 1, Binary64.ofNat 5, Binary64.ofNat 15]

/-- What an instrument has taken under one label. -/
structure Series where
  /-- The number that a counter or a gauge shows, or the sum of a histogram. -/
  total : Binary64
  /-- The observations of a histogram, latest first. -/
  observed : List Binary64
  deriving DecidableEq

namespace Series

/-- The series that has taken nothing. -/
def empty : Series := ⟨Binary64.zero false, []⟩

/-- Takes a number. -/
def take (kind : InstrumentKind) (series : Series) (number : Binary64) : Series :=
  match kind with
  | .counter => { series with total := series.total.add number }
  | .gauge => { series with total := number }
  | .histogram => ⟨series.total.add number, number :: series.observed⟩

/-- The count of observations that are at most as large as a bound. -/
def atMost (series : Series) (bound : Binary64) : Nat :=
  series.observed.countP fun number => number.le bound

end Series

/-- The page's content: the series of every instrument by label. -/
structure Board where
  series : Instrument → Table Series

namespace Board

/-- The content before anything was measured. -/
def empty : Board := ⟨fun _ => ∅⟩

/-- An instrument takes a number under a label. Without a label of its own it ignores this one. -/
def record (board : Board) (instrument : Instrument) (label : String) (number : Binary64) : Board :=
  let label := if instrument.label?.isSome then label else ""
  let series := board.series instrument
  let taken := ((series.get? label).getD Series.empty).take instrument.kind number
  ⟨fun other => if other = instrument then series.insert label taken else board.series other⟩

/-! ### Lines -/

/-- What is written for one character of a label. -/
def escaped (character : Char) : List Char :=
  match character with
  | '\\' => ['\\', '\\']
  | '\n' => ['\\', 'n']
  | '"' => ['\\', '"']
  | other => [other]

/-- A label with its name. -/
def labelText (name label : String) : String :=
  name ++ "=\"" ++ String.ofList (label.toList.flatMap escaped) ++ "\""

/-- Labels in braces, or nothing when there is none. -/
def bracedLabels (labels : List String) : String :=
  if labels.isEmpty then "" else "\x7b" ++ String.intercalate "," labels ++ "\x7d"

/-- The lines of one series with its labels. -/
def seriesLines (instrument : Instrument) (labels : List String) (series : Series) : List String :=
  match instrument.kind with
  | .histogram =>
    let bucket (bound count : String) : String :=
      instrument.name ++ "_bucket" ++ bracedLabels (labels ++ [labelText "le" bound]) ++
        " " ++ count
    histogramBounds.map (fun bound => bucket bound.plain (decimal (series.atMost bound))) ++
      [bucket "+Inf" (decimal series.observed.length),
       instrument.name ++ "_sum" ++ bracedLabels labels ++ " " ++ series.total.plain,
       instrument.name ++ "_count" ++ bracedLabels labels ++ " " ++ decimal series.observed.length]
  | _ => [instrument.name ++ bracedLabels labels ++ " " ++ series.total.plain]

/-- The lines of an instrument below its two headings. -/
def bodyLines (board : Board) (instrument : Instrument) : List String :=
  match instrument.label? with
  | none =>
    seriesLines instrument [] (((board.series instrument).get? "").getD Series.empty)
  | some name =>
    (board.series instrument).entries.flatMap fun entry =>
      seriesLines instrument [labelText name entry.1] entry.2

/-- The lines of an instrument, none when it has nothing to show. -/
def instrumentLines (board : Board) (instrument : Instrument) : List String :=
  let body := board.bodyLines instrument
  if body.isEmpty then []
  else
    ("# HELP " ++ instrument.name ++ " " ++ instrument.help) ::
      ("# TYPE " ++ instrument.name ++ " " ++ instrument.kind.text) :: body

/-- The lines of the page. -/
def lines (board : Board) : List String := Instrument.all.flatMap board.instrumentLines

end Board

end Telemetry
