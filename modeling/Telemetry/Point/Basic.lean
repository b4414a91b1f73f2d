/-
This file holds points: one measurement of one series at one moment.

A point that leaves the program is canonical: its metric and its tags are made of accepted
characters and its value is finite. Cleaning makes a point canonical or says why that cannot be.
The value is looked at first, then the tags, then the metric; when only the metric is at fault the
tags are clean already.
-/

import Telemetry.Point.Value
import Telemetry.Tags.TagSet
import Telemetry.Text.Json

namespace Telemetry

/-- One measurement. -/
structure Point where
  metric : String
  /-- Seconds since the epoch. -/
  timestamp : Int64
  value : Value
  tags : TagSet
  deriving DecidableEq

namespace Point

/-- What cleaning makes of a point: the point afterwards, and the refusal if there is one. A refused
point keeps its metric, and its tags unless the metric alone is at fault. -/
def cleaned (point : Point) : Point × Option Refusal :=
  if !point.value.isFinite then (point, some (.nonFinite point.metric point.value.toReal))
  else
    match point.tags.clean with
    | .error refusal => (point, some refusal)
    | .ok tags =>
      match Telemetry.clean point.metric with
      | .error _ => ({ point with tags := tags }, some (.metric point.metric))
      | .ok metric => ({ point with metric := metric, tags := tags }, none)

/-- A point in canonical form. -/
def clean (point : Point) : Except Refusal Point :=
  match point.cleaned with
  | (clean, none) => .ok clean
  | (_, some refusal) => .error refusal

/-- The text of a point in messages. -/
def text (point : Point) : String :=
  point.metric ++ " " ++ signedDecimal point.timestamp.toInt ++ " " ++ point.value.text ++ " " ++
    point.tags.bracedText

/-- A point in JSON, on one line. -/
def json (point : Point) : String :=
  Json.object
    [Json.member "metric" (Json.string point.metric),
     Json.member "timestamp" (signedDecimal point.timestamp.toInt),
     Json.member "value" point.value.json,
     Json.member "tags" (Json.object (point.tags.entries.map fun pair =>
       Json.member pair.1 (Json.string pair.2)))]

end Point

end Telemetry
