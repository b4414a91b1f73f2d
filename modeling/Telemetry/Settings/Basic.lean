/-
This file holds the settings of the agent and reads them from a document.

Every setting has a default, so an empty document is a complete one. Only the name and the command
of an entry of the watch list must be there.
-/

import Telemetry.Context
import Telemetry.Document

namespace Telemetry

/-- An entry of the watch list, as it is written in the settings. -/
structure WatchSettings where
  name : String
  command : String
  /-- The pattern for the arguments. The empty one matches all. -/
  pattern : String
  deriving DecidableEq, Repr

/-- The settings of the agent. -/
structure Settings where
  logLevel : String
  /-- The name of the host. The empty one stands for the name that the system knows. -/
  hostname : String
  tags : TagSet
  frequency : Nat
  /-- The directory of the external programs, if there are any. -/
  directory : Option String
  filter : List String
  watches : List WatchSettings
  /-- How many points are made up every second. -/
  fake : Nat
  loadAverage : Bool
  collectorStats : Bool
  channelCapacity : Nat
  statsInterval : Nat
  /-- The address at which the counters are served. The empty one stands for no service. -/
  healthAddress : String
  deriving DecidableEq

namespace Settings

/-- The defaults. -/
def defaults : Settings :=
  { logLevel := "info"
    hostname := ""
    tags := ∅
    frequency := defaultFrequency
    directory := none
    filter := []
    watches := []
    fake := 0
    loadAverage := true
    collectorStats := false
    channelCapacity := 10000
    statsInterval := 60 * second
    healthAddress := "" }

/-! ### Reading -/

/-- Reads a duration. -/
def duration? (document : Document) : Option Nat := do Duration.ofText? (← document.text?)

/-- Reads an entry of the watch list. -/
def watch? (document : Document) : Option WatchSettings := do
  let fields ← document.record? ["name", "command", "args"]
  return ⟨← Document.field? fields "name" Document.text?,
    ← Document.field? fields "command" Document.text?,
    ← Document.fieldOr fields "args" Document.text? ""⟩

/-- Reads the watch list. -/
def watches? (document : Document) : Option (List WatchSettings) := do
  (← document.list?).mapM watch?

/-- Reads the settings of the service that shows the counters, which are its address alone. -/
def healthAddress? (document : Document) : Option String := do
  Document.fieldOr (← document.record? ["addr"]) "addr" Document.text? ""

/-- The names of the settings in their order. -/
def names : List String :=
  ["log_level", "hostname", "tags", "freq", "collectors_dir", "filter", "processes", "fake",
   "loadavg", "collector_stats", "channel_capacity", "stats_interval", "health"]

/-- Reads settings. -/
def ofDocument? (document : Document) : Option Settings := do
  let fields ← document.record? names
  return {
    logLevel := ← Document.fieldOr fields "log_level" Document.text? defaults.logLevel
    hostname := ← Document.fieldOr fields "hostname" Document.text? defaults.hostname
    tags := ← Document.fieldOr fields "tags" Document.table? defaults.tags
    frequency := ← Document.fieldOr fields "freq" duration? defaults.frequency
    directory :=
      ← Document.fieldOr fields "collectors_dir" Document.optionalText? defaults.directory
    filter := ← Document.fieldOr fields "filter" Document.texts? defaults.filter
    watches := ← Document.fieldOr fields "processes" watches? defaults.watches
    fake := ← Document.fieldOr fields "fake" Document.count? defaults.fake
    loadAverage := ← Document.fieldOr fields "loadavg" Document.flag? defaults.loadAverage
    collectorStats :=
      ← Document.fieldOr fields "collector_stats" Document.flag? defaults.collectorStats
    channelCapacity :=
      ← Document.fieldOr fields "channel_capacity" Document.count? defaults.channelCapacity
    statsInterval := ← Document.fieldOr fields "stats_interval" duration? defaults.statsInterval
    healthAddress := ← Document.fieldOr fields "health" healthAddress? defaults.healthAddress }

end Settings

end Telemetry
