/-
This file starts the agent from its settings: it chooses the collectors, prepares what they share,
and lets them work on one clock.

The collectors come in a fixed order: made-up points, load averages, watched processes, and the
external programs of the directory. An entry of the watch list whose pattern cannot be read is left
out, and without entries there is no collector of processes. The service for the counters comes
first, so where it cannot be opened nothing starts.
-/

import Telemetry.Health.Address
import Telemetry.Program.Directory
import Telemetry.Schedule.World
import Telemetry.Settings.Basic

namespace Telemetry

/-! ### Collectors -/

/-- The entry of a watch list that the settings ask for, unless its pattern cannot be read. -/
def WatchSettings.watch? (entry : WatchSettings) : Option Watch :=
  Watch.new? entry.name entry.command entry.pattern

namespace Settings

/-- The collectors of the system itself that settings ask for. -/
def builtIn (settings : Settings) : List IntervalCollector :=
  let watches := settings.watches.filterMap WatchSettings.watch?
  (if settings.fake = 0 then [] else [IntervalCollector.fake settings.fake]) ++
    (if settings.loadAverage then [IntervalCollector.loadAverage] else []) ++
    (if watches.isEmpty then [] else [IntervalCollector.processes watches])

/-- The external programs that settings ask for. The folders in a directory are given by its path,
where the directory can be listed. -/
def programs (settings : Settings) (folders : String → Option (List FolderEntry)) :
    List Program :=
  match settings.directory with
  | none => []
  | some directory => (Program.scan directory (folders directory)).1

/-- All collectors that settings ask for. -/
def registry (settings : Settings) (folders : String → Option (List FolderEntry)) : Registry :=
  (Registry.empty.registerAll (settings.builtIn.map .interval)).registerAll
    ((settings.programs folders).map .program)

/-- The collectors that are selected among them. -/
def selected (settings : Settings) (folders : String → Option (List FolderEntry)) : Registry :=
  (settings.registry folders).search settings.filter

/-! ### The start -/

/-- What the collectors share at the start, on a system with a name for the host. -/
def context (settings : Settings) (systemName : String) : Context :=
  let name := if settings.hostname = "" then systemName else settings.hostname
  { Context.new name with
    defaultTags := settings.tags
    frequency := settings.frequency
    collectorStats := settings.collectorStats }

/-- The settings with another filter, unless that is empty. -/
def withFilter (settings : Settings) (filter : List String) : Settings :=
  if filter.isEmpty then settings else { settings with filter := filter }

end Settings

/-- What stops the agent at its start. -/
inductive StartError where
  /-- The counters cannot be served at the address in the settings. -/
  | health
  deriving DecidableEq, Repr

/-- The wording of the error. -/
def StartError.message : StartError → String
  | .health => "starting health metrics server"

namespace Agent

/-- What the agent finds where it starts: the name of the host, what the system shows, the folders
of a directory, and what the lives of programs bring. -/
structure Place where
  systemName : String
  surroundings : Surroundings
  folders : String → Option (List FolderEntry)
  lives : String → Nat → Life

/-- Starts the agent on a clock. -/
def start (settings : Settings) (place : Place) (consumer : Consumer) (now horizon : Nat) :
    Except StartError World :=
  if Address.isUsable settings.healthAddress then
    .ok (World.start (settings.selected place.folders) (settings.context place.systemName)
      place.surroundings place.lives settings.channelCapacity settings.statsInterval consumer now
      horizon)
  else .error .health

end Agent

end Telemetry
