/-
This file is the command of the agent: it shows the system to the definitions of the other files and
prints what they lead to.

The clock of the world is that of the calendar. Only files are read here: processes are looked for
by their ids up to the newest one, and the directory of external programs can be neither listed nor
used, of which the command warns.
-/

import Telemetry.CommandLine

namespace Telemetry

namespace Main

/-! ### What the system shows -/

/-- The content of a file, if it can be read. -/
def content? (path : String) : IO (Option Bytes) := do
  try
    return some (← IO.FS.readBinFile path).toList
  catch _ =>
    return none

/-- The text of a file, if it can be read and is text. -/
def text? (path : String) : IO (Option String) := do return (← content? path).bind Utf8.text?

/-- The number that follows a word at the beginning of a line of a file, or zero. -/
def numberAfter (word path : String) : IO Nat := do
  return ((lines ((← text? path).getD "")).findSome? fun line =>
    match words line with
    | first :: number :: _ => if first = word then uint64? number else none
    | _ => none).getD 0

/-- The newest process id. -/
def newestId : IO Nat := do
  return ((words ((← text? "/proc/loadavg").getD "")).getLast?.bind uint64?).getD 0

/-- The process with an id. The ids of threads are those of other processes. -/
def process? (pid : Nat) : IO (Option RunningProcess) := do
  match ← content? s!"/proc/{pid}/cmdline" with
  | none => return none
  | some bytes =>
    let owner ← numberAfter "Tgid:" s!"/proc/{pid}/status"
    return if owner = pid then RunningProcess.ofCommandLine pid bytes else none

/-- The processes of the system. -/
def processes : IO (List RunningProcess) := do
  (List.range ((← newestId) + 1)).filterMapM process?

/-- How many files a process has open. -/
def openFiles (pid : Nat) : IO Nat := do
  let slots ← numberAfter "FDSize:" s!"/proc/{pid}/status"
  return (← (List.range slots).filterM fun slot => do
    return (← content? s!"/proc/{pid}/fdinfo/{slot}").isSome).length

/-- What the system's files say about a process. -/
def filesOf (pid : Nat) : IO ProcessFiles := do
  return ⟨← text? s!"/proc/{pid}/stat", ← text? s!"/proc/{pid}/io",
    ← text? s!"/proc/{pid}/limits", some (← openFiles pid)⟩

/-- What the system shows to the collectors. Without a watch list no process is looked for, and the
files are those of the watched processes alone. -/
def surroundings (watches : List Watch) : IO Surroundings := do
  let listed ← if watches.isEmpty then pure [] else processes
  let watched := listed.filter fun found => watches.any fun watch => watch.covers found
  let files ← watched.mapM fun found => do return (found.pid, ← filesOf found.pid)
  return ⟨← text? "/proc/loadavg", listed,
    fun pid => (files.lookup pid).getD ⟨none, none, none, none⟩⟩

/-- The present moment, on the clock of the calendar. The system says when it started. -/
def moment : IO Nat := do
  return (← numberAfter "btime" "/proc/stat") * second + (← IO.monoNanosNow)

/-! ### The agent at work -/

/-- Prints the points that the consumer has received, and forgets them. -/
def output (world : World) : IO World := do
  let stdout ← IO.getStdout
  for (_, point) in world.consumer.received do
    stdout.putStrLn point.json
  stdout.flush
  return { world with consumer := { world.consumer with received := [] } }

/-- How long to wait for the next moment at which something happens, in milliseconds and at least
one. -/
def pause (now next : Nat) : UInt32 := UInt32.ofNat (max 1 (min 1000 ((next - now) / 1000000)))

/-- Lets the agent work as the system's clock goes on, until it has nothing more to wait for. -/
partial def work (horizon : Nat) (watches : List Watch) (world : World) : IO Unit := do
  let now ← moment
  let due := world.wakes.any (· ≤ now)
  let shown ← if due then surroundings watches else pure world.surroundings
  let settled ← output { world with now := now, horizon := now + 1, surroundings := shown }.run
  let waiting := { settled with horizon := horizon }
  match waiting.next? with
  | none => return
  | some next =>
    IO.sleep (pause now next)
    work horizon watches waiting

/-- Prints a report and leaves its exit code. -/
def finish (report : Report) : IO UInt32 := do
  for line in report.lines do
    IO.println line
  for line in report.complaints do
    IO.eprintln line
  return UInt32.ofNat report.code

/-- Runs the agent. -/
def run (settings : Settings) : IO UInt32 := do
  if settings.directory.isSome then
    IO.eprintln "external programs are not supported by this command"
  let now ← moment
  let watches := settings.watches.filterMap WatchSettings.watch?
  let systemName := trim ((← text? "/proc/sys/kernel/hostname").getD "unknown")
  let place : Agent.Place :=
    ⟨systemName, ← surroundings watches, fun _ => none, fun _ _ => ⟨none, 0⟩⟩
  match Agent.start settings place (Consumer.start 0 none now) now now with
  | .error error => finish (.ofError (.start error))
  | .ok world =>
    work (UInt64.size * second) watches world
    return 0

/-- Answers the arguments. The file of the settings that they ask for is read before. -/
def respond (arguments : List String) : IO UInt32 := do
  let content ← match Demand.ofArguments .plain arguments with
    | .ok (.invoke ⟨some path, _, _, _⟩) => content? path
    | _ => pure none
  match Response.ofArguments arguments (fun _ => content) (fun _ => none) with
  | .report report => finish report
  | .run settings => run settings

end Main

end Telemetry

/-- The command of the agent. -/
def main (arguments : List String) : IO UInt32 := Telemetry.Main.respond arguments
