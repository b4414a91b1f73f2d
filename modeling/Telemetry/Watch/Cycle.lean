/-
This file reports on the processes of the watch list.

One cycle brings every entry up to date with a listing and reports on the processes it watches, in
the order of their numbers. A process whose files cannot be read is gone and is no longer watched.
A process whose files can be read but not understood contributes no point and stays watched; the
cycle goes on, and the last such process is what the cycle fails with.
-/

import Telemetry.Watch.Files
import Telemetry.Watch.Basic

namespace Telemetry

/-- What the system's files say about the processes there are, by process id. -/
abbrev ProcessTable := Nat → ProcessFiles

/-- The failure of a cycle: a process whose files are not understood, and why not. -/
structure CycleFailure where
  pid : Nat
  failure : ReportFailure
  deriving DecidableEq, Repr

/-- The wording of a failure. -/
def CycleFailure.message (failure : CycleFailure) : String :=
  "pid " ++ decimal failure.pid ++ ": " ++ failure.failure.message

namespace Watch

/-- The name of the collector of processes. -/
def collectorName : String := "linux_processes"

/-- A cycle while it runs: what is shared, the points so far, and the last failure. -/
structure Cycle where
  context : Context
  batch : List Point
  failure : Option CycleFailure
  deriving DecidableEq

/-- The tags of all readings about an entry. -/
def tags (watch : Watch) : TagSet := Table.empty.insert "name" watch.name

/-- The tags of all readings about one process. -/
def tagsOf (watch : Watch) (id : Nat) : TagSet := watch.tags.insert "id" (decimal id)

/-- The reading of the count of processes an entry watches. -/
def countReading (watch : Watch) : Reading :=
  ⟨"linux.proc.count", Value.ofNat watch.size, watch.tags,
    Hint.gauge .process "Live processes matching the watch entry."⟩

/-- Reports on one process that an entry watches. -/
def visit (timestamp : Int64) (table : ProcessTable) (state : Watch × Cycle) (entry : Tracked) :
    Watch × Cycle :=
  let (watch, cycle) := state
  match (table entry.pid).report? with
  | none => (watch.remove entry.pid, cycle)
  | some report =>
    match report.points cycle.context timestamp (watch.tagsOf entry.id) with
    | (context, .ok points) =>
      (watch, { cycle with context := context, batch := cycle.batch ++ points })
    | (context, .error failure) =>
      (watch, { cycle with context := context, failure := some ⟨entry.pid, failure⟩ })

/-- Reports the count of processes an entry watches. -/
def count (timestamp : Int64) (watch : Watch) (cycle : Cycle) : Cycle :=
  let context :=
    { cycle.context with health := cycle.context.health.setWatched watch.name watch.size }
  let (context, batch) := context.add cycle.batch timestamp watch.countReading
  { cycle with context := context, batch := batch }

/-- Brings an entry up to date and reports on it. -/
def report (timestamp : Int64) (processes : List RunningProcess) (table : ProcessTable)
    (watch : Watch) (cycle : Cycle) : Watch × Cycle :=
  let checked := watch.check processes
  let (watch, cycle) := checked.tracked.foldl (visit timestamp table) (checked, cycle)
  (watch, watch.count timestamp cycle)

/-- Reports on the entries of a watch list in order. The files are read anew for every entry, so
they may say something else about a process that another entry watches as well. -/
def reportAll (timestamp : Int64) (processes : List RunningProcess) (tables : Nat → ProcessTable) :
    List Watch → Cycle → List Watch × Cycle
  | [], cycle => ([], cycle)
  | watch :: rest, cycle =>
    let (watch, cycle) := watch.report timestamp processes (tables 0) cycle
    let (rest, cycle) :=
      reportAll timestamp processes (fun index => tables (index + 1)) rest cycle
    (watch :: rest, cycle)

/-- One cycle over a watch list, where the files are given for every entry by its place. -/
def collectFrom (watches : List Watch) (context : Context) (timestamp : Int64)
    (processes : List RunningProcess) (tables : Nat → ProcessTable) : List Watch × Cycle :=
  reportAll timestamp processes tables watches ⟨context, [], none⟩

/-- One cycle over a watch list during which the files stay as they are. -/
def collect (watches : List Watch) (context : Context) (timestamp : Int64)
    (processes : List RunningProcess) (table : ProcessTable) : List Watch × Cycle :=
  collectFrom watches context timestamp processes fun _ => table

end Watch

end Telemetry
