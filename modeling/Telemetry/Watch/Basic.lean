/-
This file holds the entries of the watch list.

An entry names the processes whose command contains a text and whose arguments match a pattern. It
gives every such process a small number, which the process keeps as long as every listing shows it.
New processes get their numbers before those of the processes that are gone are given back, so a
number never changes hands within one listing.
-/

import Telemetry.Pattern.Reader
import Telemetry.Watch.RunningProcess
import Telemetry.Watch.IdPool

namespace Telemetry

/-- A process that an entry watches, with its number. -/
structure Tracked where
  pid : Nat
  id : Nat
  deriving DecidableEq, Repr

/-- One entry of the watch list. -/
structure Watch where
  name : String
  command : String
  pattern : Pattern
  /-- The watched processes, by ascending number. -/
  tracked : List Tracked
  pool : IdPool

namespace Watch

/-- An entry that watches nothing yet. The arguments are given by a pattern. -/
def new? (name command pattern : String) : Option Watch :=
  (Pattern.ofText? pattern).map fun pattern => ⟨name, command, pattern, [], IdPool.fresh⟩

/-- Whether an entry names a process. -/
def covers (watch : Watch) (process : RunningProcess) : Bool :=
  containsText process.command watch.command && watch.pattern.occursIn process.arguments

/-- The number of a process. -/
def id? (watch : Watch) (pid : Nat) : Option Nat :=
  (watch.tracked.find? fun entry => entry.pid = pid).map (·.id)

/-- The count of watched processes. -/
def size (watch : Watch) : Nat := watch.tracked.length

/-- Puts a process at the place its number has. -/
def place (entry : Tracked) : List Tracked → List Tracked
  | [] => [entry]
  | other :: rest =>
    if entry.id < other.id then entry :: other :: rest else other :: place entry rest

/-- Watches a process, unless it is watched already. -/
def track (watch : Watch) (pid : Nat) : Watch :=
  if (watch.id? pid).isSome then watch
  else
    let (id, pool) := watch.pool.get
    { watch with tracked := place ⟨pid, id⟩ watch.tracked, pool := pool }

/-- Ends the watch of a process and gives its number back. -/
def remove (watch : Watch) (pid : Nat) : Watch :=
  match watch.id? pid with
  | none => watch
  | some id =>
    { watch with
      tracked := watch.tracked.filter fun entry => entry.pid ≠ pid
      pool := watch.pool.put id }

/-- The processes of a listing that an entry names. -/
def covered (watch : Watch) (processes : List RunningProcess) : List Nat :=
  (processes.filter watch.covers).map (·.pid)

/-- The watched processes that a list of process ids lacks. -/
def missing (watch : Watch) (pids : List Nat) : List Nat :=
  (watch.tracked.map (·.pid)).filter fun pid => !pids.contains pid

/-- Brings an entry up to date with a listing: new processes are watched, then those that are gone
are removed. -/
def check (watch : Watch) (processes : List RunningProcess) : Watch :=
  let pids := watch.covered processes
  let grown := pids.foldl track watch
  (grown.missing pids).foldl remove grown

@[simp] theorem size_new (name command : String) (pattern : Pattern) :
    (Watch.mk name command pattern [] IdPool.fresh).size = 0 := rfl

end Watch

end Telemetry
