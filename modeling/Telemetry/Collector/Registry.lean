/-
This file holds the set of collectors that will run.

Names are unique: a collector with a name that is taken is not registered. A search keeps the
collectors whose name contains one of the texts looked for.
-/

import Telemetry.Collector.Interval
import Telemetry.Program.Basic

namespace Telemetry

/-- A collector of either kind. -/
inductive Collector where
  | interval (collector : IntervalCollector)
  | program (external : Program)

/-- The name of a collector. -/
def Collector.name : Collector → String
  | .interval collector => collector.name
  | .program external => external.name

/-- The collectors that will run, in the order of their registration. -/
structure Registry where
  collectors : List Collector

/-- A collector is not registered because its name is taken. -/
structure DuplicateName where
  name : String
  deriving DecidableEq, Repr

/-- The wording of the failure. -/
def DuplicateName.message (failure : DuplicateName) : String :=
  "duplicate collector name " ++ quoted failure.name

namespace Registry

/-- The registry without collectors. -/
def empty : Registry := ⟨[]⟩

/-- The names of the collectors. -/
def names (registry : Registry) : List String := registry.collectors.map Collector.name

/-- Adds a collector, unless its name is taken. -/
def register (registry : Registry) (collector : Collector) : Except DuplicateName Registry :=
  if registry.names.contains collector.name then .error ⟨collector.name⟩
  else .ok ⟨registry.collectors ++ [collector]⟩

/-- Adds a collector, or leaves it out when its name is taken. -/
def registerOrSkip (registry : Registry) (collector : Collector) : Registry :=
  match registry.register collector with
  | .ok grown => grown
  | .error _ => registry

/-- Adds collectors in order, and leaves out those whose names are taken. -/
def registerAll (registry : Registry) (collectors : List Collector) : Registry :=
  collectors.foldl registerOrSkip registry

/-- Keeps the collectors whose name contains one of some texts. Without texts it keeps all. -/
def search (registry : Registry) (texts : List String) : Registry :=
  if texts.isEmpty then registry
  else ⟨registry.collectors.filter fun collector => texts.any (containsText collector.name)⟩

/-- Names stay unique. -/
theorem nodup_register {registry grown : Registry} {collector : Collector}
    (unique : registry.names.Nodup) (registered : registry.register collector = .ok grown) :
    grown.names.Nodup := by
  unfold register at registered
  split at registered
  · simp at registered
  · rename_i fresh
    simp only [Except.ok.injEq] at registered
    subst registered
    have absent : collector.name ∉ registry.names := by simpa using fresh
    simp only [names, List.map_append, List.map_cons, List.map_nil] at unique absent ⊢
    exact List.nodup_append.mpr ⟨unique, by simp, fun first member second other => by
      rw [List.mem_singleton] at other
      rintro rfl
      exact absent (other ▸ member)⟩

end Registry

end Telemetry
