/-
This file says what one cycle does to a watch list and what it reports.

A cycle walks through the entries in their order and adds what it reports about each of them. What
it reports depends on the settings of a context, not on what was stored or counted before, so the
points and the failures of a list are those of its entries put one after the other.
-/

import Telemetry.Proofs.Visits

namespace Telemetry

namespace Watch

variable {tables : Nat → ProcessTable} {processes : List RunningProcess}

/-! ### One cycle over a list -/

/-- The entries of a list after a cycle. -/
def reportedAll (processes : List RunningProcess) (tables : Nat → ProcessTable)
    (watches : List Watch) : List Watch :=
  watches.mapIdx fun index watch => watch.reported processes (tables index)

/-- The points about the entries of a list after a cycle. -/
def allPoints (context : Context) (timestamp : Int64) (tables : Nat → ProcessTable)
    (after : List Watch) : List Point :=
  (after.mapIdx fun index watch => entryPoints context timestamp (tables index) watch).flatten

/-- The failures about the entries of a list after a cycle. -/
def allRefusals (context : Context) (timestamp : Int64) (tables : Nat → ProcessTable)
    (after : List Watch) : List CycleFailure :=
  (after.mapIdx fun index watch => refusals context timestamp (tables index) watch).flatten

/-- The gauges after those of some entries were set. -/
def gauged (health : Health) (after : List Watch) : Health :=
  after.foldl (fun health watch => health.setWatched watch.name watch.size) health

theorem reportAll_fst (timestamp : Int64) (processes : List RunningProcess)
    (tables : Nat → ProcessTable) (watches : List Watch) (cycle : Cycle) :
    (reportAll timestamp processes tables watches cycle).1 =
      reportedAll processes tables watches := by
  induction watches generalizing tables cycle with
  | nil => rfl
  | cons watch rest inductionHypothesis =>
    rw [reportAll, reportedAll, List.mapIdx_cons]
    dsimp only
    rw [inductionHypothesis, report_fst, reportedAll]

/-- What is reported about an entry depends on the settings of the context alone. -/
theorem entryPoints_of_context {context other : Context}
    (same : context.settings = other.settings) (timestamp : Int64) (table : ProcessTable)
    (watch : Watch) :
    entryPoints context timestamp table watch = entryPoints other timestamp table watch ∧
      refusals context timestamp table watch = refusals other timestamp table watch := by
  obtain ⟨points, failures⟩ := contribution_of_context same timestamp table watch
  rw [entryPoints, entryPoints, refusals, refusals, points, failures, countPoint, countPoint,
    Context.pointOf, Context.pointOf, Context.resolve_congr same]
  exact ⟨rfl, rfl⟩

/-- The same holds for the entries of a list. -/
theorem allPoints_of_context {context other : Context}
    (same : context.settings = other.settings) (timestamp : Int64) (tables : Nat → ProcessTable)
    (after : List Watch) :
    allPoints context timestamp tables after = allPoints other timestamp tables after ∧
      allRefusals context timestamp tables after = allRefusals other timestamp tables after := by
  have each (index : Nat) (watch : Watch) :=
    entryPoints_of_context same timestamp (tables index) watch
  refine ⟨congrArg List.flatten (List.mapIdx_eq_mapIdx_iff.mpr fun index _ => ?_),
    congrArg List.flatten (List.mapIdx_eq_mapIdx_iff.mpr fun index _ => ?_)⟩
  · exact (each index _).1
  · exact (each index _).2

/-- A cycle adds the points about all entries in their order, and the last failure counts. -/
theorem reportAll_snd {watches : List Watch} (consistent : ∀ watch ∈ watches, watch.Consistent)
    (cleanable : ∀ watch ∈ watches, ∃ cleaned, clean watch.name = .ok cleaned)
    (fits : ∀ index, Fits (tables index)) (fewer : processes.length < UInt64.size)
    (timestamp : Int64)
    {cycle : Cycle} (valid : cycle.context.IsValid) :
    ∃ metadata, (reportAll timestamp processes tables watches cycle).2 =
      ⟨{ cycle.context with
          metadata := metadata
          health := gauged cycle.context.health (reportedAll processes tables watches) },
        cycle.batch ++
          allPoints cycle.context timestamp tables (reportedAll processes tables watches),
        (allRefusals cycle.context timestamp tables
          (reportedAll processes tables watches)).getLast?.or cycle.failure⟩ := by
  induction watches generalizing tables cycle with
  | nil => exact ⟨cycle.context.metadata, by simp [reportAll, reportedAll, allPoints, allRefusals,
      gauged]⟩
  | cons watch rest inductionHypothesis =>
    obtain ⟨metadata, reported⟩ := (consistent watch List.mem_cons_self).report_snd
      (cleanable watch List.mem_cons_self) (fits 0) fewer timestamp valid
    have settings : (watch.report timestamp processes (tables 0) cycle).2.context.settings =
        cycle.context.settings :=
      (steady_report timestamp processes (tables 0) watch cycle.batch cycle.failure).settings
        cycle.context
    obtain ⟨final, later⟩ := inductionHypothesis
      (fun other member => consistent other (List.mem_cons_of_mem _ member))
      (fun other member => cleanable other (List.mem_cons_of_mem _ member))
      (fun index => fits (index + 1)) (valid.congr settings)
    have name : (watch.reported processes (tables 0)).name = watch.name :=
      name_of_settings (settings_reported _ _ _)
    obtain ⟨points, failures⟩ := allPoints_of_context settings timestamp
      (fun index => tables (index + 1))
      (reportedAll processes (fun index => tables (index + 1)) rest)
    have after : reportedAll processes tables (watch :: rest) =
        watch.reported processes (tables 0) ::
          reportedAll processes (fun index => tables (index + 1)) rest := by
      rw [reportedAll, List.mapIdx_cons, reportedAll]
    refine ⟨final, ?_⟩
    rw [reportAll]
    dsimp only
    rw [later, points, failures, reported, after]
    dsimp only
    rw [allPoints, allPoints, allRefusals, allRefusals, List.mapIdx_cons,
      List.mapIdx_cons, List.flatten_cons, List.flatten_cons, List.getLast?_append,
      List.append_assoc, Option.or_assoc, gauged, gauged, List.foldl_cons, name]

/-! ### Counts, gauges and failures -/

/-- The gauge of a name shows the size of the last entry with that name. -/
theorem watched_gauged (health : Health) (after : List Watch) (name : String) :
    (gauged health after).watched.get? name =
      ((after.filter fun watch => watch.name = name).getLast?.map size).or
        (health.watched.get? name) := by
  induction after generalizing health with
  | nil => rfl
  | cons watch rest inductionHypothesis =>
    have set : (health.setWatched watch.name watch.size).watched.get? name =
        if name = watch.name then some watch.size else health.watched.get? name :=
      Table.get?_insert _ _ _ _
    have step : gauged health (watch :: rest) =
        gauged (health.setWatched watch.name watch.size) rest := rfl
    rw [step, inductionHypothesis, set]
    by_cases same : watch.name = name
    · rw [if_pos same.symm, List.filter_cons_of_pos (by simpa using same), List.getLast?_cons]
      cases (rest.filter fun watch => watch.name = name).getLast? <;> rfl
    · rw [if_neg fun equal => same equal.symm, List.filter_cons_of_neg (by simpa using same)]

/-- The metric of the count of processes. -/
def isCount (point : Point) : Bool := point.metric = "linux.proc.count"

/-- No point about a process is a count. -/
theorem not_isCount_of_complete {report : ProcessReport} {context : Context} {watch : Watch}
    {id : Nat} {points : List Point} (complete : report.Complete context watch id points)
    {point : Point} (member : point ∈ points) : isCount point = false := by
  have other : ∀ limited, ∀ entry ∈ ProcessReport.series limited,
      entry.1 ≠ "linux.proc.count" := by decide
  have listed : (point.metric, point.tags.get? "type") ∈
      points.map fun point => (point.metric, point.tags.get? "type") :=
    List.mem_map.mpr ⟨point, member, rfl⟩
  rw [complete.series] at listed
  obtain ⟨entry, inSeries, same⟩ := List.mem_map.mp listed
  have metric : entry.1 = point.metric := (Prod.mk.inj same).1
  exact decide_eq_false (metric ▸ other _ entry inSeries)

section

variable {context : Context} (valid : context.IsValid) (timestamp : Int64)

include valid

theorem filter_isCount_entryPoints {watch : Watch} {table : ProcessTable}
    (cleanable : ∃ cleaned, clean watch.name = .ok cleaned) (fits : Fits table) :
    (entryPoints context timestamp table watch).filter isCount =
      [countPoint context timestamp watch] := by
  have others : (watch.tracked.flatMap (contribution context timestamp table watch)).filter
      isCount = [] := by
    refine List.filter_eq_nil_iff.mpr fun point member => ?_
    obtain ⟨entry, _, inPoints⟩ := List.mem_flatMap.mp member
    rcases contribution_cases cleanable fits valid timestamp entry with none | ⟨report, complete⟩
    · rw [none] at inPoints
      cases inPoints
    · rw [not_isCount_of_complete complete inPoints]
      exact Bool.false_ne_true
  rw [entryPoints, List.filter_append, others, List.nil_append]
  rfl

/-- Every entry contributes its count once. -/
theorem filter_isCount_allPoints {after : List Watch}
    (cleanable : ∀ watch ∈ after, ∃ cleaned, clean watch.name = .ok cleaned)
    (fits : ∀ index, Fits (tables index)) :
    (allPoints context timestamp tables after).filter isCount =
      after.map (countPoint context timestamp) := by
  induction after generalizing tables with
  | nil => rfl
  | cons watch rest inductionHypothesis =>
    have later := inductionHypothesis
      (fun other member => cleanable other (List.mem_cons_of_mem _ member))
      (fun index => fits (index + 1))
    rw [allPoints] at later
    rw [allPoints, List.mapIdx_cons, List.flatten_cons, List.filter_append,
      filter_isCount_entryPoints valid timestamp (cleanable watch List.mem_cons_self) (fits 0),
      later]
    rfl

end

theorem get?_name_countPoint (context : Context) (timestamp : Int64) (watch : Watch) :
    (countPoint context timestamp watch).tags.get? "name" = some watch.label := by
  rw [countPoint, Context.get?_pointOf watch.names_tags.host, if_neg (by decide), if_pos rfl]

/-- The failures of a cycle are those of the reports that are refused. -/
theorem mem_allRefusals {context : Context} {timestamp : Int64} {after : List Watch}
    {failure : CycleFailure} :
    failure ∈ allRefusals context timestamp tables after ↔
      ∃ index watch, after[index]? = some watch ∧ ∃ entry ∈ watch.tracked,
        refusal? context timestamp (tables index) watch entry = some failure := by
  rw [allRefusals, List.mem_flatten]
  constructor
  · rintro ⟨failures, listed, member⟩
    obtain ⟨index, inList, rfl⟩ := List.mem_mapIdx.mp listed
    exact ⟨index, after[index], List.getElem?_eq_getElem inList, List.mem_filterMap.mp member⟩
  · rintro ⟨index, watch, found, refused⟩
    obtain ⟨inList, rfl⟩ := List.getElem?_eq_some_iff.mp found
    exact ⟨_, List.mem_mapIdx.mpr ⟨index, inList, rfl⟩, List.mem_filterMap.mpr refused⟩

theorem refusal?_eq_some_iff {context : Context} {timestamp : Int64} {table : ProcessTable}
    {watch : Watch} {entry : Tracked} {failure : CycleFailure} :
    refusal? context timestamp table watch entry = some failure ↔
      failure.pid = entry.pid ∧ ∃ report, (table entry.pid).report? = some report ∧
        (report.points context timestamp (watch.tagsOf entry.id)).2 = .error failure.failure := by
  obtain ⟨pid, reason⟩ := failure
  unfold refusal?
  split
  · rename_i missing
    simp [missing]
  · rename_i report read
    split
    · rename_i given refused
      simp [read, refused, eq_comm]
    · rename_i points accepted
      simp [read, accepted]

end Watch

end Telemetry
