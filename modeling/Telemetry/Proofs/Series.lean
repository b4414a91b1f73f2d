/-
This file says when the points of one cycle over the watch list belong to different series.

A series is a metric with its tags. The points about one entry never share one: those of a process
differ in their metric or their type, those of two processes in the number, and the count has a
metric of its own. Points about two entries differ in the name, as long as the names still differ
when they are cleaned. When they do not, both entries report their counts under one series, and
nothing keeps such entries out of the settings. Entries whose names cannot be cleaned report
nothing, so they may be left out.
-/

import Telemetry.Agent
import Telemetry.Proofs.Nameless
import Telemetry.Proofs.Numerals
import Telemetry.Proofs.Rounds
import Telemetry.Settings.Validity

namespace Telemetry

/-- The series of a point: its metric and its tags. -/
def Point.series (point : Point) : String × TagSet := (point.metric, point.tags)

namespace Watch

variable {context : Context} {watch : Watch} {table : ProcessTable} {tables : Nat → ProcessTable}

/-! ### The points about entries of all kinds -/

/-- The points about an entry after a cycle. There are none when its name cannot be cleaned. -/
def pointsAbout (context : Context) (timestamp : Int64) (table : ProcessTable) (watch : Watch) :
    List Point :=
  match clean watch.name with
  | .ok _ => entryPoints context timestamp table watch
  | .error _ => []

/-- The points about the entries of a list after a cycle. -/
def allPointsAbout (context : Context) (timestamp : Int64) (tables : Nat → ProcessTable)
    (after : List Watch) : List Point :=
  (after.mapIdx fun index watch => pointsAbout context timestamp (tables index) watch).flatten

/-- The cleaned names of the entries that have one. -/
def labels (watches : List Watch) : List String :=
  watches.filterMap fun watch => (clean watch.name).toOption

theorem pointsAbout_congr {other : Context} (same : context.settings = other.settings)
    (timestamp : Int64) : pointsAbout context timestamp = pointsAbout other timestamp := by
  funext table watch
  rw [pointsAbout, pointsAbout, (entryPoints_of_context same timestamp table watch).1]

theorem allPointsAbout_cons (context : Context) (timestamp : Int64) (tables : Nat → ProcessTable)
    (watch : Watch) (rest : List Watch) :
    allPointsAbout context timestamp tables (watch :: rest) =
      pointsAbout context timestamp (tables 0) watch ++
        allPointsAbout context timestamp (fun index => tables (index + 1)) rest := by
  rw [allPointsAbout, List.mapIdx_cons, List.flatten_cons, allPointsAbout]

theorem Consistent.batch_report (consistent : watch.Consistent) (fits : Fits table)
    {processes : List RunningProcess} (fewer : processes.length < UInt64.size)
    (timestamp : Int64) {cycle : Cycle} (valid : cycle.context.IsValid) :
    (watch.report timestamp processes table cycle).2.batch =
      cycle.batch ++
        pointsAbout cycle.context timestamp table (watch.reported processes table) := by
  rw [pointsAbout, name_of_settings (settings_reported watch processes table)]
  cases cleaned : clean watch.name with
  | ok label =>
    obtain ⟨metadata, reported⟩ :=
      consistent.report_snd ⟨label, cleaned⟩ fits fewer timestamp valid
    rw [reported]
  | error refusal =>
    rw [batch_report_of_nameless cleaned rfl]
    exact (List.append_nil _).symm

/-- A cycle adds the points about all entries in their order. -/
theorem batch_reportAll {watches : List Watch} (consistent : ∀ watch ∈ watches, watch.Consistent)
    (fits : ∀ index, Fits (tables index)) {processes : List RunningProcess}
    (fewer : processes.length < UInt64.size) (timestamp : Int64) {cycle : Cycle}
    (valid : cycle.context.IsValid) :
    (reportAll timestamp processes tables watches cycle).2.batch =
      cycle.batch ++
        allPointsAbout cycle.context timestamp tables (reportedAll processes tables watches) := by
  induction watches generalizing tables cycle with
  | nil => exact (List.append_nil _).symm
  | cons watch rest inductionHypothesis =>
    have settings : (watch.report timestamp processes (tables 0) cycle).2.context.settings =
        cycle.context.settings :=
      (steady_report timestamp processes (tables 0) watch cycle.batch cycle.failure).settings
        cycle.context
    have later := inductionHypothesis
      (fun other member => consistent other (List.mem_cons_of_mem _ member))
      (fun index => fits (index + 1)) (valid.congr settings)
    have first := (consistent watch List.mem_cons_self).batch_report (fits 0) fewer timestamp valid
    rw [allPointsAbout, pointsAbout_congr settings, ← allPointsAbout, first] at later
    rw [reportAll, reportedAll, List.mapIdx_cons, allPointsAbout_cons]
    dsimp only
    rw [later, List.append_assoc]
    rfl

/-! ### The series of one entry -/

/-- The series of the counts of all entries with a cleaned name. -/
def countSeries (context : Context) (label : String) : String × TagSet :=
  ("linux.proc.count", context.resolve (Table.empty.insert "name" label))

theorem series_countPoint (context : Context) (timestamp : Int64) (watch : Watch) :
    (countPoint context timestamp watch).series = countSeries context watch.label := by
  have tags : watch.tags.insert "name" watch.label = Table.empty.insert "name" watch.label := by
    refine Table.eq_of_get? fun key => ?_
    rw [Table.get?_insert, Table.get?_insert, tags, Table.get?_insert]
    split <;> rfl
  show (_, context.resolve (watch.tags.insert "name" watch.label)) = _
  rw [tags]
  rfl

section

variable (cleanable : ∃ cleaned, clean watch.name = .ok cleaned) (fits : Fits table)
  (valid : context.IsValid) (timestamp : Int64)

include cleanable fits valid

theorem tagged_of_mem_contribution {entry : Tracked} {point : Point}
    (member : point ∈ contribution context timestamp table watch entry) :
    point.tags.get? "name" = some watch.label ∧ point.tags.get? "id" = some (decimal entry.id) ∧
      isCount point = false := by
  rcases contribution_cases cleanable fits valid timestamp entry with none | ⟨report, complete⟩
  · rw [none] at member
    cases member
  · obtain ⟨name, id⟩ := complete.tagged point member
    exact ⟨name, id, not_isCount_of_complete complete member⟩

theorem nodup_series_contribution (entry : Tracked) :
    ((contribution context timestamp table watch entry).map Point.series).Nodup := by
  rcases contribution_cases cleanable fits valid timestamp entry with none | ⟨report, complete⟩
  · rw [none]
    exact List.nodup_nil
  · have once : (((contribution context timestamp table watch entry).map Point.series).map
        fun series => (series.1, series.2.get? "type")).Nodup := by
      rw [List.map_map]
      exact complete.once
    exact once.of_map

/-- All points about an entry are tagged with its cleaned name. -/
theorem name_of_mem_entryPoints {point : Point}
    (member : point ∈ entryPoints context timestamp table watch) :
    point.tags.get? "name" = some watch.label := by
  rcases List.mem_append.mp member with ofProcess | ofCount
  · obtain ⟨entry, _, inPoints⟩ := List.mem_flatMap.mp ofProcess
    exact (tagged_of_mem_contribution cleanable fits valid timestamp inPoints).1
  · rw [List.mem_singleton.mp ofCount, get?_name_countPoint]

/-- Processes with different numbers share no series. -/
theorem disjoint_series_contribution {first second : Tracked} (different : first.id ≠ second.id) :
    ((contribution context timestamp table watch first).map Point.series).Disjoint
      ((contribution context timestamp table watch second).map Point.series) := by
  intro series inFirst inSecond
  obtain ⟨point, member, rfl⟩ := List.mem_map.mp inFirst
  obtain ⟨other, otherMember, same⟩ := List.mem_map.mp inSecond
  have number := (tagged_of_mem_contribution cleanable fits valid timestamp member).2.1
  have otherNumber := (tagged_of_mem_contribution cleanable fits valid timestamp otherMember).2.1
  have tags : other.tags = point.tags := congrArg Prod.snd same
  rw [tags, number] at otherNumber
  exact different (decimal_injective (Option.some.inj otherNumber))

/-- No two points about an entry belong to one series. -/
theorem nodup_series_entryPoints (ascending : watch.ids.Pairwise (· < ·)) :
    ((entryPoints context timestamp table watch).map Point.series).Nodup := by
  have different : watch.tracked.Pairwise fun first second => first.id ≠ second.id :=
    (List.pairwise_map.mp ascending).imp Nat.ne_of_lt
  have apart := different.imp fun {first second} differs =>
    disjoint_series_contribution cleanable fits valid timestamp differs
  rw [entryPoints, List.map_append, List.map_flatMap]
  refine List.nodup_append.mpr ⟨List.nodup_flatMap.mpr ⟨fun entry _ =>
    nodup_series_contribution cleanable fits valid timestamp entry, apart⟩,
    List.nodup_singleton _, fun series inProcesses count inCount same => ?_⟩
  obtain ⟨entry, _, inPoints⟩ := List.mem_flatMap.mp inProcesses
  obtain ⟨point, member, rfl⟩ := List.mem_map.mp inPoints
  rw [List.map_singleton, List.mem_singleton] at inCount
  have metric : point.metric = "linux.proc.count" := congrArg Prod.fst (same.trans inCount)
  have notCount := (tagged_of_mem_contribution cleanable fits valid timestamp member).2.2
  rw [isCount, metric] at notCount
  cases notCount

end

/-! ### The series of a list -/

/-- An entry whose name can be cleaned is listed under its cleaned name. -/
theorem toOption_clean_name (cleanable : ∃ cleaned, clean watch.name = .ok cleaned) :
    (clean watch.name).toOption = some watch.label := by
  rw [clean_name cleanable]
  rfl

theorem labels_cons (cleanable : ∃ cleaned, clean watch.name = .ok cleaned) (rest : List Watch) :
    labels (watch :: rest) = watch.label :: labels rest :=
  List.filterMap_cons_some (toOption_clean_name cleanable)

theorem labels_cons_of_nameless {refusal : Refusal} (refused : clean watch.name = .error refusal)
    (rest : List Watch) : labels (watch :: rest) = labels rest :=
  List.filterMap_cons_none (by rw [refused]; rfl)

section

variable {after : List Watch} (fits : ∀ index, Fits (tables index)) (valid : context.IsValid)
  (timestamp : Int64)

/-- Every entry that is listed under a name reports its count. -/
theorem countSeries_mem (context : Context) (timestamp : Int64) {label : String}
    (listed : label ∈ labels after) :
    countSeries context label ∈
      (allPointsAbout context timestamp tables after).map Point.series := by
  obtain ⟨watch, member, cleaned⟩ := List.mem_filterMap.mp listed
  obtain ⟨index, inList, rfl⟩ := List.getElem_of_mem member
  cases success : clean after[index].name with
  | error refusal =>
    rw [success] at cleaned
    cases cleaned
  | ok name =>
    rw [toOption_clean_name ⟨name, success⟩] at cleaned
    have inPoints : countPoint context timestamp after[index] ∈
        pointsAbout context timestamp (tables index) after[index] := by
      rw [pointsAbout, success]
      exact List.mem_append_right _ (List.mem_singleton_self _)
    refine List.mem_map.mpr ⟨_, List.mem_flatten.mpr ⟨_, List.mem_mapIdx.mpr
      ⟨index, inList, rfl⟩, inPoints⟩, ?_⟩
    rw [series_countPoint, Option.some.inj cleaned]

include fits valid

/-- Every point is tagged with a name under which an entry is listed. -/
theorem name_of_mem_allPointsAbout {point : Point}
    (member : point ∈ allPointsAbout context timestamp tables after) :
    ∃ label ∈ labels after, point.tags.get? "name" = some label := by
  obtain ⟨points, listed, inPoints⟩ := List.mem_flatten.mp member
  obtain ⟨index, inList, rfl⟩ := List.mem_mapIdx.mp listed
  rw [pointsAbout] at inPoints
  cases success : clean after[index].name with
  | error refusal =>
    rw [success] at inPoints
    cases inPoints
  | ok name =>
    rw [success] at inPoints
    exact ⟨after[index].label, List.mem_filterMap.mpr
      ⟨after[index], List.getElem_mem inList, toOption_clean_name ⟨name, success⟩⟩,
      name_of_mem_entryPoints ⟨name, success⟩ (fits index) valid timestamp inPoints⟩

/-- An entry shares a series with others exactly when one of them is listed under its name. -/
theorem disjoint_series_iff (cleanable : ∃ cleaned, clean watch.name = .ok cleaned)
    (own : Fits table) :
    ((entryPoints context timestamp table watch).map Point.series).Disjoint
        ((allPointsAbout context timestamp tables after).map Point.series) ↔
      watch.label ∉ labels after := by
  constructor
  · intro apart listed
    -- The counts of both entries have one series.
    have here : countSeries context watch.label ∈
        (entryPoints context timestamp table watch).map Point.series :=
      List.mem_map.mpr ⟨countPoint context timestamp watch,
        List.mem_append_right _ (List.mem_singleton_self _), series_countPoint _ _ _⟩
    exact apart here (countSeries_mem context timestamp listed)
  · intro fresh series here there
    obtain ⟨point, member, rfl⟩ := List.mem_map.mp here
    obtain ⟨other, otherMember, same⟩ := List.mem_map.mp there
    obtain ⟨label, listed, tagged⟩ := name_of_mem_allPointsAbout fits valid timestamp otherMember
    have name := name_of_mem_entryPoints cleanable own valid timestamp member
    have tags : other.tags = point.tags := congrArg Prod.snd same
    rw [tags, name] at tagged
    exact fresh (Option.some.inj tagged ▸ listed)

/-- The points about a list belong to different series when the cleaned names differ, and only
then. -/
theorem nodup_series_iff (ascending : ∀ watch ∈ after, watch.ids.Pairwise (· < ·)) :
    ((allPointsAbout context timestamp tables after).map Point.series).Nodup ↔
      (labels after).Nodup := by
  induction after generalizing tables with
  | nil => exact iff_of_true List.nodup_nil List.nodup_nil
  | cons watch rest inductionHypothesis =>
    have restFits (index : Nat) := fits (index + 1)
    have later := inductionHypothesis restFits
      fun other member => ascending other (List.mem_cons_of_mem _ member)
    rw [allPointsAbout_cons, List.map_append, pointsAbout]
    cases success : clean watch.name with
    | error refusal =>
      rw [labels_cons_of_nameless success]
      exact later
    | ok name =>
      have cleanable : ∃ cleaned, clean watch.name = .ok cleaned := ⟨name, success⟩
      have once := nodup_series_entryPoints cleanable (fits 0) valid timestamp
        (ascending watch List.mem_cons_self)
      rw [labels_cons cleanable, List.nodup_append', List.nodup_cons, later,
        disjoint_series_iff restFits valid timestamp cleanable (fits 0), and_iff_right once,
        and_comm]

end

/-- The cleaned names of entries depend on their settings alone. -/
theorem labels_congr {watches others : List Watch}
    (same : watches.map settings = others.map settings) : labels watches = labels others := by
  have fromSettings (list : List Watch) : labels list =
      (list.map settings).filterMap fun entry => (clean entry.1).toOption := by
    rw [List.filterMap_map]
    rfl
  rw [fromSettings, fromSettings, same]

end Watch

/-! ### Entries from accepted settings -/

namespace Settings

/-- Accepted settings give one entry of the watch list for each of theirs. -/
theorem labels_watches {settings : Settings} (accepted : settings.validate = .ok ()) :
    Watch.labels (settings.watches.filterMap WatchSettings.watch?) =
      settings.watches.filterMap fun entry => (clean entry.name).toOption := by
  rw [Watch.labels, List.filterMap_filterMap]
  refine List.filterMap_congr fun entry member => ?_
  obtain ⟨pattern, read⟩ := Option.isSome_iff_exists.mp (isSome_pattern_of_validate accepted member)
  rw [WatchSettings.watch?, Watch.new?, read]
  rfl

theorem consistent_watches (settings : Settings) :
    ∀ watch ∈ settings.watches.filterMap WatchSettings.watch?, watch.Consistent := by
  intro watch member
  obtain ⟨entry, _, made⟩ := List.mem_filterMap.mp member
  obtain ⟨pattern, _, rfl⟩ := Option.map_eq_some_iff.mp made
  exact Watch.consistent_of_fresh (entry.name, entry.command, pattern)

end Settings

namespace Round

/-- The points of a cycle are those about the entries that it leaves. -/
theorem batch_collect {round : Round} (valid : round.IsValid) {watches : List Watch}
    (consistent : ∀ watch ∈ watches, watch.Consistent) :
    (round.collect watches).2.batch = Watch.allPointsAbout round.context round.timestamp
      round.tables (round.collect watches).1 := by
  rw [collect_fst]
  exact Watch.batch_reportAll consistent valid.tables valid.processes round.timestamp valid.context

/-- After any cycles over the watch list of accepted settings, the points of the next one belong to
different series when the names of the entries, as far as they can be cleaned, still differ then,
and only then. -/
theorem series_nodup_iff {settings : Settings} (accepted : settings.validate = .ok ())
    (past : List Round) {round : Round} (valid : round.IsValid) :
    ((round.collect (collectAll (settings.watches.filterMap WatchSettings.watch?) past)).2.batch.map
        Point.series).Nodup ↔
      (settings.watches.filterMap fun entry => (clean entry.name).toOption).Nodup := by
  have consistent := consistent_collectAll settings.consistent_watches past
  rw [batch_collect valid consistent, ← Settings.labels_watches accepted,
    ← Watch.labels_congr (settings_collectAll _ past),
    ← Watch.labels_congr (round.settings_collect _)]
  exact Watch.nodup_series_iff valid.tables valid.context round.timestamp fun watch member =>
    (round.consistent_collect consistent watch member).ascending

/-- Settings whose watch list has entries with these names, which watch servers. -/
def serverSettings (names : List String) : Settings :=
  { Settings.defaults with watches := names.map fun name => ⟨name, "server", ""⟩ }

/-- Two entries report on the process 7 under different names. A third one has no name to report
under. -/
theorem series_of_servers :
    (serverSettings ["my server", "server", "***"]).validate = .ok () ∧
      (serverRound [9, 7]).IsValid ∧
      (let watches :=
        (serverSettings ["my server", "server", "***"]).watches.filterMap WatchSettings.watch?
      let result := (serverRound [9, 7]).collect (collectAll watches [serverRound [8]])
      (result.2.batch.map Point.series).Nodup ∧ result.2.batch.length = 28) := by
  have accepted : (serverSettings ["my server", "server", "***"]).validate = .ok () :=
    Settings.validate_eq_ok_iff.mpr (by decide +kernel)
  have valid : (serverRound [9, 7]).IsValid := isValid_serverRound (by decide)
  have names : ((serverSettings ["my server", "server", "***"]).watches.filterMap fun entry =>
      (clean entry.name).toOption).Nodup := by
    decide +kernel
  exact ⟨accepted, valid, (series_nodup_iff accepted [serverRound [8]] valid).mpr names,
    by decide +kernel⟩

/-- Two entries with one name report their counts under one series. -/
theorem not_nodup_series_of_twins :
    (serverSettings ["mysql", "mysql"]).validate = .ok () ∧ (serverRound []).IsValid ∧
      ¬(((serverRound []).collect
        ((serverSettings ["mysql", "mysql"]).watches.filterMap WatchSettings.watch?)).2.batch.map
          Point.series).Nodup := by
  refine ⟨Settings.validate_eq_ok_iff.mpr (by decide +kernel), isValid_serverRound (by decide), ?_⟩
  decide +kernel

end Round

end Telemetry
