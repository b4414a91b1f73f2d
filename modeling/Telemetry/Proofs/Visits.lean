/-
This file says what one cycle does to one entry of the watch list.

The cycle walks over the processes that the entry watched when it was brought up to date, and ends
the watch of some of them on the way. What it reports about a process depends on the files of that
process and on its number alone, so the walk is followed in two parts: what it leaves of the entry,
and what it adds to the points and to the failure. Neither part sees the other processes.
-/

import Telemetry.Proofs.Identity
import Telemetry.Proofs.Steady

namespace Telemetry

namespace Watch

variable {watch : Watch} {table : ProcessTable}

/-! ### What is left of the entry -/

/-- Whether all files about a process could be read. -/
def isReadable (table : ProcessTable) (pid : Nat) : Bool := (table pid).report?.isSome

/-- An entry without the processes whose files could not be read. -/
def dropUnreadable (table : ProcessTable) (watch : Watch) : Watch :=
  (watch.pids.filter fun pid => !isReadable table pid).foldl remove watch

/-- An entry after a cycle. -/
def reported (watch : Watch) (processes : List RunningProcess) (table : ProcessTable) : Watch :=
  (watch.check processes).dropUnreadable table

theorem visit_fst (timestamp : Int64) (table : ProcessTable) (state : Watch × Cycle)
    (entry : Tracked) :
    (visit timestamp table state entry).1 =
      if isReadable table entry.pid then state.1 else state.1.remove entry.pid := by
  unfold visit isReadable
  dsimp only
  split
  · rename_i unreadable
    rw [unreadable]
    rfl
  · rename_i report readable
    rw [readable]
    split <;> rfl

/-- A visit keeps the settings of the entry. -/
theorem settings_visit (timestamp : Int64) (table : ProcessTable) (state : Watch × Cycle)
    (entry : Tracked) : (visit timestamp table state entry).1.settings = state.1.settings := by
  rw [visit_fst]
  split
  · rfl
  · exact settings_remove state.1 entry.pid

/-- Whatever is reported, the walk ends the watch of the processes that cannot be read. -/
theorem foldl_visit_fst (timestamp : Int64) (table : ProcessTable) (entries : List Tracked)
    (state : Watch × Cycle) :
    (entries.foldl (visit timestamp table) state).1 =
      ((entries.map (·.pid)).filter fun pid => !isReadable table pid).foldl remove state.1 := by
  induction entries generalizing state with
  | nil => rfl
  | cons entry rest inductionHypothesis =>
    rw [List.foldl_cons, inductionHypothesis, visit_fst, List.map_cons]
    cases readable : isReadable table entry.pid with
    | true => rw [List.filter_cons_of_neg (by simp [readable]), if_pos rfl]
    | false =>
      rw [List.filter_cons_of_pos (by simp [readable]), List.foldl_cons,
        if_neg Bool.false_ne_true]

theorem report_fst (timestamp : Int64) (processes : List RunningProcess) (table : ProcessTable)
    (watch : Watch) (cycle : Cycle) :
    (watch.report timestamp processes table cycle).1 = watch.reported processes table :=
  foldl_visit_fst timestamp table (watch.check processes).tracked (watch.check processes, cycle)

theorem settings_reported (watch : Watch) (processes : List RunningProcess)
    (table : ProcessTable) : (watch.reported processes table).settings = watch.settings :=
  (settings_foldl_remove _ _).trans (settings_check watch processes)

theorem Consistent.reported (consistent : watch.Consistent) (processes : List RunningProcess)
    (table : ProcessTable) : (watch.reported processes table).Consistent :=
  (consistent.check processes).foldl_remove _

/-- The entry still watches the processes whose files could be read. -/
theorem tracked_dropUnreadable (table : ProcessTable) (watch : Watch) :
    (watch.dropUnreadable table).tracked =
      watch.tracked.filter fun entry => isReadable table entry.pid := by
  rw [dropUnreadable, tracked_foldl_remove]
  refine List.filter_congr fun entry member => ?_
  have watched : entry.pid ∈ watch.pids := List.mem_map.mpr ⟨entry, member, rfl⟩
  cases readable : isReadable table entry.pid with
  | true => simp [readable]
  | false => simp [readable, watched]

/-- What a cycle does to the processes of an entry. -/
structure Kept (watch : Watch) (processes : List RunningProcess) (table : ProcessTable)
    (after : Watch) : Prop where
  settings : after.settings = watch.settings
  /-- The entry watches the processes that it names and whose files could all be read. -/
  watched : ∀ pid, (after.id? pid).isSome ↔
    (∃ process ∈ processes, watch.covers process ∧ process.pid = pid) ∧
      (table pid).report?.isSome
  /-- A process that stays keeps its number. -/
  kept : ∀ pid number, watch.id? pid = some number → (after.id? pid).isSome →
    after.id? pid = some number

theorem Consistent.kept (consistent : watch.Consistent) (processes : List RunningProcess)
    (table : ProcessTable) : watch.Kept processes table (watch.reported processes table) := by
  have reconciled := consistent.reconciled processes
  have checked := consistent.check processes
  have answers : ∀ pid, (watch.reported processes table).id? pid =
      if isReadable table pid then (watch.check processes).id? pid else none := by
    intro pid
    rw [Watch.reported, dropUnreadable, checked.id?_foldl_remove]
    cases readable : isReadable table pid with
    | true => rw [if_pos rfl, if_neg (by simp [readable])]
    | false =>
      rw [if_neg Bool.false_ne_true]
      split
      · rfl
      · rename_i present
        refine id?_eq_none_iff.mpr fun member => present (List.mem_filter.mpr ⟨member, ?_⟩)
        rw [readable]
        rfl
  refine ⟨settings_reported watch processes table, fun pid => ?_,
    fun pid number found stays => ?_⟩
  · rw [answers, ← reconciled.watched]
    show _ ↔ _ ∧ isReadable table pid = true
    cases isReadable table pid <;> simp
  · rw [answers] at stays ⊢
    cases readable : isReadable table pid with
    | true =>
      rw [readable, if_pos rfl] at stays
      exact reconciled.kept pid number found stays
    | false =>
      rw [readable, if_neg Bool.false_ne_true] at stays
      cases stays

/-- An entry watches at most as many processes as the listing has. -/
theorem Consistent.size_reported_le (consistent : watch.Consistent)
    (processes : List RunningProcess) (table : ProcessTable) :
    (watch.reported processes table).size ≤ processes.length := by
  have after := consistent.reported processes table
  have listed : (watch.reported processes table).pids ⊆ processes.map (·.pid) := by
    intro pid member
    obtain ⟨⟨process, inListing, _, same⟩, _⟩ :=
      ((consistent.kept processes table).watched pid).mp (isSome_id?_iff.mpr member)
    exact List.mem_map.mpr ⟨process, inListing, same⟩
  have fewer := (List.subperm_of_subset after.distinct listed).length_le
  rwa [pids, List.length_map, List.length_map] at fewer

/-! ### What is reported -/

/-- The points of one process: those of its report, or none when a file could not be read or was
not understood. -/
def contribution (context : Context) (timestamp : Int64) (table : ProcessTable) (watch : Watch)
    (entry : Tracked) : List Point :=
  match (table entry.pid).report? with
  | none => []
  | some report =>
    match (report.points context timestamp (watch.tagsOf entry.id)).2 with
    | .error _ => []
    | .ok points => points

/-- The failure of one process: that of its report when a file was not understood. -/
def refusal? (context : Context) (timestamp : Int64) (table : ProcessTable) (watch : Watch)
    (entry : Tracked) : Option CycleFailure :=
  match (table entry.pid).report? with
  | none => none
  | some report =>
    match (report.points context timestamp (watch.tagsOf entry.id)).2 with
    | .error failure => some ⟨entry.pid, failure⟩
    | .ok _ => none

/-- The point of the count of processes. -/
def countPoint (context : Context) (timestamp : Int64) (watch : Watch) : Point :=
  context.pointOf timestamp watch.label watch.countReading

/-- The points about an entry after a cycle: those of its processes, in the order of their numbers,
and the count. -/
def entryPoints (context : Context) (timestamp : Int64) (table : ProcessTable) (watch : Watch) :
    List Point :=
  watch.tracked.flatMap (contribution context timestamp table watch) ++
    [countPoint context timestamp watch]

/-- The failures about an entry after a cycle, in the order of the numbers. -/
def refusals (context : Context) (timestamp : Int64) (table : ProcessTable) (watch : Watch) :
    List CycleFailure :=
  watch.tracked.filterMap (refusal? context timestamp table watch)

/-- All counts of open files are those of sixty-four bits. -/
def Fits (table : ProcessTable) : Prop :=
  ∀ pid count, (table pid).openFiles = some count → count < UInt64.size

theorem openFiles_lt (fits : Fits table) {pid : Nat} {report : ProcessReport}
    (read : (table pid).report? = some report) : report.openFiles < UInt64.size := by
  unfold ProcessFiles.report? at read
  split at read
  · rename_i found
    rw [← Option.some.inj read]
    exact fits pid _ found
  · cases read

section

variable {context : Context} (cleanable : ∃ cleaned, clean watch.name = .ok cleaned)
  (fits : Fits table) (valid : context.IsValid) (timestamp : Int64)

include cleanable fits valid

/-- The points of a process are those of its readings. -/
theorem points_of_report {entry : Tracked} {report : ProcessReport}
    (read : (table entry.pid).report? = some report) :
    ∃ metadata, report.points context timestamp (watch.tagsOf entry.id) =
      ({ context with metadata := metadata },
        (report.readings (watch.tagsOf entry.id)).map fun readings =>
          readings.map (context.pointOf timestamp watch.label)) :=
  ProcessReport.points_eq valid (clean_name cleanable) (watch.names_tagsOf entry.id)
    (openFiles_lt fits read) timestamp

/-- A report that is accepted gives the complete points of a process. -/
theorem complete_contribution {entry : Tracked} {report : ProcessReport} {points : List Point}
    (read : (table entry.pid).report? = some report)
    (accepted : (report.points context timestamp (watch.tagsOf entry.id)).2 = .ok points) :
    report.Complete context watch entry.id points := by
  obtain ⟨metadata, all⟩ := points_of_report cleanable fits valid timestamp read
  rw [all] at accepted
  cases success : report.readings (watch.tagsOf entry.id) with
  | error failure =>
    rw [success] at accepted
    cases accepted
  | ok readings =>
    rw [success] at accepted
    rw [← Except.ok.inj accepted]
    exact ProcessReport.complete_of_readings success context timestamp

/-- The points of a process are none, or complete. -/
theorem contribution_cases (entry : Tracked) :
    contribution context timestamp table watch entry = [] ∨
      ∃ report : ProcessReport, report.Complete context watch entry.id
        (contribution context timestamp table watch entry) := by
  rw [contribution]
  split
  · exact .inl rfl
  · rename_i report read
    split
    · exact .inl rfl
    · rename_i points accepted
      exact .inr ⟨report, complete_contribution cleanable fits valid timestamp read accepted⟩

end

/-- What is reported about a process depends on the settings of the context alone. -/
theorem contribution_of_context {context other : Context}
    (same : context.settings = other.settings) (timestamp : Int64) (table : ProcessTable)
    (watch : Watch) :
    contribution context timestamp table watch = contribution other timestamp table watch ∧
      refusal? context timestamp table watch = refusal? other timestamp table watch := by
  have points (report : ProcessReport) (id : Nat) :=
    (report.steady_points timestamp (watch.tagsOf id)).result context other same
  refine ⟨funext fun entry => ?_, funext fun entry => ?_⟩
  · rw [contribution, contribution]
    split
    · rfl
    · rw [points]
  · rw [refusal?, refusal?]
    split
    · rfl
    · rw [points]

/-- What is reported depends on the entry's name alone. -/
theorem contribution_congr {other : Watch} (same : watch.settings = other.settings)
    (context : Context) (timestamp : Int64) (table : ProcessTable) :
    contribution context timestamp table watch = contribution context timestamp table other ∧
      refusal? context timestamp table watch = refusal? context timestamp table other := by
  have tagsOf : watch.tagsOf = other.tagsOf := by
    funext id
    rw [Watch.tagsOf, Watch.tagsOf, tags, tags, name_of_settings same]
  refine ⟨funext fun entry => ?_, funext fun entry => ?_⟩
  · rw [contribution, contribution, tagsOf]
  · rw [refusal?, refusal?, tagsOf]

theorem contribution_of_unreadable (context : Context) (timestamp : Int64) (watch : Watch)
    {entry : Tracked} (unreadable : isReadable table entry.pid = false) :
    contribution context timestamp table watch entry = [] ∧
      refusal? context timestamp table watch entry = none := by
  have missing : (table entry.pid).report? = none := by simpa [isReadable] using unreadable
  rw [contribution, refusal?, missing]
  exact ⟨rfl, rfl⟩

/-! ### The walk over the processes -/

/-- One visit adds the points of a process, or its failure, and changes the metadata alone. -/
theorem visit_snd (cleanable : ∃ cleaned, clean watch.name = .ok cleaned) (fits : Fits table)
    {cycle : Cycle} (valid : cycle.context.IsValid) (timestamp : Int64) (entry : Tracked) :
    ∃ metadata, (visit timestamp table (watch, cycle) entry).2 =
      ⟨{ cycle.context with metadata := metadata },
        cycle.batch ++ contribution cycle.context timestamp table watch entry,
        (refusal? cycle.context timestamp table watch entry).or cycle.failure⟩ := by
  unfold visit contribution refusal?
  cases read : (table entry.pid).report? with
  | none => exact ⟨cycle.context.metadata, by simp⟩
  | some report =>
    obtain ⟨metadata, points⟩ := points_of_report cleanable fits valid timestamp read
    refine ⟨metadata, ?_⟩
    dsimp only
    rw [points]
    cases report.readings (watch.tagsOf entry.id) with
    | error failure =>
      show Cycle.mk _ _ _ = Cycle.mk _ (cycle.batch ++ []) _
      rw [List.append_nil]
      rfl
    | ok readings => rfl

/-- The walk adds the points of all processes in its order. The last failure counts. -/
theorem foldl_visit_snd (cleanable : ∃ cleaned, clean watch.name = .ok cleaned)
    (fits : Fits table) (timestamp : Int64) (entries : List Tracked) {cycle : Cycle}
    (valid : cycle.context.IsValid) :
    ∃ metadata, (entries.foldl (visit timestamp table) (watch, cycle)).2 =
      ⟨{ cycle.context with metadata := metadata },
        cycle.batch ++ entries.flatMap (contribution cycle.context timestamp table watch),
        (entries.filterMap (refusal? cycle.context timestamp table watch)).getLast?.or
          cycle.failure⟩ := by
  induction entries generalizing watch cycle with
  | nil => exact ⟨cycle.context.metadata, by simp⟩
  | cons entry rest inductionHypothesis =>
    obtain ⟨metadata, visited⟩ := visit_snd cleanable fits valid timestamp entry
    -- The rest of the walk starts from a smaller entry and a changed context. What it reports is
    -- the same, because it sees only the settings of both.
    have settings := settings_visit timestamp table (watch, cycle) entry
    have name := name_of_settings settings
    rw [List.foldl_cons]
    generalize visit timestamp table (watch, cycle) entry = state at visited settings name
    obtain ⟨now, visitedCycle⟩ := state
    dsimp only at visited settings name
    have same : visitedCycle.context.settings = cycle.context.settings := by
      rw [visited]
      rfl
    obtain ⟨final, later⟩ := inductionHypothesis (by rwa [name]) (valid.congr same)
    obtain ⟨nowPoints, nowFailures⟩ := contribution_congr settings visitedCycle.context timestamp
      table
    obtain ⟨points, failures⟩ := contribution_of_context same timestamp table watch
    refine ⟨final, ?_⟩
    rw [later, nowPoints, nowFailures, points, failures, visited]
    dsimp only
    rw [List.flatMap_cons, List.append_assoc]
    refine congrArg (Cycle.mk _ _) ?_
    cases refused : refusal? cycle.context timestamp table watch entry with
    | none => rw [List.filterMap_cons_none refused, Option.none_or]
    | some failure =>
      rw [List.filterMap_cons_some refused, List.getLast?_cons, Option.some_or]
      cases (rest.filterMap (refusal? cycle.context timestamp table watch)).getLast? <;> rfl

/-- Nothing is lost when the processes that cannot be read are left out. -/
theorem filter_isReadable (context : Context) (timestamp : Int64) (table : ProcessTable)
    (watch : Watch) (entries : List Tracked) :
    (entries.filter fun entry => isReadable table entry.pid).flatMap
          (contribution context timestamp table watch) =
        entries.flatMap (contribution context timestamp table watch) ∧
      (entries.filter fun entry => isReadable table entry.pid).filterMap
          (refusal? context timestamp table watch) =
        entries.filterMap (refusal? context timestamp table watch) := by
  induction entries with
  | nil => exact ⟨rfl, rfl⟩
  | cons entry rest inductionHypothesis =>
    obtain ⟨points, failures⟩ := inductionHypothesis
    cases readable : isReadable table entry.pid with
    | true =>
      rw [List.filter_cons_of_pos (by simp [readable]), List.flatMap_cons, List.flatMap_cons,
        List.filterMap_cons, List.filterMap_cons, points, failures]
      exact ⟨rfl, rfl⟩
    | false =>
      obtain ⟨noPoint, noFailure⟩ := contribution_of_unreadable context timestamp watch readable
      rw [List.filter_cons_of_neg (by simp [readable]), List.flatMap_cons, noPoint,
        List.filterMap_cons_none noFailure]
      exact ⟨points, failures⟩

theorem names_countReading (fits : watch.size < UInt64.size) :
    watch.countReading.Names watch.name := by
  have metric : isCanonical "linux.proc.count" = true := by decide +kernel
  exact ⟨metric, Value.isFinite_ofNat fits, watch.names_tags⟩

/-- The count adds its point and sets the gauge of the entry. -/
theorem count_eq (cleanable : ∃ cleaned, clean watch.name = .ok cleaned)
    (fits : watch.size < UInt64.size) (timestamp : Int64) {cycle : Cycle}
    (valid : cycle.context.IsValid) :
    ∃ metadata, watch.count timestamp cycle =
      ⟨{ cycle.context with
          metadata := metadata
          health := cycle.context.health.setWatched watch.name watch.size },
        cycle.batch ++ [countPoint cycle.context timestamp watch], cycle.failure⟩ := by
  have stillValid : ({ cycle.context with
      health := cycle.context.health.setWatched watch.name watch.size } : Context).IsValid :=
    ⟨valid.hostname, valid.defaultTags⟩
  obtain ⟨metadata, added⟩ :=
    stillValid.add_eq (clean_name cleanable) (names_countReading fits) cycle.batch timestamp
  refine ⟨metadata, ?_⟩
  rw [count]
  dsimp only
  rw [added]
  rfl

/-- A cycle adds the points about an entry and its last failure, and sets the gauge. -/
theorem Consistent.report_snd (consistent : watch.Consistent)
    (cleanable : ∃ cleaned, clean watch.name = .ok cleaned) (fits : Fits table)
    {processes : List RunningProcess} (fewer : processes.length < UInt64.size) (timestamp : Int64)
    {cycle : Cycle} (valid : cycle.context.IsValid) :
    ∃ metadata, (watch.report timestamp processes table cycle).2 =
      ⟨{ cycle.context with
          metadata := metadata
          health := cycle.context.health.setWatched watch.name
            (watch.reported processes table).size },
        cycle.batch ++
          entryPoints cycle.context timestamp table (watch.reported processes table),
        (refusals cycle.context timestamp table
          (watch.reported processes table)).getLast?.or cycle.failure⟩ := by
  have checkedName : (watch.check processes).name = watch.name :=
    name_of_settings (settings_check watch processes)
  have afterName : (watch.reported processes table).name = watch.name :=
    name_of_settings (settings_reported watch processes table)
  have settings : (watch.reported processes table).settings = (watch.check processes).settings :=
    settings_foldl_remove _ _
  obtain ⟨metadata, walked⟩ := foldl_visit_snd (by rwa [checkedName]) fits timestamp
    (watch.check processes).tracked valid
  have stillValid : (((watch.check processes).tracked.foldl (visit timestamp table)
      (watch.check processes, cycle)).2).context.IsValid := by
    rw [walked]
    exact ⟨valid.hostname, valid.defaultTags⟩
  have size : (watch.reported processes table).size < UInt64.size :=
    Nat.lt_of_le_of_lt (consistent.size_reported_le processes table) fewer
  obtain ⟨final, counted⟩ := count_eq (by rwa [afterName]) size timestamp stillValid
  obtain ⟨points, failures⟩ := filter_isReadable cycle.context timestamp table
    (watch.check processes) (watch.check processes).tracked
  obtain ⟨samePoints, sameFailures⟩ := contribution_congr settings cycle.context timestamp table
  refine ⟨final, ?_⟩
  have split : (watch.report timestamp processes table cycle).2 =
      (watch.reported processes table).count timestamp
        ((watch.check processes).tracked.foldl (visit timestamp table)
          (watch.check processes, cycle)).2 := by
    rw [← report_fst timestamp processes table watch cycle]
    rfl
  rw [split, counted, walked, entryPoints, refusals, Watch.reported, tracked_dropUnreadable,
    ← Watch.reported, samePoints, sameFailures, points, failures, afterName,
    List.append_assoc]
  rfl

end Watch

end Telemetry
