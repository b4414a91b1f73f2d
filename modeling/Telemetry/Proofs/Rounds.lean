/-
This file says what the cycles over a watch list do, one after the other.

What a cycle leaves of the entries does not depend on what is reported, so the processes that the
entries watch can be followed through any cycles at all. What a cycle reports is then said for every
list that cycles can lead to, whatever the listing and the files are.
-/

import Telemetry.Proofs.WatchList

namespace Telemetry

/-- What one cycle meets: the context and the moment, the listing, and the files as they are when an
entry is reported on. -/
structure Round where
  context : Context
  timestamp : Int64
  processes : List RunningProcess
  tables : Nat → ProcessTable

namespace Round

/-- The cycle over a watch list. -/
def collect (round : Round) (watches : List Watch) : List Watch × Watch.Cycle :=
  Watch.collectFrom watches round.context round.timestamp round.processes round.tables

/-- A watch list after some cycles. -/
def collectAll (watches : List Watch) (rounds : List Round) : List Watch :=
  rounds.foldl (fun watches round => (round.collect watches).1) watches

/-- The context was set up with valid settings, and sixty-four bits hold the count of processes in
the listing and every count of open files. -/
structure IsValid (round : Round) : Prop where
  context : round.context.IsValid
  processes : round.processes.length < UInt64.size
  tables : ∀ index, Watch.Fits (round.tables index)

theorem collect_fst (round : Round) (watches : List Watch) :
    (round.collect watches).1 = Watch.reportedAll round.processes round.tables watches :=
  Watch.reportAll_fst round.timestamp round.processes round.tables watches _

/-! ### The entries through all cycles -/

/-- A cycle keeps the settings of the entries. -/
theorem settings_collect (round : Round) (watches : List Watch) :
    (round.collect watches).1.map Watch.settings = watches.map Watch.settings := by
  refine List.ext_getElem? fun index => ?_
  rw [collect_fst, List.getElem?_map, List.getElem?_map, Watch.reportedAll, List.getElem?_mapIdx]
  cases watches[index]? with
  | none => rfl
  | some watch => exact congrArg some (Watch.settings_reported _ _ _)

theorem settings_collectAll (watches : List Watch) (rounds : List Round) :
    (collectAll watches rounds).map Watch.settings = watches.map Watch.settings := by
  induction rounds generalizing watches with
  | nil => rfl
  | cons round rest inductionHypothesis =>
    exact (inductionHypothesis (round.collect watches).1).trans (round.settings_collect watches)

theorem consistent_collect (round : Round) {watches : List Watch}
    (consistent : ∀ watch ∈ watches, watch.Consistent) :
    ∀ watch ∈ (round.collect watches).1, watch.Consistent := by
  intro watch member
  rw [collect_fst] at member
  obtain ⟨index, inList, rfl⟩ := List.mem_mapIdx.mp member
  exact (consistent _ (List.getElem_mem inList)).reported _ _

/-- All cycles keep the entries consistent. -/
theorem consistent_collectAll {watches : List Watch}
    (consistent : ∀ watch ∈ watches, watch.Consistent) (rounds : List Round) :
    ∀ watch ∈ collectAll watches rounds, watch.Consistent := by
  induction rounds generalizing watches with
  | nil => exact consistent
  | cons round rest inductionHypothesis =>
    exact inductionHypothesis (round.consistent_collect consistent)

/-! ### What a cycle does -/

/-- What a cycle does to the entries of a list, and what it reports. -/
structure Reports (round : Round) (before after : List Watch) (cycle : Watch.Cycle) : Prop where
  length : after.length = before.length
  /-- Every entry watches the processes that it names and whose files could all be read, and those
  that it watched before keep their numbers. -/
  kept : ∀ index (watch : Watch), before[index]? = some watch → ∃ now, after[index]? = some now ∧
    watch.Kept round.processes (round.tables index) now
  /-- An entry lists each process that it watches, in the order of the numbers. -/
  listed : ∀ now ∈ after, (now.tracked.map Tracked.id).Pairwise (· < ·) ∧
    ∀ pid number, ⟨pid, number⟩ ∈ now.tracked ↔ now.id? pid = some number
  /-- The points are those of the watched processes whose reports are accepted and the counts. -/
  points : cycle.batch = Watch.allPoints round.context round.timestamp round.tables after
  /-- A report that is accepted gives all points of its process, each once. -/
  complete : ∀ index (now : Watch), after[index]? = some now →
    ∀ entry ∈ now.tracked, ∀ report points,
    (round.tables index entry.pid).report? = some report →
    (report.points round.context round.timestamp (now.tagsOf entry.id)).2 = .ok points →
    report.Complete round.context now entry.id points
  /-- Every entry contributes one count, which is the number of processes it watches. -/
  counts : ((cycle.batch.filter Watch.isCount).map fun point =>
      (point.tags.get? "name", point.value)) =
    after.map fun now => (some now.label, Value.ofNat now.size)
  /-- The gauge of a name shows the number of processes of the last entry with that name. -/
  gauges : ∀ name, cycle.context.health.watched.get? name =
    ((after.filter fun now => now.name = name).getLast?.map Watch.size).or
      (round.context.health.watched.get? name)
  /-- The cycle fails when the report of a watched process is refused. -/
  fails : cycle.failure.isSome ↔ ∃ index, ∃ now : Watch, after[index]? = some now ∧
    ∃ entry ∈ now.tracked, ∃ report failure,
      (round.tables index entry.pid).report? = some report ∧
      (report.points round.context round.timestamp (now.tagsOf entry.id)).2 = .error failure
  /-- It fails with the last such process. -/
  last : cycle.failure =
    (Watch.allRefusals round.context round.timestamp round.tables after).getLast?

/-- What a cycle does to a list of consistent entries. -/
theorem reports_of_consistent {round : Round} (valid : round.IsValid) {watches : List Watch}
    (consistent : ∀ watch ∈ watches, watch.Consistent)
    (cleanable : ∀ watch ∈ watches, ∃ cleaned, clean watch.name = .ok cleaned) :
    round.Reports watches (round.collect watches).1 (round.collect watches).2 := by
  have consistentAfter := round.consistent_collect consistent
  have cleanableAfter : ∀ watch ∈ (round.collect watches).1,
      ∃ cleaned, clean watch.name = .ok cleaned := by
    intro watch member
    rw [collect_fst] at member
    obtain ⟨index, inList, rfl⟩ := List.mem_mapIdx.mp member
    rw [Watch.name_of_settings (Watch.settings_reported _ _ _)]
    exact cleanable _ (List.getElem_mem inList)
  have start : (⟨round.context, [], none⟩ : Watch.Cycle).context.IsValid := valid.context
  obtain ⟨metadata, reported⟩ := Watch.reportAll_snd consistent cleanable valid.tables
    valid.processes round.timestamp start
  have cycle : (round.collect watches).2 = ⟨{ round.context with
      metadata := metadata
      health := Watch.gauged round.context.health (round.collect watches).1 },
      Watch.allPoints round.context round.timestamp round.tables (round.collect watches).1,
      (Watch.allRefusals round.context round.timestamp round.tables
        (round.collect watches).1).getLast?⟩ := by
    rw [collect_fst]
    exact reported.trans (by rw [List.nil_append, Option.or_none])
  generalize (round.collect watches).2 = result at cycle
  subst cycle
  refine ⟨?_, fun index watch found => ?_, fun now member => ⟨?_, fun pid number => ?_⟩, rfl,
    fun index now found entry member report points read accepted => ?_, ?_,
    Watch.watched_gauged _ _, ?_, rfl⟩
  · rw [collect_fst, Watch.reportedAll, List.length_mapIdx]
  · refine ⟨watch.reported round.processes (round.tables index), ?_,
      (consistent watch (List.mem_of_getElem? found)).kept _ _⟩
    rw [collect_fst, Watch.reportedAll, List.getElem?_mapIdx, found]
    rfl
  · exact (consistentAfter now member).ascending
  · exact (consistentAfter now member).id?_eq_some_iff.symm
  · exact Watch.complete_contribution (cleanableAfter now (List.mem_of_getElem? found))
      (valid.tables index) valid.context round.timestamp read accepted
  · rw [Watch.filter_isCount_allPoints valid.context round.timestamp cleanableAfter valid.tables,
      List.map_map]
    refine List.map_congr_left fun now _ => ?_
    exact Prod.ext (Watch.get?_name_countPoint _ _ now) rfl
  · rw [List.getLast?_isSome]
    constructor
    · intro nonempty
      obtain ⟨failure, member⟩ := List.exists_mem_of_ne_nil _ nonempty
      obtain ⟨index, now, found, entry, inTracked, refused⟩ := Watch.mem_allRefusals.mp member
      obtain ⟨_, report, read, given⟩ := Watch.refusal?_eq_some_iff.mp refused
      exact ⟨index, now, found, entry, inTracked, report, failure.failure, read, given⟩
    · rintro ⟨index, now, found, entry, inTracked, report, failure, read, given⟩
      have refused : ⟨entry.pid, failure⟩ ∈ Watch.allRefusals round.context round.timestamp
          round.tables (round.collect watches).1 :=
        Watch.mem_allRefusals.mpr ⟨index, now, found, entry, inTracked,
          Watch.refusal?_eq_some_iff.mpr ⟨rfl, report, read, given⟩⟩
      exact List.ne_nil_of_mem refused

/-- After any cycles over a watch list, the next one keeps and reports exactly what it should. -/
theorem reports_of_rounds {settings : List (String × String × Pattern)}
    (cleanable : ∀ entry ∈ settings, ∃ cleaned, clean entry.1 = .ok cleaned) (past : List Round)
    {round : Round} (valid : round.IsValid) :
    round.Reports (collectAll (settings.map Watch.fresh) past)
      (round.collect (collectAll (settings.map Watch.fresh) past)).1
      (round.collect (collectAll (settings.map Watch.fresh) past)).2 := by
  have fresh : ∀ watch ∈ settings.map Watch.fresh, watch.Consistent := by
    intro watch member
    obtain ⟨entry, _, rfl⟩ := List.mem_map.mp member
    exact Watch.consistent_of_fresh entry
  refine reports_of_consistent valid (consistent_collectAll fresh past) fun watch member => ?_
  have same : (collectAll (settings.map Watch.fresh) past).map Watch.settings = settings := by
    rw [settings_collectAll, List.map_map]
    exact List.map_id settings
  have listed : watch.settings ∈ settings := by
    rw [← same]
    exact List.mem_map.mpr ⟨watch, member, rfl⟩
  exact cleanable watch.settings listed

/-- Files that can be understood for the process 7 and not for the process 8. Those of all others
cannot be read. -/
def serverFiles : ProcessTable := fun pid =>
  let counters := "a: 1\nb: 2\nc: 3\nd: 4\ne: 5\nf: 6\n"
  let state := "(server) S 1 1 1 0 -1 0 7 0 8 0 9 10 0 0 20 0 1 0 100 11 12 0"
  if pid = 7 then ⟨some state, some counters, some "", some 5⟩
  else if pid = 8 then ⟨some "(server) Z", some counters, some "", some 0⟩
  else ⟨none, none, none, none⟩

/-- A cycle whose listing shows servers with these process ids. -/
def serverRound (pids : List Nat) : Round :=
  ⟨Context.new "web", 0, pids.map fun pid => ⟨pid, "/bin/server", ""⟩, fun _ => serverFiles⟩

theorem isValid_serverRound {pids : List Nat} (fewer : pids.length < UInt64.size) :
    (serverRound pids).IsValid := by
  refine ⟨⟨⟨"web", rfl⟩, fun pair member => by cases member⟩, ?_, fun _ pid count found => ?_⟩
  · rw [serverRound, List.length_map]
    exact fewer
  · have counts : count = 5 ∨ count = 0 := by
      unfold serverRound serverFiles at found
      dsimp only at found
      split at found
      · exact .inl (Option.some.inj found).symm
      · split at found
        · exact .inr (Option.some.inj found).symm
        · cases found
    rcases counts with rfl | rfl
    · decide
    · decide

/-- The process 7 was there before and keeps its number. The process 8 gets the number that was
given back, has no point, and is what the cycle fails with. -/
theorem reports_of_serverRound :
    (∀ entry ∈ [("my server", "server", Pattern.empty)], ∃ cleaned, clean entry.1 = .ok cleaned) ∧
      (serverRound [8, 9, 7]).IsValid ∧
      (let before := collectAll ([("my server", "server", Pattern.empty)].map Watch.fresh)
        [serverRound [9, 7]]
      let result := (serverRound [8, 9, 7]).collect before
      (serverRound [8, 9, 7]).Reports before result.1 result.2 ∧
        before.map Watch.tracked = [[⟨7, 2⟩]] ∧ result.1.map Watch.tracked = [[⟨8, 1⟩, ⟨7, 2⟩]] ∧
        result.2.batch.length = 14 ∧ result.2.failure = some ⟨8, .stateTooShort⟩) := by
  have cleanable : ∀ entry ∈ [("my server", "server", Pattern.empty)],
      ∃ cleaned, clean entry.1 = .ok cleaned := by
    intro entry member
    rw [List.mem_singleton.mp member]
    have success : (clean "my server").toOption = some "myserver" := by decide +kernel
    cases cleaned : clean "my server" with
    | error refusal =>
      rw [cleaned] at success
      cases success
    | ok name => exact ⟨name, rfl⟩
  have valid : (serverRound [8, 9, 7]).IsValid := isValid_serverRound (by decide)
  refine ⟨cleanable, valid, reports_of_rounds cleanable [serverRound [9, 7]] valid, ?_⟩
  decide +kernel

end Round

end Telemetry
