/-
This file says that what a collector gives depends on the settings of the context alone.

All collectors share one context, and everything they do changes its counters and its metadata. None
of that is ever read while points are made: only the host's name and the default tags are, and these
stay as they are. Work of this kind is called steady. It is put together from steady parts, so a run
of any source is steady. A whole tick does one thing more: it counts a failed run. Restarts are not
counted by any of it.
-/

import Telemetry.Collector.Interval
import Telemetry.Proofs.ProcessReport

namespace Telemetry

namespace Context

/-- What of a context stays as it is while collectors work. -/
def settings (context : Context) : String × TagSet × Nat × Bool :=
  (context.hostname, context.defaultTags, context.frequency, context.collectorStats)

theorem collectorStats_of_settings {context other : Context}
    (same : context.settings = other.settings) : context.collectorStats = other.collectorStats :=
  congrArg (·.2.2.2) same

/-- The work reads the settings alone and keeps them, and it counts no failed runs and no restarts.
-/
structure Steady {Result : Type} (work : Context → Context × Result) : Prop where
  settings : ∀ context, (work context).1.settings = context.settings
  failures : ∀ context, (work context).1.health.failures = context.health.failures
  restarts : ∀ context, (work context).1.health.restarts = context.health.restarts
  result : ∀ context other, context.settings = other.settings → (work context).2 = (work other).2

/-! ### Putting steady work together -/

theorem steady_pure {Result : Type} (result : Result) : Steady fun context => (context, result) :=
  ⟨fun _ => rfl, fun _ => rfl, fun _ => rfl, fun _ _ _ => rfl⟩

/-- Steady work after steady work, from whose result it may go on. -/
theorem Steady.andThen {First Second : Type} {first : Context → Context × First}
    {second : First → Context → Context × Second} (steady : Steady first)
    (later : ∀ result, Steady (second result)) :
    Steady fun context => second (first context).2 (first context).1 where
  settings context := ((later _).settings _).trans (steady.settings context)
  failures context := ((later _).failures _).trans (steady.failures context)
  restarts context := ((later _).restarts _).trans (steady.restarts context)
  result context other same := by
    have settings : (first context).1.settings = (first other).1.settings := by
      rw [steady.settings, steady.settings, same]
    rw [steady.result context other same]
    exact (later _).result _ _ settings

/-- Changing the result of steady work. -/
theorem Steady.map {First Second : Type} {first : Context → Context × First} (steady : Steady first)
    (change : First → Second) :
    Steady fun context => ((first context).1, change (first context).2) :=
  steady.andThen fun result => steady_pure (change result)

/-- Steady work on every element of a list, one after the other. -/
theorem steady_foldl {Element Result : Type} {work : Element → Context × Result → Context × Result}
    (steady : ∀ element result, Steady fun context => work element (context, result))
    (elements : List Element) (result : Result) :
    Steady fun context => elements.foldl (fun state element => work element state)
      (context, result) := by
  induction elements generalizing result with
  | nil => exact steady_pure result
  | cons element rest inductionHypothesis =>
    exact (steady element result).andThen inductionHypothesis

/-! ### Readings and fields -/

theorem resolve_congr {context other : Context} (same : context.settings = other.settings)
    (tags : TagSet) : context.resolve tags = other.resolve tags := by
  obtain ⟨hostname, rest⟩ := Prod.mk.inj same
  obtain ⟨defaultTags, _⟩ := Prod.mk.inj rest
  rw [resolve, resolve, hostname, defaultTags]

/-- Valid settings stay valid. -/
theorem IsValid.congr {context other : Context} (valid : context.IsValid)
    (same : other.settings = context.settings) : other.IsValid := by
  obtain ⟨hostname, rest⟩ := Prod.mk.inj same
  obtain ⟨defaultTags, _⟩ := Prod.mk.inj rest
  exact ⟨hostname ▸ valid.hostname, defaultTags ▸ valid.defaultTags⟩

theorem canonicalize_congr {context other : Context} (same : context.settings = other.settings)
    (metric : String) (timestamp : Int64) (value : Value) (tags : TagSet) :
    context.canonicalize metric timestamp value tags =
      other.canonicalize metric timestamp value tags := by
  rw [canonicalize, canonicalize, resolve_congr same]

theorem steady_add (batch : List Point) (timestamp : Int64) (reading : Reading) :
    Steady fun context => context.add batch timestamp reading where
  settings context := by
    simp only [add, accept]
    cases context.canonicalize reading.metric timestamp reading.value reading.tags <;> rfl
  failures context := by
    simp only [add, accept]
    cases context.canonicalize reading.metric timestamp reading.value reading.tags <;> rfl
  restarts context := by
    simp only [add, accept]
    cases context.canonicalize reading.metric timestamp reading.value reading.tags <;> rfl
  result context other same := by
    simp only [add, accept, canonicalize_congr same]
    cases other.canonicalize reading.metric timestamp reading.value reading.tags <;> rfl

theorem steady_addAll (batch : List Point) (timestamp : Int64) (readings : List Reading) :
    Steady fun context => context.addAll batch timestamp readings :=
  @steady_foldl _ _ (fun reading state => state.1.add state.2 timestamp reading)
    (fun reading batch => steady_add batch timestamp reading) readings batch

theorem steady_addFields (batch : List Point) (timestamp : Int64) (fields : List Field) :
    Steady fun context => context.addFields batch timestamp fields := by
  induction fields generalizing batch with
  | nil => exact steady_pure (Except.ok batch)
  | cons field rest inductionHypothesis =>
    cases read : field.reading with
    | error unreadable =>
      simp only [addFields, read]
      exact steady_pure _
    | ok reading =>
      simp only [addFields, read]
      exact (steady_add batch timestamp reading).andThen inductionHypothesis

end Context

open Context

theorem LoadAverage.steady_points (timestamp : Int64) (text : String) :
    Steady fun context => LoadAverage.points context timestamp text := by
  cases cut : fieldsOf text with
  | error failure =>
    simp only [points, cut]
    exact steady_pure _
  | ok fields =>
    simp only [points, cut]
    exact (steady_addFields [] timestamp fields).map _

/-- What follows the fields of a process: the count of its open files, when all of them could be
read. -/
def ProcessReport.openFilesAfter (report : ProcessReport) (timestamp : Int64) (tags : TagSet) :
    Except Unreadable (List Point) → Context → Context × Except ReportFailure (List Point)
  | .error unreadable, context =>
    (context, .error (.number unreadable.field.text unreadable.refusal))
  | .ok batch, context =>
    ((context.add batch timestamp (openFilesReading tags report.openFiles)).1,
      .ok (context.add batch timestamp (openFilesReading tags report.openFiles)).2)

theorem ProcessReport.steady_openFilesAfter (report : ProcessReport) (timestamp : Int64)
    (tags : TagSet) (outcome : Except Unreadable (List Point)) :
    Steady (report.openFilesAfter timestamp tags outcome) := by
  cases outcome with
  | error unreadable => exact steady_pure _
  | ok batch => exact (steady_add batch timestamp _).map Except.ok

theorem ProcessReport.steady_points (report : ProcessReport) (timestamp : Int64) (tags : TagSet) :
    Steady fun context => report.points context timestamp tags := by
  cases cut : report.fields tags with
  | error failure =>
    simp only [points, cut]
    exact steady_pure _
  | ok fields =>
    convert (steady_addFields [] timestamp fields).andThen
      (report.steady_openFilesAfter timestamp tags) using 2 with context
    simp only [points, cut]
    generalize context.addFields [] timestamp fields = outcome
    obtain ⟨_, _ | _⟩ := outcome <;> rfl

/-! ### Watched processes -/

namespace Watch

/-- What a part of a cycle gives, next to the context: its own result, the points and the failure.
-/
def Cycle.opened {Result : Type} (outcome : Result × Cycle) :
    Context × (Result × List Point × Option CycleFailure) :=
  (outcome.2.context, outcome.1, outcome.2.batch, outcome.2.failure)

theorem steady_visit (timestamp : Int64) (table : ProcessTable) (entry : Tracked) (watch : Watch)
    (batch : List Point) (failure : Option CycleFailure) :
    Steady fun context =>
      Cycle.opened (visit timestamp table (watch, ⟨context, batch, failure⟩) entry) := by
  unfold visit
  cases (table entry.pid).report? with
  | none => exact steady_pure (watch.remove entry.pid, batch, failure)
  | some report =>
    convert (report.steady_points timestamp (watch.tagsOf entry.id)).map fun
      | .ok points => (watch, batch ++ points, failure)
      | .error refused => (watch, batch, some ⟨entry.pid, refused⟩) using 2 with context
    dsimp only
    generalize report.points context timestamp (watch.tagsOf entry.id) = outcome
    obtain ⟨_, _ | _⟩ := outcome <;> rfl

theorem steady_visits (timestamp : Int64) (table : ProcessTable) (entries : List Tracked)
    (watch : Watch) (batch : List Point) (failure : Option CycleFailure) :
    Steady fun context =>
      Cycle.opened (entries.foldl (visit timestamp table) (watch, ⟨context, batch, failure⟩)) := by
  induction entries generalizing watch batch failure with
  | nil => exact steady_pure (watch, batch, failure)
  | cons entry rest inductionHypothesis =>
    exact (steady_visit timestamp table entry watch batch failure).andThen fun result =>
      inductionHypothesis result.1 result.2.1 result.2.2

theorem steady_gauge (name : String) (count : Nat) :
    Steady fun context => ({ context with health := context.health.setWatched name count }, ()) :=
  ⟨fun _ => rfl, fun _ => rfl, fun _ => rfl, fun _ _ _ => rfl⟩

theorem steady_count (timestamp : Int64) (watch : Watch) (batch : List Point)
    (failure : Option CycleFailure) :
    Steady fun context =>
      Cycle.opened ((), watch.count timestamp ⟨context, batch, failure⟩) :=
  (steady_gauge watch.name watch.size).andThen fun _ =>
    (steady_add batch timestamp watch.countReading).map fun batch => ((), batch, failure)

theorem steady_report (timestamp : Int64) (processes : List RunningProcess) (table : ProcessTable)
    (watch : Watch) (batch : List Point) (failure : Option CycleFailure) :
    Steady fun context =>
      Cycle.opened (watch.report timestamp processes table ⟨context, batch, failure⟩) :=
  (steady_visits timestamp table (watch.check processes).tracked (watch.check processes) batch
    failure).andThen fun result =>
      (steady_count timestamp result.1 result.2.1 result.2.2).map fun counted =>
        (result.1, counted.2)

theorem steady_reportAll (timestamp : Int64) (processes : List RunningProcess)
    (tables : Nat → ProcessTable) (watches : List Watch) (batch : List Point)
    (failure : Option CycleFailure) :
    Steady fun context =>
      Cycle.opened (reportAll timestamp processes tables watches ⟨context, batch, failure⟩) := by
  induction watches generalizing tables batch failure with
  | nil => exact steady_pure ([], batch, failure)
  | cons watch rest inductionHypothesis =>
    exact (steady_report timestamp processes (tables 0) watch batch failure).andThen fun result =>
      (inductionHypothesis (fun index => tables (index + 1)) result.2.1 result.2.2).map fun later =>
        (result.1 :: later.1, later.2)

end Watch

/-! ### Sources and ticks -/

/-- What a run gives, next to the context. -/
def Collected.opened (collected : Collected) : Context × (Source × List Point × Ending) :=
  (collected.context, collected.source, collected.batch, collected.ending)

namespace Source

theorem steady_append (timestamp : Int64) (addition : Addition) (batch : List Point) :
    Steady fun context => append timestamp (context, batch) addition := by
  cases addition with
  | reading reading => exact steady_add batch timestamp reading
  | raw point => exact steady_pure (batch ++ [point])

/-- A run of any source is steady. -/
theorem steady_run (source : Source) (number : Nat) (timestamp : Int64)
    (surroundings : Surroundings) :
    Steady fun context => (source.run number context timestamp surroundings).opened := by
  unfold run
  cases source with
  | fake count =>
    exact (steady_addAll [] timestamp (fakeReadings count)).map fun batch =>
      (Source.fake count, batch, Ending.succeeded)
  | loadAverage =>
    cases surroundings.loadAverage with
    | none => exact steady_pure (Source.loadAverage, [], Ending.failed)
    | some text =>
      convert (LoadAverage.steady_points timestamp text).map fun
        | .ok batch => (Source.loadAverage, batch, Ending.succeeded)
        | .error _ => (Source.loadAverage, [], Ending.failed) using 2 with context
      dsimp only
      generalize LoadAverage.points context timestamp text = outcome
      obtain ⟨_, _ | _⟩ := outcome <;> rfl
  | processes watches =>
    exact (Watch.steady_reportAll timestamp surroundings.processes (fun _ => surroundings.files)
      watches [] none).map fun result =>
        (Source.processes result.1, result.2.1, endingOf result.2.2)
  | script runs =>
    exact (@steady_foldl _ _ (fun addition state => append timestamp state addition)
      (fun addition batch => steady_append timestamp addition batch) (runs number).additions
      []).map fun batch => (Source.script runs, batch, (runs number).ending)

end Source

/-- What an attempt gives, next to the context. -/
def Attempt.opened (attempt : Attempt) :
    Context × (Source × Nat × List Point × Ending × List Call) :=
  (attempt.context, attempt.source, attempt.runs, attempt.batch, attempt.ending, attempt.calls)

/-- What a tick gives, next to the context. -/
def Tick.result (tick : Tick) : IntervalState × List Point × Option Bool × List Call :=
  (tick.state, tick.batch, tick.failed, tick.calls)

/-- The failures counted after a tick, from those before. -/
def Tick.countIn (tick : Tick) (name : String) (failures : Table Nat) : Table Nat :=
  if tick.failed = some true then failures.increase name 1 else failures

namespace IntervalState

theorem steady_attempt (source : Source) (preparation : Option Ending) (runs : Nat)
    (timestamp : Int64) (surroundings : Surroundings) :
    Steady fun context =>
      (attempt source preparation runs context timestamp surroundings).opened := by
  unfold attempt
  dsimp only
  split
  · rename_i payload _
    exact steady_pure
      (source, runs, [], Ending.panicked payload, preparation.toList.map Call.prepare)
  · exact (source.steady_run runs timestamp surroundings).map fun result =>
      (result.1, runs + 1, result.2.1, result.2.2,
        preparation.toList.map Call.prepare ++ [.run runs])

section

variable (state : IntervalState) (timestamp : Int64) (surroundings : Surroundings)

theorem settings_collect (context : Context) :
    (state.collect context timestamp surroundings).context.settings = context.settings := by
  unfold collect
  cases state.source with
  | none => rfl
  | some source =>
    exact (steady_attempt source state.preparation state.runs timestamp surroundings).settings
      context

theorem failures_collect (context : Context) :
    (state.collect context timestamp surroundings).context.health.failures =
      (state.collect context timestamp surroundings).countIn state.name
        context.health.failures := by
  unfold collect
  cases state.source with
  | none => rfl
  | some source =>
    have kept := (steady_attempt source state.preparation state.runs timestamp
      surroundings).failures context
    simp only [Attempt.opened] at kept
    simp only [Tick.countIn, Health.countRun, Option.some.injEq, kept]

theorem restarts_collect (context : Context) :
    (state.collect context timestamp surroundings).context.health.restarts =
      context.health.restarts := by
  unfold collect
  cases state.source with
  | none => rfl
  | some source =>
    exact (steady_attempt source state.preparation state.runs timestamp surroundings).restarts
      context

theorem collect_congr {context other : Context} (same : context.settings = other.settings) :
    (state.collect context timestamp surroundings).result =
      (state.collect other timestamp surroundings).result := by
  unfold collect
  cases state.source with
  | none => rfl
  | some source =>
    have both := (steady_attempt source state.preparation state.runs timestamp
      surroundings).result context other same
    simp only [Attempt.opened, Prod.mk.injEq] at both
    obtain ⟨source, runs, batch, ending, calls⟩ := both
    simp only [Tick.result, Attempt.returned?, source, runs, batch, ending, calls]

/-- A tick keeps the settings. -/
theorem settings_tick (context : Context) :
    (state.tick context timestamp surroundings).context.settings = context.settings := by
  unfold tick
  split
  · rfl
  · exact state.asked.settings_collect timestamp surroundings context

theorem collector_asked : state.asked.collector = state.collector := by
  unfold asked
  split <;> rfl

theorem collector_collect (context : Context) :
    (state.collect context timestamp surroundings).state.collector = state.collector := by
  unfold collect
  split <;> rfl

/-- A tick keeps the collector. -/
theorem collector_tick (context : Context) :
    (state.tick context timestamp surroundings).state.collector = state.collector := by
  unfold tick
  split
  · exact state.collector_asked
  · exact (state.asked.collector_collect timestamp surroundings context).trans state.collector_asked

theorem name_tick (context : Context) :
    (state.tick context timestamp surroundings).state.name = state.name :=
  congrArg IntervalCollector.name (state.collector_tick timestamp surroundings context)

/-- A tick counts a failed run of its collector when it has failed. -/
theorem failures_tick (context : Context) :
    (state.tick context timestamp surroundings).context.health.failures =
      (state.tick context timestamp surroundings).countIn state.name context.health.failures := by
  unfold tick
  split
  · rfl
  · have failures := state.asked.failures_collect timestamp surroundings context
    rwa [name, state.collector_asked] at failures

/-- A tick counts no restart. -/
theorem restarts_tick (context : Context) :
    (state.tick context timestamp surroundings).context.health.restarts =
      context.health.restarts := by
  unfold tick
  split
  · rfl
  · exact state.asked.restarts_collect timestamp surroundings context

/-- What a tick gives depends on the settings alone. -/
theorem tick_congr {context other : Context} (same : context.settings = other.settings) :
    (state.tick context timestamp surroundings).result =
      (state.tick other timestamp surroundings).result := by
  unfold tick
  split
  · rfl
  · have both := state.asked.collect_congr timestamp surroundings same
    simp only [Tick.result, Prod.mk.injEq] at both ⊢
    obtain ⟨state, batch, failed, calls⟩ := both
    exact ⟨state, batch, failed, by rw [calls]⟩

end

end IntervalState

end Telemetry
