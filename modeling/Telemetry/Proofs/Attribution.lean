/-
This file says which number of a process's counters goes to which series.

A line of two words is a counter: a key and a number. The keys are never looked at. The first six
counters give the six series in order, so a series has the number of its own key when the counters
begin with the six keys in the order of the kernel. The kernel writes seven counters. When one of
the first six is missing, or its line is not of two words, six are left, the report is accepted, and
every series from there on has the number of the next key.
-/

import Telemetry.Proofs.Readable

namespace Telemetry

namespace ProcessReport

/-! ### Counters and their series -/

/-- The key and the number of a line of two words. -/
def counterOf? (line : String) : Option (String × String) :=
  match words line with
  | [key, number] => some (key, number)
  | _ => none

/-- The counters of a text, in the order of their lines. -/
def counters (text : String) : List (String × String) := (lines text).filterMap counterOf?

/-- The keys of the kernel, in its order. -/
def counterKeys : List String :=
  ["rchar:", "wchar:", "syscr:", "syscw:", "read_bytes:", "write_bytes:",
   "cancelled_write_bytes:"]

/-- The series of the first six keys, each a metric and a type. -/
def counterSeries : List (String × String) :=
  [("linux.proc.char_io", "read"), ("linux.proc.char_io", "write"),
   ("linux.proc.syscall", "read"), ("linux.proc.syscall", "write"),
   ("linux.proc.io_bytes", "read"), ("linux.proc.io_bytes", "write")]

theorem ioFields_eq (text : String) : ioFields text = (counters text).map Prod.snd := by
  have second : secondOfTwo? = fun line => (counterOf? line).map Prod.snd := by
    funext line
    rw [secondOfTwo?, counterOf?]
    rcases words line with _ | ⟨key, _ | ⟨number, _ | ⟨third, rest⟩⟩⟩ <;> rfl
  rw [ioFields, counters, List.map_filterMap, second]

theorem nodup_counterSeries : counterSeries.Nodup := by decide

/-- The metrics and the types of the counters are canonical. -/
theorem isCanonical_counterSeries {series : String × String} (member : series ∈ counterSeries) :
    isCanonical series.1 = true ∧ isCanonical series.2 = true := by
  have all : ∀ series ∈ counterSeries,
      isCanonical series.1 = true ∧ isCanonical series.2 = true := by
    decide +kernel
  exact all series member

variable {report : ProcessReport} {context : Context} {timestamp : Int64} {tags : TagSet}
  {points : List Point}

/-! ### The fields of the counters -/

/-- The fields of the counters are those of their series, each with the text at its place. -/
theorem map_ioReadings (tags : TagSet) (text : Nat → String) :
    ((ioReadings tags text).map fun field => (field.metric, field.tags, field.text)) =
      counterSeries.mapIdx fun place series => (series.1, typed tags series.2, text place) := rfl

/-- The field of a counter is that of a series. -/
theorem exists_place_of_mem {text : Nat → String} {field : Field}
    (member : field ∈ ioReadings tags text) :
    ∃ place series, counterSeries[place]? = some series ∧ field.metric = series.1 ∧
      field.tags = typed tags series.2 ∧ field.text = text place := by
  have listed : (field.metric, field.tags, field.text) ∈
      (ioReadings tags text).map fun field => (field.metric, field.tags, field.text) :=
    List.mem_map.mpr ⟨field, member, rfl⟩
  rw [map_ioReadings, List.mem_mapIdx] at listed
  obtain ⟨place, inside, same⟩ := listed
  obtain ⟨metric, others⟩ := Prod.mk.inj same
  obtain ⟨fieldTags, fieldText⟩ := Prod.mk.inj others
  exact ⟨place, counterSeries[place], List.getElem?_eq_getElem inside, metric.symm,
    fieldTags.symm, fieldText.symm⟩

/-- No other field has the metric of a counter. -/
theorem metric_ne_of_mem {limits : Option (String × String)} {text : Nat → String} {field : Field}
    (member : field ∈ limitFields tags limits ++ stateReadings tags text)
    {series : String × String} (counter : series ∈ counterSeries) : field.metric ≠ series.1 := by
  have others : ∀ metric ∈ (limitFields tags limits ++ stateReadings tags text).map Field.metric,
      ∀ series ∈ counterSeries, metric ≠ series.1 := by
    have all : ∀ metric ∈ ["linux.proc.num_fds_slim", "linux.proc.num_fds_hlim",
        "linux.proc.cpu", "linux.proc.cpu", "linux.proc.mem.fault", "linux.proc.mem.fault",
        "linux.proc.mem.virtual", "linux.proc.mem.rss"],
        ∀ series ∈ counterSeries, metric ≠ series.1 := by
      decide
    cases limits with
    | none =>
      exact fun metric inside => all metric (List.mem_cons_of_mem _ (List.mem_cons_of_mem _ inside))
    | some pair => exact all
  exact others field.metric (List.mem_map.mpr ⟨field, member, rfl⟩) series counter

/-! ### What the series carry -/

/-- Every point of a series has the number that a text is read as. -/
def Carries (points : List Point) (series : String × String) (text : String) : Prop :=
  ∃ value, Value.ofText text = .ok value ∧
    ∀ point ∈ points, point.metric = series.1 → point.tags.get? "type" = some series.2 →
      point.value = value

/-- Every point of a series has the number of a counter with this key. -/
def CarriesKey (report : ProcessReport) (points : List Point) (series : String × String)
    (key : String) : Prop :=
  ∃ number, (key, number) ∈ counters report.io ∧ Carries points series number

/-- How the counters of a report are told apart: by their places, whatever their keys say. -/
structure TellsByPlace (report : ProcessReport) (context : Context) (timestamp : Int64)
    (tags : TagSet) : Prop where
  /-- Whether a report is accepted does not depend on the keys. -/
  accepted : (∃ points, (report.points context timestamp tags).2 = .ok points) ↔
    report.IsReadable ∧
      ∀ pair ∈ openFileLimits? report.limits, Value.IsNumber pair.1 ∧ Value.IsNumber pair.2
  /-- With fewer than six counters a process contributes nothing. -/
  short : (counters report.io).length < 6 →
    ∃ failure, (report.points context timestamp tags).2 = .error failure
  /-- Every series carries the number at its place, which is a number. -/
  placed : ∀ points, (report.points context timestamp tags).2 = .ok points →
    ∀ (place : Nat) series, counterSeries[place]? = some series →
      ∃ counter : String × String, (counters report.io)[place]? = some counter ∧
        Carries points series counter.2
  /-- Where the counters begin with the six keys, every series carries that of its key. -/
  own : ∀ points, (report.points context timestamp tags).2 = .ok points →
    counterKeys.take 6 <+: (counters report.io).map Prod.fst →
      ∀ (place : Nat) series key, counterSeries[place]? = some series →
        counterKeys[place]? = some key → report.CarriesKey points series key
  /-- Where one of the kernel's keys is missing, the series from there on carry that of the next
  key. -/
  shifted : ∀ points, (report.points context timestamp tags).2 = .ok points →
    ∀ missing, (counters report.io).map Prod.fst = counterKeys.eraseIdx missing →
      ∀ (place : Nat) series key, counterSeries[place]? = some series →
        counterKeys[if place < missing then place else place + 1]? = some key →
          report.CarriesKey points series key
  /-- With valid settings and a name that can be cleaned, every series has a point. -/
  present : ∀ points, (report.points context timestamp tags).2 = .ok points →
    ∀ name label, context.IsValid → clean name = .ok label → tags.Names name →
      report.openFiles < UInt64.size →
        ∀ series ∈ counterSeries, ∃ point ∈ points,
          point.metric = series.1 ∧ point.tags.get? "type" = some series.2

/-- A reading with the metric of a counter is that of a counter's field. -/
theorem exists_counter_of_mem {readings : List Reading}
    (success : report.readings tags = .ok readings) {reading : Reading}
    (member : reading ∈ readings) {series : String × String} (counter : series ∈ counterSeries)
    (metric : reading.metric = series.1) :
    ∃ field ∈ ioReadings tags ((ioFields report.io).getD · ""), field.reading = .ok reading := by
  obtain ⟨fields, before, first, read, rfl⟩ := readings_eq_ok success
  obtain ⟨state, _, _, _, rfl⟩ := fields_eq_ok_iff.mp first
  rcases List.mem_append.mp member with inBefore | last
  · obtain ⟨field, inFields, same⟩ := exists_field_of_mem read inBefore
    rcases List.mem_append.mp inFields with other | ofCounter
    · exact absurd ((reading_eq_ok same).1.symm.trans metric) (metric_ne_of_mem other counter)
    · exact ⟨field, ofCounter, same⟩
  · rw [List.mem_singleton.mp last] at metric
    have others : ∀ series ∈ counterSeries, "linux.proc.num_fds" ≠ series.1 := by decide
    exact absurd metric (others series counter)

/-- The points of a series have the number at its place. -/
theorem value_of_point {readings : List Reading} (success : report.readings tags = .ok readings)
    {place : Nat} {series : String × String} (here : counterSeries[place]? = some series)
    {point : Point} (member : point ∈ readings.filterMap (context.point? timestamp))
    (metric : point.metric = series.1) (type : point.tags.get? "type" = some series.2) :
    Value.ofText ((ioFields report.io).getD place "") = .ok point.value := by
  obtain ⟨reading, inReadings, made⟩ := List.mem_filterMap.mp member
  obtain ⟨entry, inSeries, ofEntry, _⟩ := exists_series_of_mem success inReadings
  have canonical : isCanonical reading.metric = true := ofEntry ▸ (isCanonical_series inSeries).1
  have kept : reading.metric = series.1 :=
    (Context.metric_of_point? made canonical).symm.trans metric
  obtain ⟨field, inFields, read⟩ :=
    exists_counter_of_mem success inReadings (List.mem_of_getElem? here) kept
  obtain ⟨fieldMetric, fieldTags, fieldValue⟩ := reading_eq_ok read
  obtain ⟨found, foundSeries, there, ownMetric, ownTags, ownText⟩ := exists_place_of_mem inFields
  -- The point shows the type of its field, so the two series are one and stand at one place.
  have ownType : reading.tags.get? "type" = some foundSeries.2 := by
    rw [fieldTags, ownTags]
    exact Table.get?_insert_self _ _ _
  have shown := Context.get?_of_point? made (by decide) (by decide +kernel)
    (isCanonical_counterSeries (List.mem_of_getElem? there)).2 ownType
  have same : foundSeries = series :=
    Prod.ext (ownMetric.symm.trans (fieldMetric.symm.trans kept))
      (Option.some.inj (shown.symm.trans type))
  have placed : found = place :=
    (List.getElem?_inj (List.getElem?_eq_some_iff.mp there).1 nodup_counterSeries).mp
      (by rw [there, here, same])
  rw [Context.value_of_point? made, ← fieldValue, ownText, placed]

/-- In an accepted report every series carries the number at its place. -/
theorem carries_of_place (accepted : (report.points context timestamp tags).2 = .ok points)
    {place : Nat} {series : String × String} (here : counterSeries[place]? = some series) :
    ∃ counter : String × String, (counters report.io)[place]? = some counter ∧
      Carries points series counter.2 := by
  obtain ⟨enough, numbers⟩ := (accepted_iff.mp ⟨points, accepted⟩).1.counters
  have small : place < 6 := (List.getElem?_eq_some_iff.mp here).1
  have inside : place < (counters report.io).length := by
    rw [ioFields_eq, List.length_map] at enough
    exact Nat.lt_of_lt_of_le small enough
  have text : (ioFields report.io).getD place "" = (counters report.io)[place].2 := by
    rw [ioFields_eq, List.getD_eq_getElem?_getD, List.getElem?_map,
      List.getElem?_eq_getElem inside]
    rfl
  obtain ⟨value, number⟩ := numbers place (List.mem_range.mpr small)
  obtain ⟨readings, success, rfl⟩ := points_eq_ok_iff.mp accepted
  rw [text] at number
  refine ⟨_, List.getElem?_eq_getElem inside, value, number, fun point inPoints metric type => ?_⟩
  have same := value_of_point success here inPoints metric type
  rw [text, number] at same
  exact (Except.ok.inj same).symm

/-- A series carries the number of the key that stands at its place. -/
theorem carriesKey_of_place (accepted : (report.points context timestamp tags).2 = .ok points)
    {place : Nat} {series : String × String} (here : counterSeries[place]? = some series)
    {key : String} (there : ((counters report.io).map Prod.fst)[place]? = some key) :
    report.CarriesKey points series key := by
  obtain ⟨counter, found, carries⟩ := carries_of_place accepted here
  rw [List.getElem?_map, found, Option.map_some, Option.some.injEq] at there
  refine ⟨counter.2, ?_, carries⟩
  rw [← there]
  exact List.mem_of_getElem? found

/-- With valid settings no reading is rejected. -/
theorem exists_point_of_series {name label : String} (valid : context.IsValid)
    (cleaned : clean name = .ok label) (names : tags.Names name)
    (fits : report.openFiles < UInt64.size)
    (accepted : (report.points context timestamp tags).2 = .ok points)
    {series : String × String} (counter : series ∈ counterSeries) :
    ∃ point ∈ points, point.metric = series.1 ∧ point.tags.get? "type" = some series.2 := by
  obtain ⟨readings, success, rfl⟩ := points_eq_map valid cleaned names fits accepted
  have listed : (series.1, typed tags series.2) ∈
      readings.map fun reading => (reading.metric, reading.tags) := by
    rw [readings_series success]
    refine List.mem_map.mpr ⟨(series.1, some series.2), ?_, rfl⟩
    have inSeries : ∀ limited, ∀ series ∈ counterSeries,
        (series.1, some series.2) ∈ ProcessReport.series limited := by
      decide
    exact inSeries _ series counter
  obtain ⟨reading, member, same⟩ := List.mem_map.mp listed
  obtain ⟨metric, ownTags⟩ := Prod.mk.inj same
  have hostless : reading.tags.get? hostTag = none := by
    rw [ownTags]
    exact (Table.get?_insert_other _ (by decide) _).trans names.host
  refine ⟨_, List.mem_map.mpr ⟨reading, member, rfl⟩, metric, ?_⟩
  rw [Context.get?_pointOf hostless, if_neg (by decide), if_neg (by decide), ownTags,
    typed, Table.get?_insert_self, Option.some_or]

/-- Whatever the files say and whatever the context, counters are told apart by their places. -/
theorem tellsByPlace_of_report (report : ProcessReport) (context : Context) (timestamp : Int64)
    (tags : TagSet) : report.TellsByPlace context timestamp tags where
  accepted := accepted_iff
  short few := by
    cases outcome : (report.points context timestamp tags).2 with
    | error failure => exact ⟨failure, rfl⟩
    | ok points =>
      have enough := (accepted_iff.mp ⟨points, outcome⟩).1.counters.1
      rw [ioFields_eq, List.length_map] at enough
      exact absurd few (Nat.not_lt.mpr enough)
  placed _ accepted _ _ here := carries_of_place accepted here
  own points accepted starts place series key here there := by
    have small : place < 6 := (List.getElem?_eq_some_iff.mp here).1
    obtain ⟨rest, keys⟩ := starts
    refine carriesKey_of_place accepted here ?_
    rw [← keys, List.getElem?_append_left small, List.getElem?_take, if_pos small, there]
  shifted points accepted missing keys place series key here there := by
    refine carriesKey_of_place accepted here ?_
    rw [keys, List.getElem?_eraseIdx, ← there]
    split <;> rfl
  present _ accepted _ _ valid cleaned names fits _ counter :=
    exists_point_of_series valid cleaned names fits accepted counter

/-- A server whose counters lack the line of the characters read. -/
def unreadServer : ProcessReport :=
  ⟨serverState,
    "wchar: 2000\nsyscr: 30\nsyscw: 40\nread_bytes: 4096\nwrite_bytes: 8192\n" ++
      "cancelled_write_bytes: 0\n",
    "", 8⟩

/-- The characters written are reported as those read, and the calls for reading as the characters
written. -/
theorem seen_of_unreadServer :
    ((unreadServer.points (Context.new "web01") 7
        (Table.ofList [("id", "1"), ("name", "redis")])).2.toOption.map fun points =>
      (points.filter fun point => point.metric = "linux.proc.char_io").map fun point =>
        (point.tags.get? "type", point.value)) =
      some [(some "read", .integer 2000), (some "write", .integer 30)] := by
  decide +kernel

/-- An accepted report need not have the number that a series is for. -/
theorem not_always_own :
    ¬∀ (report : ProcessReport) (context : Context) (timestamp : Int64) (tags : TagSet)
        (points : List Point), (report.points context timestamp tags).2 = .ok points →
      report.CarriesKey points ("linux.proc.char_io", "read") "rchar:" := by
  intro always
  obtain ⟨points, accepted, _⟩ := Option.map_eq_some_iff.mp seen_of_unreadServer
  obtain ⟨number, member, _⟩ := always unreadServer _ _ _ points (eq_ok_of_toOption accepted)
  have missing : ∀ counter ∈ counters unreadServer.io, counter.1 ≠ "rchar:" := by
    decide +kernel
  exact missing _ member rfl

end ProcessReport

end Telemetry
