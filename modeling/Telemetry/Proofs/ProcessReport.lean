/-
This file says which points a process contributes when its files can be understood.

A report is all or nothing: it gives its readings when every one of its fields can be read, and else
the failure of the first one. The readings of a report are a fixed list of series, with two more
when the process has limits for its open files. Each series occurs once, and its tags are those of
the process with at most a type added.
-/

import Telemetry.Proofs.Resolved
import Telemetry.Watch.Cycle

namespace Telemetry

/-! ### The tags of a process -/

namespace Watch

/-- The name under which an entry appears in points: its name without the characters that are not
accepted. -/
def label (watch : Watch) : String := replaceOrEmpty watch.name ""

theorem clean_name {watch : Watch} (cleanable : ∃ cleaned, clean watch.name = .ok cleaned) :
    clean watch.name = .ok watch.label := by
  obtain ⟨cleaned, success⟩ := cleanable
  have replaced : replace watch.name "" = .ok cleaned := success
  rw [success, label, replaceOrEmpty, replaced]

theorem names_tags (watch : Watch) : watch.tags.Names watch.name := by
  refine ⟨Table.get?_insert_self _ _ _, ?_, fun key value found => ?_⟩
  · rw [tags, Table.get?_insert_other _ (by decide)]
    rfl
  · rw [tags, Table.get?_insert] at found
    split at found
    · rename_i isName
      rw [isName]
      exact ⟨by decide +kernel, .inl rfl⟩
    · cases found

theorem names_tagsOf (watch : Watch) (id : Nat) : (watch.tagsOf id).Names watch.name :=
  watch.names_tags.insert (by decide +kernel) (isCanonical_decimal id) (by decide) (by decide)

end Watch

namespace ProcessReport

/-! ### The series of a report -/

/-- The series of a report, each a metric and a type if it has one, for a process with or without
limits. -/
def series (limited : Bool) : List (String × Option String) :=
  (if limited then [("linux.proc.num_fds_slim", none), ("linux.proc.num_fds_hlim", none)]
    else []) ++
    [("linux.proc.cpu", some "user"), ("linux.proc.cpu", some "system"),
     ("linux.proc.mem.fault", some "minflt"), ("linux.proc.mem.fault", some "majflt"),
     ("linux.proc.mem.virtual", none), ("linux.proc.mem.rss", none),
     ("linux.proc.char_io", some "read"), ("linux.proc.char_io", some "write"),
     ("linux.proc.syscall", some "read"), ("linux.proc.syscall", some "write"),
     ("linux.proc.io_bytes", some "read"), ("linux.proc.io_bytes", some "write"),
     ("linux.proc.num_fds", none)]

theorem length_series (limited : Bool) : (series limited).length = if limited then 15 else 13 := by
  cases limited <;> rfl

/-- The tags of a series, from those of the process. -/
def tagsFor (tags : TagSet) : Option String → TagSet
  | none => tags
  | some type => typed tags type

/-- Every metric and every type is canonical. -/
theorem isCanonical_series {limited : Bool} {entry : String × Option String}
    (member : entry ∈ series limited) :
    isCanonical entry.1 = true ∧ ∀ type ∈ entry.2, isCanonical type = true := by
  have all : ∀ entry ∈ series true,
      isCanonical entry.1 = true ∧ ∀ type ∈ entry.2, isCanonical type = true := by
    decide +kernel
  cases limited with
  | true => exact all entry member
  | false => exact all entry (List.mem_append_right _ member)

theorem names_tagsFor {name : String} {tags : TagSet} (names : tags.Names name)
    {type : Option String} (canonical : ∀ given ∈ type, isCanonical given = true) :
    (tagsFor tags type).Names name := by
  cases type with
  | none => exact names
  | some given =>
    exact names.insert (by decide +kernel) (canonical given rfl) (by decide) (by decide)

/-! ### The readings of a report -/

/-- The readings of a report for a process with these tags, or why there are none. -/
def readings (report : ProcessReport) (tags : TagSet) : Except ReportFailure (List Reading) :=
  match report.fields tags with
  | .error failure => .error failure
  | .ok fields =>
    match fields.mapM Field.reading with
    | .error unreadable => .error (.number unreadable.field.text unreadable.refusal)
    | .ok readings => .ok (readings ++ [openFilesReading tags report.openFiles])

theorem fields_series {report : ProcessReport} {tags : TagSet} {fields : List Field}
    (success : report.fields tags = .ok fields) :
    (fields.map fun field => (field.metric, field.tags)) ++ [("linux.proc.num_fds", tags)] =
      (series (openFileLimits? report.limits).isSome).map fun entry =>
        (entry.1, tagsFor tags entry.2) := by
  unfold ProcessReport.fields at success
  split at success
  · cases success
  · dsimp only at success
    split at success
    · cases success
    · rw [← Except.ok.inj success]
      cases openFileLimits? report.limits <;> rfl

/-- A field keeps its metric and its tags when it is read. -/
theorem reading_eq_ok {field : Field} {reading : Reading} (read : field.reading = .ok reading) :
    reading.metric = field.metric ∧ reading.tags = field.tags ∧
      Value.ofText field.text = .ok reading.value := by
  unfold Field.reading at read
  split at read
  · rename_i value parsed
    rw [← Except.ok.inj read]
    exact ⟨rfl, rfl, parsed⟩
  · cases read

/-- Fields can all be read when the first one and the rest can. -/
theorem mapM_reading_cons {field : Field} {rest : List Field} {readings : List Reading} :
    (field :: rest).mapM Field.reading = .ok readings ↔
      ∃ reading others, field.reading = .ok reading ∧ rest.mapM Field.reading = .ok others ∧
        readings = reading :: others := by
  rw [List.mapM_cons]
  constructor
  · intro success
    cases read : field.reading with
    | error unreadable =>
      rw [read] at success
      cases success
    | ok reading =>
      cases later : rest.mapM Field.reading with
      | error unreadable =>
        rw [read, later] at success
        cases success
      | ok others =>
        rw [read, later] at success
        exact ⟨reading, others, rfl, rfl, (Except.ok.inj success).symm⟩
  · rintro ⟨reading, others, read, later, rfl⟩
    rw [read, later]
    rfl

/-- Fields that can all be read keep their metrics and tags, and get the values of their texts. -/
theorem mapM_reading {fields : List Field} {readings : List Reading}
    (success : fields.mapM Field.reading = .ok readings) :
    (readings.map fun reading => (reading.metric, reading.tags)) =
        (fields.map fun field => (field.metric, field.tags)) ∧
      (readings.map fun reading => Except.ok reading.value) =
        fields.map fun field => Value.ofText field.text := by
  induction fields generalizing readings with
  | nil =>
    rw [← Except.ok.inj success]
    exact ⟨rfl, rfl⟩
  | cons field rest inductionHypothesis =>
    obtain ⟨reading, others, read, later, rfl⟩ := mapM_reading_cons.mp success
    obtain ⟨metric, tags, value⟩ := reading_eq_ok read
    obtain ⟨series, values⟩ := inductionHypothesis later
    rw [List.map_cons, List.map_cons, List.map_cons, List.map_cons, series, values, metric, tags,
      value]
    exact ⟨rfl, rfl⟩

theorem readings_eq_ok {report : ProcessReport} {tags : TagSet} {all : List Reading}
    (success : report.readings tags = .ok all) :
    ∃ fields readings, report.fields tags = .ok fields ∧
      fields.mapM Field.reading = .ok readings ∧
      all = readings ++ [openFilesReading tags report.openFiles] := by
  unfold readings at success
  split at success
  · cases success
  · rename_i fields first
    split at success
    · cases success
    · rename_i readings read
      exact ⟨fields, readings, first, read, (Except.ok.inj success).symm⟩

/-- The readings of a report are those of its series. -/
theorem readings_series {report : ProcessReport} {tags : TagSet} {readings : List Reading}
    (success : report.readings tags = .ok readings) :
    (readings.map fun reading => (reading.metric, reading.tags)) =
      (series (openFileLimits? report.limits).isSome).map fun entry =>
        (entry.1, tagsFor tags entry.2) := by
  obtain ⟨fields, before, first, read, rfl⟩ := readings_eq_ok success
  rw [List.map_append, (mapM_reading read).1, ← fields_series first]
  rfl

/-- Every reading belongs to a series. -/
theorem exists_series_of_mem {report : ProcessReport} {tags : TagSet} {readings : List Reading}
    (success : report.readings tags = .ok readings) {reading : Reading}
    (member : reading ∈ readings) :
    ∃ entry ∈ series (openFileLimits? report.limits).isSome,
      reading.metric = entry.1 ∧ reading.tags = tagsFor tags entry.2 := by
  have listed : (reading.metric, reading.tags) ∈
      (series (openFileLimits? report.limits).isSome).map fun entry =>
        (entry.1, tagsFor tags entry.2) := by
    rw [← readings_series success]
    exact List.mem_map.mpr ⟨reading, member, rfl⟩
  obtain ⟨entry, inSeries, same⟩ := List.mem_map.mp listed
  obtain ⟨metric, ownTags⟩ := Prod.mk.inj same
  exact ⟨entry, inSeries, metric.symm, ownTags.symm⟩

/-! ### The points of a report -/

variable {context : Context} {name label : String} {tags : TagSet}

/-- Every field of a report can be tagged with the name of its entry. -/
theorem names_of_mem_fields (names : tags.Names name) {report : ProcessReport}
    {fields : List Field} (success : report.fields tags = .ok fields) :
    ∀ field ∈ fields, ∀ reading, field.reading = .ok reading → reading.Names name := by
  intro field member reading read
  obtain ⟨metric, sameTags, value⟩ := reading_eq_ok read
  have listed : (field.metric, field.tags) ∈
      (series (openFileLimits? report.limits).isSome).map fun entry =>
        (entry.1, tagsFor tags entry.2) := by
    rw [← fields_series success]
    exact List.mem_append_left _ (List.mem_map.mpr ⟨field, member, rfl⟩)
  obtain ⟨entry, inSeries, same⟩ := List.mem_map.mp listed
  obtain ⟨canonicalMetric, canonicalType⟩ := isCanonical_series inSeries
  obtain ⟨fieldMetric, fieldTags⟩ := Prod.mk.inj same
  refine ⟨?_, Value.isFinite_ofText value, ?_⟩
  · rw [metric, ← fieldMetric]
    exact canonicalMetric
  · rw [sameTags, ← fieldTags]
    exact names_tagsFor names canonicalType

theorem names_openFilesReading (names : tags.Names name) {count : Nat}
    (fits : count < UInt64.size) : (openFilesReading tags count).Names name := by
  have metric : isCanonical "linux.proc.num_fds" = true := by decide +kernel
  exact ⟨metric, Value.isFinite_ofNat fits, names⟩

/-- A report gives the points of its readings, and changes the metadata of a context alone. -/
theorem points_eq (valid : context.IsValid) (cleaned : clean name = .ok label)
    (names : tags.Names name) {report : ProcessReport} (fits : report.openFiles < UInt64.size)
    (timestamp : Int64) :
    ∃ metadata, report.points context timestamp tags =
      ({ context with metadata := metadata },
        (report.readings tags).map fun readings =>
          readings.map (context.pointOf timestamp label)) := by
  rw [points, readings]
  cases first : report.fields tags with
  | error failure => exact ⟨context.metadata, rfl⟩
  | ok fields =>
    obtain ⟨metadata, added⟩ :=
      valid.addFields_eq cleaned (names_of_mem_fields names first) [] timestamp
    dsimp only
    rw [added]
    cases fields.mapM Field.reading with
    | error unreadable => exact ⟨metadata, rfl⟩
    | ok readings =>
      have stillValid : ({ context with metadata := metadata } : Context).IsValid :=
        ⟨valid.hostname, valid.defaultTags⟩
      obtain ⟨final, last⟩ := stillValid.add_eq cleaned (names_openFilesReading names fits)
        ([] ++ readings.map (context.pointOf timestamp label)) timestamp
      refine ⟨final, ?_⟩
      simp only [Except.map]
      rw [last, List.nil_append, List.map_append]
      rfl

/-- What the points of a report are, for a process of an entry. -/
structure Complete (report : ProcessReport) (context : Context) (watch : Watch) (id : Nat)
    (points : List Point) : Prop where
  /-- There are thirteen of them, and two more with limits. -/
  count : points.length = if (openFileLimits? report.limits).isSome then 15 else 13
  /-- They are the series of a report. -/
  series : (points.map fun point => (point.metric, point.tags.get? "type")) =
    (series (openFileLimits? report.limits).isSome).map fun entry =>
      (entry.1, entry.2.or (context.defaultTags.get? "type"))
  /-- No series has two points. -/
  once : (points.map fun point => (point.metric, point.tags.get? "type")).Nodup
  /-- All points are tagged with the name of the entry and the number of the process. -/
  tagged : ∀ point ∈ points,
    point.tags.get? "name" = some watch.label ∧ point.tags.get? "id" = some (decimal id)
  /-- Their values are what the texts of the fields say, and the count of open files. -/
  values : ∃ fields, report.fields (watch.tagsOf id) = .ok fields ∧
    (points.map fun point => Except.ok point.value) =
      (fields.map fun field => Value.ofText field.text) ++ [.ok (Value.ofNat report.openFiles)]

theorem nodup_series_map (limited : Bool) (type : Option String) :
    ((series limited).map fun entry => (entry.1, entry.2.or type)).Nodup := by
  cases limited <;> simp [series]

section

variable {watch : Watch} {id : Nat} {report : ProcessReport} {readings : List Reading}

theorem get?_type_tagsFor (watch : Watch) (id : Nat) (type : Option String) :
    (tagsFor (watch.tagsOf id) type).get? "type" = type := by
  cases type with
  | none => rfl
  | some given => exact Table.get?_insert_self _ _ _

theorem get?_id_tagsFor (watch : Watch) (id : Nat) (type : Option String) :
    (tagsFor (watch.tagsOf id) type).get? "id" = some (decimal id) := by
  have own : (watch.tagsOf id).get? "id" = some (decimal id) := Table.get?_insert_self _ _ _
  cases type with
  | none => exact own
  | some given => exact (Table.get?_insert_other _ (by decide) _).trans own

/-- The tags of a reading are those of its series. -/
theorem tags_of_mem_readings (success : report.readings (watch.tagsOf id) = .ok readings)
    {reading : Reading} (member : reading ∈ readings) :
    ∃ type, reading.tags = tagsFor (watch.tagsOf id) type ∧
      reading.tags.get? hostTag = none := by
  obtain ⟨entry, inSeries, _, tags⟩ := exists_series_of_mem success member
  have names := names_tagsFor (watch.names_tagsOf id) (isCanonical_series inSeries).2
  exact ⟨entry.2, tags, tags ▸ names.host⟩

/-- The points of a report belong to its series. -/
theorem map_series_points (success : report.readings (watch.tagsOf id) = .ok readings)
    (context : Context) (timestamp : Int64) (label : String) :
    ((readings.map (context.pointOf timestamp label)).map fun point =>
        (point.metric, point.tags.get? "type")) =
      (series (openFileLimits? report.limits).isSome).map fun entry =>
        (entry.1, entry.2.or (context.defaultTags.get? "type")) := by
  have own : ((readings.map (context.pointOf timestamp label)).map fun point =>
      (point.metric, point.tags.get? "type")) =
      (readings.map fun reading => (reading.metric, reading.tags)).map fun pair =>
        (pair.1, (pair.2.get? "type").or (context.defaultTags.get? "type")) := by
    rw [List.map_map, List.map_map]
    refine List.map_congr_left fun reading member => ?_
    obtain ⟨type, tags, hostless⟩ := tags_of_mem_readings success member
    have answer : (context.pointOf timestamp label reading).tags.get? "type" =
        (reading.tags.get? "type").or (context.defaultTags.get? "type") := by
      rw [Context.get?_pointOf hostless, if_neg (by decide), if_neg (by decide)]
    exact Prod.ext rfl answer
  rw [own, readings_series success, List.map_map]
  refine List.map_congr_left fun entry _ => ?_
  show (entry.1, ((tagsFor _ entry.2).get? "type").or _) = _
  rw [get?_type_tagsFor]

theorem complete_of_readings (success : report.readings (watch.tagsOf id) = .ok readings)
    (context : Context) (timestamp : Int64) :
    report.Complete context watch id
      (readings.map (context.pointOf timestamp watch.label)) := by
  have series := map_series_points success context timestamp watch.label
  refine ⟨?_, series, series ▸ nodup_series_map _ _, fun point member => ?_, ?_⟩
  · have count := congrArg List.length series
    rw [List.length_map, List.length_map, List.length_map, length_series] at count
    rw [List.length_map, count]
  · obtain ⟨reading, inReadings, rfl⟩ := List.mem_map.mp member
    obtain ⟨type, tags, hostless⟩ := tags_of_mem_readings success inReadings
    rw [Context.get?_pointOf hostless, Context.get?_pointOf hostless, tags, get?_id_tagsFor]
    exact ⟨rfl, rfl⟩
  · obtain ⟨fields, before, first, read, rfl⟩ := readings_eq_ok success
    refine ⟨fields, first, ?_⟩
    rw [List.map_map, ← (mapM_reading read).2, List.map_append]
    rfl

end

end ProcessReport

end Telemetry
