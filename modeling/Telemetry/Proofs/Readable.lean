/-
This file says which reports on a process are accepted, for every context and whatever the tags.

A report is accepted when the line of its state is long enough, its counters are enough, and every
text that is read is a number. It then contributes the points of its readings, without those that
are rejected; a text that is no number refuses it, and it contributes nothing.
-/

import Telemetry.Proofs.Calls
import Telemetry.Proofs.Resolution

namespace Telemetry

/-! ### Texts that are numbers -/

namespace Value

/-- A text is a number when a value can be read from it. -/
def IsNumber (text : String) : Prop := ∃ value, ofText text = .ok value

instance (text : String) : Decidable (IsNumber text) :=
  match outcome : ofText text with
  | .ok value => isTrue ⟨value, outcome⟩
  | .error _ => isFalse fun ⟨_, number⟩ => nomatch outcome.symm.trans number

/-- A text that is no number is refused under its own name. -/
theorem ofText_of_not_isNumber {text : String} (none : ¬IsNumber text) :
    ofText text = .error (.unparseable text) := by
  cases outcome : ofText text with
  | ok value => exact absurd ⟨value, outcome⟩ none
  | error refusal =>
    rw [ofText] at outcome
    split at outcome
    · cases outcome
    · split at outcome
      · exact outcome.symm
      · split at outcome
        · cases outcome
        · exact outcome.symm

end Value

/-! ### The point of a reading -/

namespace Context

variable {context : Context} {timestamp : Int64} {reading : Reading} {point : Point}

/-- A point keeps a canonical metric. -/
theorem metric_of_point? (made : context.point? timestamp reading = some point)
    (canonical : isCanonical reading.metric = true) : point.metric = reading.metric := by
  obtain ⟨_, _, metric, _, cleanMetric, rfl⟩ :=
    Point.clean_eq_ok_iff.mp (point?_eq_some_iff.mp made)
  exact Except.ok.inj (cleanMetric.symm.trans (clean_of_isCanonical canonical))

theorem value_of_point? (made : context.point? timestamp reading = some point) :
    point.value = reading.value := by
  obtain ⟨_, _, _, _, _, rfl⟩ := Point.clean_eq_ok_iff.mp (point?_eq_some_iff.mp made)
  rfl

/-- A point keeps the canonical tags of the call. -/
theorem get?_of_point? (made : context.point? timestamp reading = some point) {key value : String}
    (notHost : key ≠ hostTag) (canonicalKey : isCanonical key = true)
    (canonicalValue : isCanonical value = true) (given : reading.tags.get? key = some value) :
    point.tags.get? key = some value := by
  obtain ⟨_, tags, _, cleanTags, _, rfl⟩ :=
    Point.clean_eq_ok_iff.mp (point?_eq_some_iff.mp made)
  have resolved : (context.resolve reading.tags).get? key = some value := by
    rw [get?_resolve_eq_tagFor?, tagFor?, if_neg notHost, given, Option.some_or]
  exact (TagSet.get?_of_clean cleanTags key value).mpr
    ⟨key, value, resolved, clean_of_isCanonical canonicalKey, clean_of_isCanonical canonicalValue⟩

end Context

namespace ProcessReport

open Value (IsNumber)

variable {report : ProcessReport} {tags : TagSet}

/-! ### Fields that can be read -/

/-- Fields can all be read when each of their texts is a number. -/
theorem exists_mapM_reading_iff {fields : List Field} :
    (∃ readings, fields.mapM Field.reading = .ok readings) ↔
      ∀ field ∈ fields, IsNumber field.text := by
  induction fields with
  | nil => exact ⟨fun _ => nofun, fun _ => ⟨[], rfl⟩⟩
  | cons field rest inductionHypothesis =>
    simp only [mapM_reading_cons, List.forall_mem_cons, ← inductionHypothesis]
    constructor
    · rintro ⟨_, reading, others, read, later, rfl⟩
      exact ⟨⟨reading.value, (reading_eq_ok read).2.2⟩, others, later⟩
    · rintro ⟨⟨value, number⟩, others, later⟩
      refine ⟨_, ⟨field.metric, value, field.tags, field.hint⟩, others, ?_, later, rfl⟩
      rw [Field.reading, number]

/-- Every reading is that of a field. -/
theorem exists_field_of_mem {fields : List Field} {readings : List Reading}
    (success : fields.mapM Field.reading = .ok readings) {reading : Reading}
    (member : reading ∈ readings) : ∃ field ∈ fields, field.reading = .ok reading := by
  induction fields generalizing readings with
  | nil =>
    rw [← Except.ok.inj success] at member
    cases member
  | cons field rest inductionHypothesis =>
    obtain ⟨first, others, read, later, rfl⟩ := mapM_reading_cons.mp success
    rcases List.mem_cons.mp member with rfl | inOthers
    · exact ⟨field, List.mem_cons_self, read⟩
    · obtain ⟨found, inRest, same⟩ := inductionHypothesis later inOthers
      exact ⟨found, List.mem_cons_of_mem _ inRest, same⟩

/-! ### Reports that are accepted -/

/-- The fields of a report that has enough of them. -/
theorem fields_eq_ok_iff {fields : List Field} :
    report.fields tags = .ok fields ↔
      ∃ state, stateFields? report.state = some state ∧ 24 ≤ state.length ∧
        6 ≤ (ioFields report.io).length ∧
        fields = limitFields tags (openFileLimits? report.limits) ++
          stateReadings tags (state.getD · "") ++
          ioReadings tags ((ioFields report.io).getD · "") := by
  rw [ProcessReport.fields]
  constructor
  · intro success
    split at success
    · cases success
    · rename_i state enough
      dsimp only at success
      split at success
      · cases success
      · rename_i counters
        obtain ⟨found, long⟩ := Option.filter_eq_some_iff.mp enough
        exact ⟨state, found, of_decide_eq_true long, Nat.le_of_not_lt counters,
          (Except.ok.inj success).symm⟩
  · rintro ⟨state, found, long, counters, rfl⟩
    rw [found, Option.filter_some, if_pos (decide_eq_true long)]
    exact if_neg (Nat.not_lt.mpr counters)

/-- A report has readings when it has enough fields and all of them are numbers. -/
theorem exists_readings_iff_fields :
    (∃ readings, report.readings tags = .ok readings) ↔
      ∃ fields, report.fields tags = .ok fields ∧
        ∀ field ∈ fields, IsNumber field.text := by
  simp only [← exists_mapM_reading_iff]
  constructor
  · rintro ⟨_, success⟩
    obtain ⟨fields, readings, first, read, _⟩ := readings_eq_ok success
    exact ⟨fields, first, readings, read⟩
  · rintro ⟨fields, first, readings, read⟩
    refine ⟨readings ++ [openFilesReading tags report.openFiles], ?_⟩
    simp only [ProcessReport.readings, first, read]

/-- All texts of a report but those of its limits can be read: the state has its fields, the
counters are enough, and those that are used are numbers. -/
structure IsReadable (report : ProcessReport) : Prop where
  state : ∃ state, stateFields? report.state = some state ∧ 24 ≤ state.length ∧
    ∀ place ∈ [13, 14, 9, 11, 22, 23], IsNumber (state.getD place "")
  counters : 6 ≤ (ioFields report.io).length ∧
    ∀ place ∈ List.range 6, IsNumber ((ioFields report.io).getD place "")

/-- Fields are numbers when the texts at their places are. -/
theorem forall_mem_iff {fields : List Field} {text : Nat → String} {places : List Nat}
    (texts : fields.map Field.text = places.map text) :
    (∀ field ∈ fields, IsNumber field.text) ↔ ∀ place ∈ places, IsNumber (text place) :=
  calc (∀ field ∈ fields, IsNumber field.text)
      ↔ ∀ given ∈ fields.map Field.text, IsNumber given := List.forall_mem_map.symm
    _ ↔ ∀ given ∈ places.map text, IsNumber given := by rw [texts]
    _ ↔ ∀ place ∈ places, IsNumber (text place) := List.forall_mem_map

theorem forall_mem_limitFields {tags : TagSet} {limits : Option (String × String)} :
    (∀ field ∈ limitFields tags limits, IsNumber field.text) ↔
      ∀ pair ∈ limits, IsNumber pair.1 ∧ IsNumber pair.2 := by
  cases limits with
  | none => exact ⟨fun _ => nofun, fun _ => nofun⟩
  | some pair => simp [limitFields]

/-- A report has readings when it can be read and its limits, if it has any, are numbers. -/
theorem exists_readings_iff :
    (∃ readings, report.readings tags = .ok readings) ↔
      report.IsReadable ∧
        ∀ pair ∈ openFileLimits? report.limits, IsNumber pair.1 ∧ IsNumber pair.2 := by
  rw [exists_readings_iff_fields]
  constructor
  · rintro ⟨_, first, numbers⟩
    obtain ⟨state, found, long, enough, rfl⟩ := fields_eq_ok_iff.mp first
    rw [List.forall_mem_append, List.forall_mem_append, forall_mem_limitFields] at numbers
    obtain ⟨⟨limits, ofState⟩, ofCounters⟩ := numbers
    exact ⟨⟨⟨state, found, long, (forall_mem_iff rfl).mp ofState⟩, enough,
      (forall_mem_iff rfl).mp ofCounters⟩, limits⟩
  · rintro ⟨⟨⟨state, found, long, ofState⟩, enough, ofCounters⟩, limits⟩
    refine ⟨_, fields_eq_ok_iff.mpr ⟨state, found, long, enough, rfl⟩, ?_⟩
    rw [List.forall_mem_append, List.forall_mem_append, forall_mem_limitFields]
    exact ⟨⟨limits, (forall_mem_iff rfl).mpr ofState⟩, (forall_mem_iff rfl).mpr ofCounters⟩

/-! ### The points of a report -/

/-- A report gives the points of its readings, without those that are rejected. -/
theorem points_snd (report : ProcessReport) (context : Context) (timestamp : Int64)
    (tags : TagSet) :
    (report.points context timestamp tags).2 =
      (report.readings tags).map fun readings =>
        readings.filterMap (context.point? timestamp) := by
  rw [points, readings]
  cases report.fields tags with
  | error failure => rfl
  | ok fields =>
    have added := context.addFields_snd [] timestamp fields
    have settings := (Context.steady_addFields [] timestamp fields).settings context
    dsimp only
    cases outcome : context.addFields [] timestamp fields with
    | mk later result =>
      rw [outcome] at added settings
      cases read : fields.mapM Field.reading with
      | error unreadable =>
        rw [read] at added
        rw [show result = .error unreadable from added]
        rfl
      | ok readings =>
        rw [read] at added
        rw [show result = .ok ([] ++ readings.filterMap (context.point? timestamp)) from added]
        dsimp only
        rw [Context.add_snd, Context.point?_congr settings, List.nil_append, Except.map,
          List.filterMap_append, Context.filterMap_point?_cons, List.filterMap_nil,
          List.append_nil]

/-- A report is accepted exactly when it has readings. -/
theorem points_eq_ok_iff {context : Context} {timestamp : Int64} {points : List Point} :
    (report.points context timestamp tags).2 = .ok points ↔
      ∃ readings, report.readings tags = .ok readings ∧
        points = readings.filterMap (context.point? timestamp) := by
  rw [points_snd]
  cases report.readings tags with
  | error failure => exact iff_of_false nofun (fun ⟨_, success, _⟩ => nomatch success)
  | ok readings =>
    simp only [Except.map, Except.ok.injEq, exists_eq_left', eq_comm]

/-- Every context accepts the same reports: those that can be read, with limits that are numbers. -/
theorem accepted_iff {context : Context} {timestamp : Int64} :
    (∃ points, (report.points context timestamp tags).2 = .ok points) ↔
      report.IsReadable ∧
        ∀ pair ∈ openFileLimits? report.limits, IsNumber pair.1 ∧ IsNumber pair.2 := by
  rw [← @exists_readings_iff report tags]
  simp only [points_eq_ok_iff]
  exact ⟨fun ⟨_, readings, success, _⟩ => ⟨readings, success⟩,
    fun ⟨readings, success⟩ => ⟨_, readings, success, rfl⟩⟩

/-- With valid settings and a name that can be cleaned, none of the readings is rejected. -/
theorem points_eq_map {context : Context} {timestamp : Int64} {points : List Point}
    {name label : String} (valid : context.IsValid) (cleaned : clean name = .ok label)
    (names : tags.Names name) (fits : report.openFiles < UInt64.size)
    (accepted : (report.points context timestamp tags).2 = .ok points) :
    ∃ readings, report.readings tags = .ok readings ∧
      points = readings.map (context.pointOf timestamp label) := by
  obtain ⟨readings, success, _⟩ := points_eq_ok_iff.mp accepted
  obtain ⟨metadata, made⟩ := points_eq valid cleaned names fits timestamp
  rw [made, success] at accepted
  exact ⟨readings, success, (Except.ok.inj accepted).symm⟩

/-- The line of the state of a server, whose command has a blank. -/
def serverState : String :=
  "4242 (redis server) S 1 4242 4242 0 -1 4194560 1500 0 3 0 120 45 0 0 20 0 4 0 100 " ++
    "104857600 2048 0"

end ProcessReport

end Telemetry
