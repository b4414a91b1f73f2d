/-
This file says what is reported about an entry of the watch list whose name has no accepted
character.

Settings with such an entry are accepted, and the entry watches its processes like any other. But
all of its readings are tagged with the name, so each of them is rejected. Whatever the files of the
processes say, a cycle adds no point about the entry, not even the count.
-/

import Telemetry.Proofs.SelfReport
import Telemetry.Proofs.Visits

namespace Telemetry

variable {name : String} {refusal : Refusal} (refused : clean name = .error refusal)

include refused

namespace Context

/-- A reading that is tagged with the name is rejected. -/
theorem add_of_nameless {reading : Reading} (names : reading.tags.Names name) (context : Context)
    (batch : List Point) (timestamp : Int64) :
    (context.add batch timestamp reading).2 = batch := by
  rw [add_snd, point?_eq_none (not_clean_of_refused names.host names.name refused)]
  exact List.append_nil batch

theorem addFields_of_nameless {fields : List Field}
    (names : ∀ field ∈ fields, ∀ reading, field.reading = .ok reading → reading.Names name)
    (context : Context) (batch : List Point) (timestamp : Int64) {points : List Point}
    (accepted : (context.addFields batch timestamp fields).2 = .ok points) : points = batch := by
  induction fields generalizing context batch with
  | nil => exact (Except.ok.inj accepted).symm
  | cons field rest inductionHypothesis =>
    cases read : field.reading with
    | error unreadable =>
      simp only [addFields, read] at accepted
      cases accepted
    | ok reading =>
      simp only [addFields, read] at accepted
      have first := add_of_nameless refused
        (names field List.mem_cons_self reading read).tags context batch timestamp
      rw [first] at accepted
      exact inductionHypothesis (fun other member => names other (List.mem_cons_of_mem _ member)) _
        _ accepted

end Context

/-- A report that is accepted has no point. -/
theorem ProcessReport.points_of_nameless {tags : TagSet} (names : tags.Names name)
    (report : ProcessReport) (context : Context) (timestamp : Int64) {points : List Point}
    (accepted : (report.points context timestamp tags).2 = .ok points) : points = [] := by
  unfold ProcessReport.points at accepted
  split at accepted
  · cases accepted
  · rename_i fields read
    have fieldNames := names_of_mem_fields names read
    cases added : context.addFields [] timestamp fields with
    | mk after outcome =>
      rw [added] at accepted
      cases outcome with
      | error unreadable => cases accepted
      | ok batch =>
        have nothing : batch = [] :=
          Context.addFields_of_nameless refused fieldNames context [] timestamp
            (congrArg Prod.snd added)
        have openFiles := Context.add_of_nameless refused
          (show (openFilesReading tags report.openFiles).tags.Names name from names) after batch
          timestamp
        rw [← Except.ok.inj accepted, openFiles, nothing]

namespace Watch

variable {watch : Watch} (named : watch.name = name) (timestamp : Int64) (table : ProcessTable)

include named

/-- A visit to one process adds nothing. -/
theorem batch_visit_of_nameless (entry : Tracked) (cycle : Cycle) :
    (visit timestamp table (watch, cycle) entry).2.batch = cycle.batch := by
  unfold visit
  dsimp only
  split
  · rfl
  · rename_i report read
    split
    · rename_i context points accepted
      have nothing : points = [] :=
        report.points_of_nameless refused (named ▸ watch.names_tagsOf entry.id) cycle.context
          timestamp (congrArg Prod.snd accepted)
      show cycle.batch ++ points = cycle.batch
      rw [nothing, List.append_nil]
    · rfl

theorem batch_visits_of_nameless (entries : List Tracked) (cycle : Cycle) :
    (entries.foldl (visit timestamp table) (watch, cycle)).2.batch = cycle.batch := by
  induction entries generalizing watch cycle with
  | nil => rfl
  | cons entry rest inductionHypothesis =>
    have settings := settings_visit timestamp table (watch, cycle) entry
    rw [List.foldl_cons, ← batch_visit_of_nameless refused named timestamp table entry cycle]
    exact inductionHypothesis ((name_of_settings settings).trans named) _

/-- A cycle adds no point about the entry. -/
theorem batch_report_of_nameless (processes : List RunningProcess) (cycle : Cycle) :
    (watch.report timestamp processes table cycle).2.batch = cycle.batch := by
  have checked : (watch.check processes).name = name :=
    (name_of_settings (settings_check watch processes)).trans named
  have after : (watch.report timestamp processes table cycle).1.name = name := by
    rw [report_fst]
    exact (name_of_settings (settings_reported watch processes table)).trans named
  have counted := Context.add_of_nameless refused
    (show TagSet.Names name (countReading (watch.report timestamp processes table cycle).1).tags
      from after ▸ names_tags _)
  rw [report] at counted ⊢
  dsimp only at counted ⊢
  rw [count]
  dsimp only
  rw [counted, batch_visits_of_nameless refused checked]

end Watch

end Telemetry
