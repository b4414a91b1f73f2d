/-
This file says what the limits for open files make of a report.

The two limits of a process are read together. They are left out together when the soft one is
lifted, whatever the hard one says, and else both are to be numbers. So a report whose other texts
can all be read is accepted or refused by its limits alone, and a lifted hard limit refuses a
process whose soft limit is a number. Lines about anything else do not matter.
-/

import Telemetry.Proofs.Readable

namespace Telemetry

namespace ProcessReport

open Value (IsNumber)

/-! ### The line about open files -/

/-- The word for a limit that is lifted. -/
def lifted : String := "unlimited"

/-- One line of a text sets these limits for open files, with any blanks between its words, and no
other line is about open files. -/
def SetsLimits (text soft hard : String) : Prop :=
  ∃ before line after, lines text = before ++ line :: after ∧
    words line = ["Max", "open", "files", soft, hard, "files"] ∧
    ∀ other ∈ before ++ after, ¬["Max", "open", "files"] <+: words other

/-- A line about something else sets no limits for open files. -/
theorem limitsOfLine?_eq_none {line : String} (other : ¬["Max", "open", "files"] <+: words line) :
    limitsOfLine? line = none := by
  rw [limitsOfLine?]
  split
  · rename_i soft hard unit cut
    exact absurd ⟨[soft, hard, unit], cut.symm⟩ other
  · rfl

/-- There are limits unless the soft one is lifted. -/
theorem openFileLimits?_of_setsLimits {text soft hard : String} (sets : SetsLimits text soft hard) :
    openFileLimits? text = if soft = lifted then none else some (soft, hard) := by
  obtain ⟨before, line, after, cut, found, others⟩ := sets
  have nothing {lines : List String} (inside : ∀ other ∈ lines, other ∈ before ++ after) :
      lines.findSome? limitsOfLine? = none :=
    List.findSome?_eq_none_iff.mpr fun other member =>
      limitsOfLine?_eq_none (others other (inside other member))
  have here : limitsOfLine? line = if soft = lifted then none else some (soft, hard) := by
    rw [limitsOfLine?, found]
    rfl
  rw [openFileLimits?, cut, List.findSome?_append, nothing fun _ => List.mem_append_left _,
    Option.none_or, List.findSome?_cons, here, nothing fun _ => List.mem_append_right _]
  by_cases isLifted : soft = lifted
  · rw [if_pos isLifted]
  · rw [if_neg isLifted]

theorem limits_of_setsLimits {text soft hard : String} (sets : SetsLimits text soft hard)
    (given : soft ≠ lifted) : openFileLimits? text = some (soft, hard) := by
  rw [openFileLimits?_of_setsLimits sets, if_neg given]

theorem isSome_of_setsLimits {text soft hard : String} (sets : SetsLimits text soft hard) :
    (openFileLimits? text).isSome = decide (soft ≠ lifted) := by
  rw [openFileLimits?_of_setsLimits sets]
  by_cases isLifted : soft = lifted
  · rw [if_pos isLifted, decide_eq_false (not_not.mpr isLifted)]
    rfl
  · rw [if_neg isLifted, decide_eq_true isLifted]
    rfl

/-! ### What the limits decide -/

variable {report : ProcessReport} {context : Context} {timestamp : Int64} {tags : TagSet}
  {soft hard : String}

theorem not_isNumber_lifted : ¬IsNumber lifted := by decide +kernel

/-- The first limit that is no number refuses a report whose other texts can be read. -/
theorem IsReadable.readings_eq_error (readable : report.IsReadable) (tags : TagSet)
    (limits : openFileLimits? report.limits = some (soft, hard)) :
    (¬IsNumber soft → report.readings tags = .error (.number soft (.unparseable soft))) ∧
      (IsNumber soft → ¬IsNumber hard →
        report.readings tags = .error (.number hard (.unparseable hard))) := by
  obtain ⟨⟨state, found, long, _⟩, enough, _⟩ := readable
  have first := (@fields_eq_ok_iff report tags _).mpr ⟨state, found, long, enough, rfl⟩
  rw [limits, List.append_assoc] at first
  constructor
  · intro none
    rw [readings, first]
    simp only [limitFields, List.cons_append, List.mapM_cons, Field.reading,
      Value.ofText_of_not_isNumber none]
    rfl
  · rintro ⟨value, number⟩ none
    rw [readings, first]
    simp only [limitFields, List.cons_append, List.mapM_cons, Field.reading, number,
      Value.ofText_of_not_isNumber none]
    rfl

/-- What two limits make of a report on a process of an entry. -/
structure GoesByLimits (report : ProcessReport) (context : Context) (timestamp : Int64)
    (watch : Watch) (id : Nat) (soft hard : String) : Prop where
  /-- It is accepted when the soft limit is lifted or both limits are numbers. -/
  accepted : (∃ points, (report.points context timestamp (watch.tagsOf id)).2 = .ok points) ↔
    soft = lifted ∨ IsNumber soft ∧ IsNumber hard
  /-- A soft limit that is neither lifted nor a number refuses it. -/
  softRefuses : soft ≠ lifted → ¬IsNumber soft →
    (report.points context timestamp (watch.tagsOf id)).2 =
      .error (.number soft (.unparseable soft))
  /-- Behind a soft limit that is a number, a hard one that is not, be it lifted, refuses it. -/
  hardRefuses : IsNumber soft → ¬IsNumber hard →
    (report.points context timestamp (watch.tagsOf id)).2 =
      .error (.number hard (.unparseable hard))
  /-- An accepted report has readings of all its series, and of both limits unless the soft one is
  lifted. It gives their points. -/
  readings : ∀ points, (report.points context timestamp (watch.tagsOf id)).2 = .ok points →
    ∃ readings : List Reading, points = readings.filterMap (context.point? timestamp) ∧
      (readings.map fun reading => (reading.metric, reading.tags)) =
        (series (soft ≠ lifted)).map fun entry => (entry.1, tagsFor (watch.tagsOf id) entry.2)
  /-- With valid settings and a name that can be cleaned, each of them has a point. -/
  complete : ∀ points, (report.points context timestamp (watch.tagsOf id)).2 = .ok points →
    context.IsValid → (∃ cleaned, clean watch.name = .ok cleaned) →
      report.openFiles < UInt64.size →
        report.Complete context watch id points ∧
          (points.map fun point => (point.metric, point.tags.get? "type")) =
            (series (soft ≠ lifted)).map fun entry =>
              (entry.1, entry.2.or (context.defaultTags.get? "type"))

/-- A report that can be read but for its limits is accepted when the soft limit is lifted or both
limits are numbers. -/
theorem accepted_iff_of_setsLimits (readable : report.IsReadable)
    (sets : SetsLimits report.limits soft hard) :
    (∃ points, (report.points context timestamp tags).2 = .ok points) ↔
      soft = lifted ∨ IsNumber soft ∧ IsNumber hard := by
  rw [accepted_iff, and_iff_right readable, openFileLimits?_of_setsLimits sets]
  by_cases isLifted : soft = lifted
  · rw [if_pos isLifted]
    exact iff_of_true nofun (.inl isLifted)
  · rw [if_neg isLifted, or_iff_right isLifted]
    exact ⟨fun all => all (soft, hard) rfl, fun both pair same => Option.some.inj same ▸ both⟩

/-- A report that can be read but for its limits goes by the one line about open files. -/
theorem goesByLimits_of_setsLimits (readable : report.IsReadable)
    (sets : SetsLimits report.limits soft hard) (context : Context) (timestamp : Int64)
    (watch : Watch) (id : Nat) : report.GoesByLimits context timestamp watch id soft hard where
  accepted := accepted_iff_of_setsLimits readable sets
  softRefuses given none := by
    rw [points_snd, (readable.readings_eq_error _ (limits_of_setsLimits sets given)).1 none]
    rfl
  hardRefuses number none := by
    have given : soft ≠ lifted := fun isLifted => not_isNumber_lifted (isLifted ▸ number)
    rw [points_snd,
      (readable.readings_eq_error _ (limits_of_setsLimits sets given)).2 number none]
    rfl
  readings points accepted := by
    obtain ⟨readings, success, same⟩ := points_eq_ok_iff.mp accepted
    exact ⟨readings, same, isSome_of_setsLimits sets ▸ readings_series success⟩
  complete points accepted valid cleanable fits := by
    obtain ⟨readings, success, rfl⟩ :=
      points_eq_map valid (Watch.clean_name cleanable) (watch.names_tagsOf id) fits accepted
    have complete := complete_of_readings success context timestamp
    exact ⟨complete, isSome_of_setsLimits sets ▸ complete.series⟩

/-- The counters of a server. -/
def serverCounters : String :=
  "rchar: 1000\nwchar: 2000\nsyscr: 30\nsyscw: 40\nread_bytes: 4096\nwrite_bytes: 8192\n" ++
    "cancelled_write_bytes: 0\n"

/-- A server with these limits. -/
def limitedServer (soft hard : String) : ProcessReport :=
  ⟨serverState, serverCounters,
    "Max cpu time  unlimited  unlimited  seconds\nMax open files  " ++ soft ++ "  " ++ hard ++
      "  files\n", 8⟩

theorem isReadable_limitedServer (soft hard : String) : (limitedServer soft hard).IsReadable := by
  have state : stateFields? serverState = some ["4242", "redis server", "S", "1", "4242", "4242",
      "0", "-1", "4194560", "1500", "0", "3", "0", "120", "45", "0", "0", "20", "0", "4", "0",
      "100", "104857600", "2048", "0"] := by
    decide +kernel
  have counters : 6 ≤ (ioFields serverCounters).length ∧
      ∀ place ∈ List.range 6, IsNumber ((ioFields serverCounters).getD place "") := by
    decide +kernel
  exact ⟨⟨_, state, by decide, by decide +kernel⟩, counters⟩

theorem setsLimits_limitedServer :
    SetsLimits (limitedServer "1024" "524288").limits "1024" "524288" ∧
      SetsLimits (limitedServer "1024" lifted).limits "1024" lifted := by
  refine ⟨⟨["Max cpu time  unlimited  unlimited  seconds"],
    "Max open files  1024  524288  files", [], ?_⟩,
    ⟨["Max cpu time  unlimited  unlimited  seconds"],
    "Max open files  1024  unlimited  files", [], ?_⟩⟩
  all_goals decide +kernel

/-- A server whose limits are numbers has a point of every series. -/
theorem goesByLimits_of_server :
    let report := limitedServer "1024" "524288"
    let redis : Watch := ⟨"redis", "redis-server", .empty, [⟨4242, 1⟩], ⟨2, []⟩⟩
    report.IsReadable ∧ SetsLimits report.limits "1024" "524288" ∧
      report.GoesByLimits (Context.new "web01") 7 redis 1 "1024" "524288" ∧
      ∃ points, (report.points (Context.new "web01") 7 (redis.tagsOf 1)).2 = .ok points ∧
        points.length = 15 := by
  intro report redis
  have readable : report.IsReadable := isReadable_limitedServer "1024" "524288"
  have sets : SetsLimits report.limits "1024" "524288" := setsLimits_limitedServer.1
  have goes := goesByLimits_of_setsLimits readable sets (Context.new "web01") 7 redis 1
  obtain ⟨points, accepted⟩ := goes.accepted.mpr (.inr (by decide +kernel))
  have valid : (Context.new "web01").IsValid := ⟨⟨"web01", rfl⟩, nofun⟩
  have cleanable : ∃ cleaned, clean redis.name = .ok cleaned := ⟨"redis", by decide +kernel⟩
  obtain ⟨_, series⟩ := goes.complete points accepted valid cleanable (by decide)
  have count := congrArg List.length series
  rw [List.length_map, List.length_map, length_series] at count
  exact ⟨readable, sets, goes, points, accepted, count⟩

/-- Limits that are numbers or lifted need not be accepted. -/
theorem not_always_accepted :
    ¬∀ (report : ProcessReport) (context : Context) (timestamp : Int64) (tags : TagSet)
        (soft hard : String), report.IsReadable → SetsLimits report.limits soft hard →
      (soft = lifted ∨ IsNumber soft) → (hard = lifted ∨ IsNumber hard) →
        ∃ points, (report.points context timestamp tags).2 = .ok points := by
  intro always
  have accepted := always (limitedServer "1024" lifted) (Context.new "web01") 7 ∅ "1024" lifted
    (isReadable_limitedServer _ _) setsLimits_limitedServer.2 (.inr (by decide +kernel)) (.inl rfl)
  rw [accepted_iff_of_setsLimits (isReadable_limitedServer _ _)
    setsLimits_limitedServer.2] at accepted
  rcases accepted with isLifted | ⟨_, number⟩
  · exact absurd isLifted (by decide)
  · exact not_isNumber_lifted number

end ProcessReport

end Telemetry
