/-
This file says which points are canonical and that cleaning reaches exactly those.

A canonical point has a canonical metric, canonical keys and values, and a finite value. Cleaning
gives nothing else, and it leaves a canonical point as it is. Keys may be rewritten by cleaning, so
the second law needs that tags whose cleaned keys ascend are put back in the order they came in.

Points also come from the call site and from lines of text. Both ways end in cleaning, whatever the
context is, so the points they give are canonical too.
-/

import Telemetry.Line
import Telemetry.Proofs.Cleaning
import Telemetry.Proofs.Tables

namespace Telemetry

/-! ### Tag sets -/

namespace TagSet

/-- Every key and every value is canonical. -/
def IsCanonical (tags : TagSet) : Prop :=
  ∀ pair ∈ tags.entries, isCanonical pair.1 = true ∧ isCanonical pair.2 = true

instance (tags : TagSet) : Decidable tags.IsCanonical :=
  inferInstanceAs (Decidable (∀ pair ∈ tags.entries, _ ∧ _))

theorem cleanPair_eq_ok_iff {pair cleaned : String × String} :
    cleanPair pair = .ok cleaned ↔
      Telemetry.clean pair.1 = .ok cleaned.1 ∧ Telemetry.clean pair.2 = .ok cleaned.2 := by
  unfold cleanPair
  split
  · rename_i refused
    simp [refused]
  · rename_i kept refused
    simp [refused]
  · rename_i key value keptKey keptValue
    rw [keptKey, keptValue]
    simp only [Except.ok.injEq]
    exact ⟨fun same => by rw [← same]; exact ⟨rfl, rfl⟩, fun same => Prod.ext same.1 same.2⟩

/-- What cleaning adds to canonical tags is canonical. -/
theorem isCanonical_of_cleanInto {cleaned result : TagSet} {entries : List (String × String)}
    (canonical : cleaned.IsCanonical) (success : cleanInto cleaned entries = .ok result) :
    result.IsCanonical := by
  induction entries generalizing cleaned with
  | nil =>
    rw [cleanInto_nil] at success
    rw [← Except.ok.inj success]
    exact canonical
  | cons pair rest inductionHypothesis =>
    rw [cleanInto] at success
    split at success
    · cases success
    · rename_i key value cleanedPair
      obtain ⟨cleanKey, cleanValue⟩ := cleanPair_eq_ok_iff.mp cleanedPair
      split at success
      · cases success
      · refine inductionHypothesis (fun entry member => ?_) success
        rcases Table.mem_entries_insert member with rfl | before
        · exact ⟨isCanonical_of_clean cleanKey, isCanonical_of_clean cleanValue⟩
        · exact canonical entry before

/-- A cleaned tag set is canonical. -/
theorem isCanonical_of_clean {tags cleaned : TagSet} (success : tags.clean = .ok cleaned) :
    cleaned.IsCanonical :=
  isCanonical_of_cleanInto (fun _ member => by cases member) success

/-- Tags whose cleaned forms ascend behind those that are clean already are all added at the end,
in the order in which they stand. -/
theorem cleanInto_ascending {image : String × String → String × String} {cleaned : TagSet}
    {entries : List (String × String)}
    (images : ∀ pair ∈ entries, cleanPair pair = .ok (image pair))
    (ascending : (cleaned.entries ++ entries.map image).Pairwise
      fun left right => left.1 < right.1) :
    ∃ result, cleanInto cleaned entries = .ok result ∧
      result.entries = cleaned.entries ++ entries.map image := by
  induction entries generalizing cleaned with
  | nil => exact ⟨cleaned, rfl, by simp⟩
  | cons pair rest inductionHypothesis =>
    have greatest : ∀ entry ∈ cleaned.entries, entry.1 < (image pair).1 := fun entry member =>
      (List.pairwise_append.mp ascending).2.2 entry member (image pair) (by simp)
    have free : cleaned.contains (image pair).1 = false := by
      rw [Table.contains, Table.get?_eq_none_of_greatest greatest]
      rfl
    have placed : (cleaned.insert (image pair).1 (image pair).2).entries =
        cleaned.entries ++ [image pair] := Table.place_greatest _ greatest
    have whole : (cleaned.insert (image pair).1 (image pair).2).entries ++ rest.map image =
        cleaned.entries ++ (pair :: rest).map image := by
      rw [placed, List.append_assoc]
      rfl
    obtain ⟨result, success, entries⟩ :=
      @inductionHypothesis (cleaned.insert (image pair).1 (image pair).2)
        (fun other member => images other (List.mem_cons_of_mem _ member))
        (by rw [whole]; exact ascending)
    refine ⟨result, ?_, entries.trans whole⟩
    rw [cleanInto, images pair List.mem_cons_self]
    simp only [free, Bool.false_eq_true, if_false]
    exact success

/-- Cleaning tags whose cleaned forms ascend gives those forms. -/
theorem clean_ascending {image : String × String → String × String} {tags : TagSet}
    (images : ∀ pair ∈ tags.entries, cleanPair pair = .ok (image pair))
    (ascending : (tags.entries.map image).Pairwise fun left right => left.1 < right.1) :
    ∃ result, tags.clean = .ok result ∧ result.entries = tags.entries.map image :=
  @cleanInto_ascending image ∅ tags.entries images ascending

/-- Cleaning leaves a canonical tag set as it is. -/
theorem clean_of_isCanonical {tags : TagSet} (canonical : tags.IsCanonical) :
    tags.clean = .ok tags := by
  have images : ∀ pair ∈ tags.entries, cleanPair pair = .ok (id pair) := fun pair member =>
    cleanPair_eq_ok_iff.mpr ⟨Telemetry.clean_of_isCanonical (canonical pair member).1,
      Telemetry.clean_of_isCanonical (canonical pair member).2⟩
  obtain ⟨result, success, entries⟩ :=
    clean_ascending images (by rw [List.map_id]; exact tags.ascending)
  rw [success, Table.eq_of_entries (entries.trans (List.map_id _))]

end TagSet

/-! ### Points -/

namespace Point

/-- What every point that leaves the program is like. -/
structure IsCanonical (point : Point) : Prop where
  metric : isCanonical point.metric = true
  tags : point.tags.IsCanonical
  value : point.value.isFinite = true

/-- Cleaning succeeds when the value is finite and the tags and the metric can be cleaned. -/
theorem clean_eq_ok_iff {point cleaned : Point} :
    point.clean = .ok cleaned ↔
      point.value.isFinite = true ∧ ∃ tags metric, point.tags.clean = .ok tags ∧
        Telemetry.clean point.metric = .ok metric ∧
        cleaned = { point with metric := metric, tags := tags } := by
  unfold Point.clean Point.cleaned
  cases finite : point.value.isFinite with
  | false => simp
  | true =>
    cases tags : point.tags.clean with
    | error refusal => simp
    | ok tags =>
      cases metric : Telemetry.clean point.metric with
      | error refusal => simp
      | ok metric => simp [eq_comm]

/-- A cleaned point is canonical. -/
theorem isCanonical_of_clean {point cleaned : Point} (success : point.clean = .ok cleaned) :
    cleaned.IsCanonical := by
  obtain ⟨finite, tags, metric, cleanTags, cleanMetric, rfl⟩ := clean_eq_ok_iff.mp success
  exact ⟨Telemetry.isCanonical_of_clean cleanMetric, TagSet.isCanonical_of_clean cleanTags,
    finite⟩

/-- Cleaning leaves a canonical point as it is. -/
theorem clean_of_isCanonical {point : Point} (canonical : point.IsCanonical) :
    point.clean = .ok point :=
  clean_eq_ok_iff.mpr ⟨canonical.value, point.tags, point.metric,
    TagSet.clean_of_isCanonical canonical.tags,
    Telemetry.clean_of_isCanonical canonical.metric, rfl⟩

/-- Cleaning a cleaned point changes nothing. -/
theorem clean_clean {point cleaned : Point} (success : point.clean = .ok cleaned) :
    cleaned.clean = .ok cleaned :=
  clean_of_isCanonical (isCanonical_of_clean success)

end Point

/-! ### Where canonical points come from -/

/-- A point made at the call site is canonical. -/
theorem Context.isCanonical_of_canonicalize {context : Context} {metric : String}
    {timestamp : Int64} {value : Value} {tags : TagSet} {point : Point}
    (success : context.canonicalize metric timestamp value tags = .ok point) :
    point.IsCanonical :=
  Point.isCanonical_of_clean success

/-- A point read from a line is canonical. -/
theorem Line.isCanonical_of_read {context : Context} {text : String} {line : Line}
    (success : Line.read context text = .ok line) : line.point.IsCanonical := by
  unfold Line.read readFields at success
  split at success
  · split at success
    · cases success
    · split at success
      · cases success
      · simp only at success
        split at success
        · cases success
        · rename_i canonicalized
          rw [← Except.ok.inj success]
          exact Context.isCanonical_of_canonicalize canonicalized
  · cases success

end Telemetry
