/-
This file says what stands where a point was cleaned.

Cleaning looks at the value first, then at the tags, then at the metric, and the first of them that
is at fault ends it. It is not all or nothing: when the metric alone is at fault, the tags are clean
by then. What is left is refused again for the same reason, however often it is cleaned, and nothing
about it changes any more. A point that is accepted is canonical and stays as it is.
-/

import Mathlib.Logic.Function.Iterate
import Telemetry.Proofs.Resolution
import Telemetry.Proofs.RewrittenKeys

namespace Telemetry

/-- Tags are never refused for a metric. -/
theorem TagSet.clean_ne_metric (tags : TagSet) (name : String) :
    tags.clean ≠ .error (.metric name) := by
  intro refused
  obtain ⟨_, _, _, _, _, fault⟩ := TagSet.clean_eq_error_iff.mp refused
  cases fault

/-- Cleaning cleaned tags changes nothing. -/
theorem TagSet.clean_clean {tags cleaned : TagSet} (success : tags.clean = .ok cleaned) :
    cleaned.clean = .ok cleaned :=
  TagSet.clean_of_isCanonical (TagSet.isCanonical_of_clean success)

namespace Point

/-! ### How cleaning ends -/

/-- The ways in which cleaning a point ends: what stands there afterwards, and the refusal if there
is one. -/
inductive Outcome (point : Point) : Point → Option Refusal → Prop where
  | value (infinite : point.value.isFinite = false) :
    Outcome point point (some (.nonFinite point.metric point.value.toReal))
  | tags (finite : point.value.isFinite = true) {refusal : Refusal}
      (faulty : point.tags.clean = .error refusal) : Outcome point point (some refusal)
  | metric (finite : point.value.isFinite = true) {tags : TagSet}
      (clean : point.tags.clean = .ok tags) (none : hasAccepted point.metric = false) :
    Outcome point { point with tags := tags } (some (.metric point.metric))
  | clean (finite : point.value.isFinite = true) {tags : TagSet}
      (clean : point.tags.clean = .ok tags) (some : hasAccepted point.metric = true) :
    Outcome point { point with metric := kept point.metric, tags := tags } none

variable {point after : Point} {refusal : Option Refusal}

/-- Each of these ways is what cleaning does. -/
theorem Outcome.cleaned_eq (outcome : Outcome point after refusal) :
    point.cleaned = (after, refusal) := by
  cases outcome with
  | value infinite => simp only [cleaned, infinite, Bool.not_false, if_true]
  | tags finite faulty =>
    simp only [cleaned, finite, faulty, Bool.not_true, Bool.false_eq_true, if_false]
  | metric finite clean none =>
    simp only [cleaned, finite, clean, clean_of_not_hasAccepted none, Bool.not_true,
      Bool.false_eq_true, if_false]
  | clean finite clean some =>
    simp only [cleaned, finite, clean, clean_of_hasAccepted some, Bool.not_true,
      Bool.false_eq_true, if_false]

/-- Cleaning ends in one of these ways. -/
theorem outcome_cleaned (point : Point) : Outcome point point.cleaned.1 point.cleaned.2 := by
  have ends {after : Point} {refusal : Option Refusal} (outcome : Outcome point after refusal) :
      Outcome point point.cleaned.1 point.cleaned.2 := by
    rw [outcome.cleaned_eq]
    exact outcome
  cases finite : point.value.isFinite with
  | false => exact ends (.value finite)
  | true =>
    cases clean : point.tags.clean with
    | error refusal => exact ends (.tags finite clean)
    | ok tags =>
      cases accepted : hasAccepted point.metric with
      | false => exact ends (.metric finite clean accepted)
      | true => exact ends (.clean finite clean accepted)

/-- What is left ends in the same way and is left again. -/
theorem Outcome.again (outcome : Outcome point after refusal) : Outcome after after refusal := by
  cases outcome with
  | value infinite => exact .value infinite
  | tags finite faulty => exact .tags finite faulty
  | @metric finite tags clean none =>
    exact @Outcome.metric { point with tags := tags } finite tags (TagSet.clean_clean clean) none
  | @clean finite tags clean some =>
    have canonical : isCanonical (kept point.metric) = true :=
      Telemetry.isCanonical_of_clean (clean_of_hasAccepted some)
    have same := @Outcome.clean { point with metric := kept point.metric, tags := tags } finite tags
      (TagSet.clean_clean clean) (hasAccepted_of_isCanonical canonical)
    rwa [kept_kept] at same

/-! ### What is left -/

/-- What cleaning comes to where a point stands. -/
structure Settles (point after : Point) (refusal : Option Refusal) : Prop where
  /-- The timestamp and the value are never touched. -/
  untouched : after.timestamp = point.timestamp ∧ after.value = point.value
  /-- The point is accepted when nothing about it is at fault, and only then. -/
  accepted : refusal = none ↔ point.value.isFinite = true ∧
    TagSet.Faultless point.tags.entries ∧ hasAccepted point.metric = true
  /-- An accepted point has become canonical. -/
  canonical : refusal = none → after.IsCanonical
  /-- A refused point keeps its metric. -/
  metric : refusal ≠ none → after.metric = point.metric
  /-- It keeps its tags, unless it is refused for its metric. -/
  tags : ∀ found, refusal = some found → (∀ name, found ≠ .metric name) →
    after.tags = point.tags
  /-- A point that is refused for its metric has all its tags cleaned. -/
  cleanTags : ∀ name, refusal = some (.metric name) →
    name = point.metric ∧ point.tags.clean = .ok after.tags ∧ after.tags.IsCanonical
  /-- Cleaning what is left gives the same answer and changes nothing. -/
  again : after.cleaned = (after, refusal)
  /-- So it does however often it is repeated. -/
  ever : ∀ times, ((fun given : Point => given.cleaned.1)^[times] after).cleaned =
    (after, refusal)

/-- Whatever a point is like, cleaning settles it at once. -/
theorem settles_of_cleaned (point : Point) : point.Settles point.cleaned.1 point.cleaned.2 := by
  have outcome := point.outcome_cleaned
  have again := outcome.again.cleaned_eq
  generalize point.cleaned.1 = after at outcome again ⊢
  generalize point.cleaned.2 = refusal at outcome again ⊢
  have ever (times : Nat) : ((fun given : Point => given.cleaned.1)^[times] after).cleaned =
      (after, refusal) := by
    rw [Function.iterate_fixed (congrArg Prod.fst again), again]
  have accepted : refusal = none ↔ point.value.isFinite = true ∧
      TagSet.Faultless point.tags.entries ∧ hasAccepted point.metric = true := by
    rw [← TagSet.exists_clean_iff]
    cases outcome with
    | value infinite => simp [infinite]
    | tags finite faulty => simp [faulty]
    | metric finite clean none => simp [none]
    | clean finite clean some => simp [finite, clean, some]
  cases outcome with
  | value infinite =>
    exact ⟨⟨rfl, rfl⟩, accepted, nofun, fun _ => rfl, fun _ _ _ => rfl, nofun, again, ever⟩
  | tags finite faulty =>
    refine ⟨⟨rfl, rfl⟩, accepted, nofun, fun _ => rfl, fun _ _ _ => rfl, fun name same => ?_,
      again, ever⟩
    rw [Option.some.inj same] at faulty
    exact absurd faulty (point.tags.clean_ne_metric name)
  | metric finite clean none =>
    refine ⟨⟨rfl, rfl⟩, accepted, nofun, fun _ => rfl, fun found same other => ?_,
      fun name same => ?_, again, ever⟩
    · exact absurd (Option.some.inj same).symm (other point.metric)
    · exact ⟨(Refusal.metric.inj (Option.some.inj same)).symm, clean,
        TagSet.isCanonical_of_clean clean⟩
  | clean finite clean some =>
    refine ⟨⟨rfl, rfl⟩, accepted, fun _ => ?_, fun refused => absurd rfl refused, nofun, nofun,
      again, ever⟩
    exact ⟨Telemetry.isCanonical_of_clean (clean_of_hasAccepted some),
      TagSet.isCanonical_of_clean clean, finite⟩

/-- A metric without an accepted character leaves the tags clean and the point refused. -/
example :
    let point : Point := ⟨"$$$", 7, .integer 1, Table.ofList [("inter face", "eth 0")]⟩
    let left : Point := { point with tags := Table.ofList [("interface", "eth0")] }
    point.cleaned = (left, some (.metric "$$$")) ∧ left.cleaned = (left, some (.metric "$$$")) := by
  decide +kernel

end Point

end Telemetry
