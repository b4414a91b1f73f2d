/-
This file says which point a call makes, for every context and whatever the call gives.

The tags of the call are laid over the defaults, and the host's name is added or left out. This is
decided on the keys as they are given. Whether the point is refused is decided on the keys after
cleaning. The two meet in one tag set, which is given here by its look-up alone: the point is made
exactly when the value is finite, no tag of the set is at fault and the metric has an accepted
character, and otherwise the first of these three that fails is the refusal.
-/

import Telemetry.Context
import Telemetry.Proofs.TagCleaning

namespace Telemetry

/-- The result of a computation that can be compared with a given one. -/
theorem eq_ok_of_toOption {Refused Result : Type} {outcome : Except Refused Result}
    {result : Result} (same : outcome.toOption = some result) : outcome = .ok result := by
  cases outcome with
  | error refused => cases same
  | ok found => exact congrArg Except.ok (Option.some.inj same)

namespace Context

/-- What stands under a key in the tags that a call resolves to. The call's host is kept, without
one the host's name is taken, and an empty one asks for no host. Under the other keys the call's
tags go before the defaults. -/
def tagFor? (context : Context) (tags : TagSet) (key : String) : Option String :=
  if key = hostTag then
    match tags.get? hostTag with
    | none => some context.hostname
    | some host => if host = "" then none else some host
  else (tags.get? key).or (context.defaultTags.get? key)

/-- Resolving tags gives under every key what is said there. -/
theorem get?_resolve_eq_tagFor? (context : Context) (tags : TagSet) (key : String) :
    (context.resolve tags).get? key = context.tagFor? tags key := by
  rw [resolve, tagFor?]
  by_cases host : key = hostTag
  · rw [host, if_pos rfl]
    split
    · rename_i found
      rw [Table.get?_merge, Table.get?_insert_self, Option.some_or, found]
    · rename_i found
      rw [Table.get?_erase_self, found]
      rfl
    · rename_i given different found
      rw [Table.get?_merge, found, Option.some_or]
      exact (if_neg different).symm
  · rw [if_neg host]
    split
    · rw [Table.get?_merge, Table.get?_insert_other _ host]
    · rw [Table.get?_erase_other _ host, Table.get?_merge, Table.get?_erase_other _ host]
    · rw [Table.get?_merge]

/-- What becomes of a call whose tags resolve to `whole`. -/
structure Canonicalization (context : Context) (metric : String) (timestamp : Int64)
    (value : Value) (tags whole : TagSet) : Prop where
  resolved : ∀ key, whole.get? key = context.tagFor? tags key
  /-- The point is made when nothing is at fault. -/
  made : (∃ point, context.canonicalize metric timestamp value tags = .ok point) ↔
    value.isFinite = true ∧ TagSet.Faultless whole.entries ∧ hasAccepted metric = true
  /-- It has the cleaned metric and the cleaned tags, and the rest is as it was given. -/
  point : ∀ point, context.canonicalize metric timestamp value tags = .ok point →
    point.metric = kept metric ∧ point.timestamp = timestamp ∧ point.value = value ∧
      TagSet.Cleaned whole.entries point.tags
  /-- The refusal is about the value, else about the first tag at fault, else about the metric. -/
  refused : ∀ refusal, context.canonicalize metric timestamp value tags = .error refusal ↔
    (value.isFinite = false ∧ refusal = .nonFinite metric value.toReal) ∨
      (value.isFinite = true ∧ TagSet.FirstFault whole.entries refusal) ∨
      (value.isFinite = true ∧ TagSet.Faultless whole.entries ∧ hasAccepted metric = false ∧
        refusal = .metric metric)

end Context

namespace Point

variable {point : Point}

/-- Exactly the points without a fault can be cleaned. -/
theorem exists_clean_iff :
    (∃ cleaned, point.clean = .ok cleaned) ↔
      point.value.isFinite = true ∧ TagSet.Faultless point.tags.entries ∧
        hasAccepted point.metric = true := by
  simp only [clean_eq_ok_iff]
  constructor
  · rintro ⟨cleaned, finite, tags, metric, cleanTags, cleanMetric, rfl⟩
    exact ⟨finite, TagSet.exists_clean_iff.mp ⟨tags, cleanTags⟩,
      hasAccepted_iff.mpr (Telemetry.clean_eq_ok_iff.mp cleanMetric).1⟩
  · rintro ⟨finite, faultless, accepted⟩
    obtain ⟨tags, cleanTags⟩ := TagSet.exists_clean_iff.mpr faultless
    exact ⟨_, finite, tags, _, cleanTags, clean_of_hasAccepted accepted, rfl⟩

/-- A point is refused for its value, else for its first tag at fault, else for its metric. -/
theorem clean_eq_error_iff {refusal : Refusal} :
    point.clean = .error refusal ↔
      (point.value.isFinite = false ∧ refusal = .nonFinite point.metric point.value.toReal) ∨
        (point.value.isFinite = true ∧ TagSet.FirstFault point.tags.entries refusal) ∨
        (point.value.isFinite = true ∧ TagSet.Faultless point.tags.entries ∧
          hasAccepted point.metric = false ∧ refusal = .metric point.metric) := by
  rw [← TagSet.clean_eq_error_iff, ← TagSet.exists_clean_iff, Point.clean, Point.cleaned]
  cases finite : point.value.isFinite with
  | false =>
    simp only [Bool.not_false, if_true, true_and, Bool.false_eq_true, false_and, or_false,
      Except.error.injEq]
    exact eq_comm
  | true =>
    cases tags : point.tags.clean with
    | error found => simp
    | ok tags =>
      cases accepted : hasAccepted point.metric with
      | true => simp [clean_of_hasAccepted accepted]
      | false => simp [clean_of_not_hasAccepted accepted, eq_comm]

end Point

namespace Context

/-- Every call does what its resolved tags, its value and its metric say. -/
theorem canonicalization_of_call (context : Context) (metric : String) (timestamp : Int64)
    (value : Value) (tags : TagSet) :
    ∃ whole, context.Canonicalization metric timestamp value tags whole := by
  refine ⟨context.resolve tags, context.get?_resolve_eq_tagFor? tags, Point.exists_clean_iff,
    fun point success => ?_, fun refusal => Point.clean_eq_error_iff⟩
  obtain ⟨_, resolved, cleaned, cleanTags, cleanMetric, rfl⟩ := Point.clean_eq_ok_iff.mp success
  exact ⟨(Telemetry.clean_eq_ok_iff.mp cleanMetric).2, rfl, rfl,
    TagSet.cleaned_of_clean cleanTags⟩

/-- The defaults name a host and a site. A call that names no host gets the host's own name, and one
whose tag is cleaned to the key of the site is refused. -/
example :
    let context := { Context.new "web 01" with
      defaultTags := Table.ofList [("host", "default"), ("site", "north")] }
    (context.canonicalize "cpu %" 7 (.integer 1) ∅).toOption.map (·.tags.entries) =
        some [("host", "web01"), ("site", "north")] ∧
      (context.canonicalize "cpu" 7 (.integer 1)
        (Table.ofList [("si te", "x"), ("host", "")])).toOption = none := by
  decide +kernel

end Context

end Telemetry
