/-
This file says how the operations on tag sets agree with one another.

Whether a set includes another one, what two sets share, and what one set becomes when another is
merged into it are computed by three different passes over the tags. Seen as sets of pairs of a key
and a value, with one value for a key, they are one order: inclusion orders the sets, what two sets
share is their meet, and merging keeps of the first set what the second one does not replace. Each
operation is opened here once, by the pairs that its result holds, and the laws follow from that.
-/

import Telemetry.Proofs.Tables
import Telemetry.Tags.TagSet

namespace Telemetry

namespace TagSet

variable {tags other part : TagSet} {key value : String}

/-! ### The pairs of a set -/

/-- Sets with the same pairs are equal. -/
theorem eq_of_pairs
    (same : ∀ key value, tags.get? key = some value ↔ other.get? key = some value) :
    tags = other :=
  Table.eq_of_get? fun key => Option.ext (same key)

theorem holds_iff : tags.holds (key, value) ↔ tags.get? key = some value := decide_eq_true_iff

/-- A set includes another one when it has all its pairs. -/
theorem includes_iff :
    tags.includes part ↔ ∀ key value, part.get? key = some value → tags.get? key = some value := by
  rw [includes, List.all_eq_true]
  constructor
  · intro held key value found
    exact holds_iff.mp (held (key, value) (Table.get?_eq_some_iff.mp found))
  · rintro held ⟨key, value⟩ member
    exact holds_iff.mpr (held key value (Table.get?_eq_some_iff.mpr member))

/-- Two sets share the pairs that both have. -/
theorem get?_intersection_eq_some_iff : (tags.intersection other).get? key = some value ↔
    tags.get? key = some value ∧ other.get? key = some value := by
  rw [Table.get?_eq_some_iff, intersection, Table.filter, List.mem_filter, holds_iff,
    ← Table.get?_eq_some_iff]

/-- Merging a set into another one adds its pairs and keeps those under other keys. -/
theorem get?_merge_eq_some_iff : (tags.merge other).get? key = some value ↔
    other.get? key = some value ∨ other.get? key = none ∧ tags.get? key = some value := by
  rw [Table.get?_merge, Option.or_eq_some_iff]

/-! ### Inclusion -/

theorem includes_refl (tags : TagSet) : tags.includes tags :=
  includes_iff.mpr fun _ _ found => found

/-- A set includes another one exactly when the two share that one. -/
theorem includes_iff_intersection_eq : tags.includes part ↔ tags.intersection part = part := by
  constructor
  · intro included
    refine eq_of_pairs fun key value => ?_
    rw [get?_intersection_eq_some_iff]
    exact and_iff_right_of_imp (includes_iff.mp included key value)
  · intro same
    refine includes_iff.mpr fun key value found => ?_
    rw [← same] at found
    exact (get?_intersection_eq_some_iff.mp found).1

/-- A set includes another one exactly when merging that one changes nothing. -/
theorem includes_iff_merge_eq : tags.includes part ↔ tags.merge part = tags := by
  constructor
  · intro included
    refine Table.eq_of_get? fun key => ?_
    rw [Table.get?_merge]
    cases found : part.get? key with
    | none => rfl
    | some value => exact (includes_iff.mp included key value found).symm
  · intro same
    refine includes_iff.mpr fun key value found => ?_
    rw [← same]
    exact get?_merge_eq_some_iff.mpr (.inl found)

/-! ### What two sets share -/

theorem intersection_comm (tags other : TagSet) :
    tags.intersection other = other.intersection tags :=
  eq_of_pairs fun key value => by
    rw [get?_intersection_eq_some_iff, get?_intersection_eq_some_iff, and_comm]

theorem intersection_assoc (tags other third : TagSet) :
    (tags.intersection other).intersection third =
      tags.intersection (other.intersection third) :=
  eq_of_pairs fun key value => by simp only [get?_intersection_eq_some_iff, and_assoc]

/-- The sets that two sets both include are those that the shared set includes. -/
theorem intersection_includes_iff :
    (tags.intersection other).includes part ↔ tags.includes part ∧ other.includes part := by
  simp only [includes_iff, get?_intersection_eq_some_iff]
  constructor
  · intro shared
    exact ⟨fun key value found => (shared key value found).1,
      fun key value found => (shared key value found).2⟩
  · rintro ⟨included, otherIncluded⟩ key value found
    exact ⟨included key value found, otherIncluded key value found⟩

/-! ### Merging -/

theorem merge_assoc (tags other third : TagSet) :
    (tags.merge other).merge third = tags.merge (other.merge third) :=
  Table.eq_of_get? fun key => by simp only [Table.get?_merge, Option.or_assoc]

theorem merge_self (tags : TagSet) : tags.merge tags = tags :=
  includes_iff_merge_eq.mp (includes_refl tags)

/-- The order of merging matters exactly where a key has different values. -/
theorem merge_comm_iff : tags.merge other = other.merge tags ↔
    ∀ key value another, tags.get? key = some value → other.get? key = some another →
      value = another := by
  constructor
  · -- A key of both sets gets its value from the one that is merged in.
    intro same key value another found otherFound
    have answers := congrArg (fun merged => merged.get? key) same
    simp only [Table.get?_merge, found, otherFound, Option.some_or, Option.some.injEq] at answers
    exact answers.symm
  · intro agree
    refine Table.eq_of_get? fun key => ?_
    rw [Table.get?_merge, Table.get?_merge]
    cases found : tags.get? key with
    | none => exact Option.or_none
    | some value =>
      cases otherFound : other.get? key with
      | none => rfl
      | some another => rw [agree key value another found otherFound]

/-! ### All laws -/

/-- How inclusion, sharing and merging agree, for any three sets. -/
structure Agrees (tags other third : TagSet) : Prop where
  /-- A set includes another one exactly when the two share all of that one, -/
  shared : tags.includes other ↔ tags.intersection other = other
  /-- and exactly when merging that one changes nothing. -/
  absorbed : tags.includes other ↔ tags.merge other = tags
  /-- Sets share the same in whichever order and grouping they are taken. -/
  sharing_comm : tags.intersection other = other.intersection tags
  sharing_assoc : (tags.intersection other).intersection third =
    tags.intersection (other.intersection third)
  /-- What two sets share is included in both, and includes whatever is. -/
  common : tags.includes (tags.intersection other) ∧ other.includes (tags.intersection other)
  largest : ∀ part : TagSet, tags.includes part → other.includes part →
    (tags.intersection other).includes part
  /-- Sets are merged in any grouping, and a set into itself without a change. -/
  merging_assoc : (tags.merge other).merge third = tags.merge (other.merge third)
  merging_self : tags.merge tags = tags
  /-- The merged set is included afterwards, and under all other keys nothing changes. -/
  added : includes (tags.merge other) other
  kept : ∀ key, other.contains key = false → (tags.merge other).get? key = tags.get? key
  /-- The order of merging does not matter exactly when no key has different values. -/
  merging_comm : tags.merge other = other.merge tags ↔
    ∀ key value another, tags.get? key = some value → other.get? key = some another →
      value = another

/-- The operations on tag sets agree with one another, whichever the sets are. -/
theorem agrees_of_sets (tags other third : TagSet) : Agrees tags other third where
  shared := includes_iff_intersection_eq
  absorbed := includes_iff_merge_eq
  sharing_comm := intersection_comm tags other
  sharing_assoc := intersection_assoc tags other third
  common := intersection_includes_iff.mp (includes_refl _)
  largest _ included otherIncluded := intersection_includes_iff.mpr ⟨included, otherIncluded⟩
  merging_assoc := merge_assoc tags other third
  merging_self := merge_self tags
  added := includes_iff.mpr fun _ _ found => get?_merge_eq_some_iff.mpr (.inl found)
  kept key absent := by
    have missing : other.get? key = none :=
      Option.not_isSome_iff_eq_none.mp (Bool.eq_false_iff.mp absent)
    rw [Table.get?_merge, missing, Option.none_or]
  merging_comm := merge_comm_iff

end TagSet

end Telemetry
