/-
This file says what calls add to a batch.

A reading becomes a point or is rejected, and which of the two it is depends on the settings of the
context alone. So a batch grows by the points of the readings that are not rejected, in the order of
the readings. Fields add theirs when all of them can be read.
-/

import Telemetry.Proofs.Steady
import Telemetry.Proofs.TagCleaning

namespace Telemetry

namespace Context

/-- The point of a reading with the settings of a context, unless it is rejected. -/
def point? (context : Context) (timestamp : Int64) (reading : Reading) : Option Point :=
  (context.canonicalize reading.metric timestamp reading.value reading.tags).toOption

/-- A reading has a point when it is made canonical. -/
theorem point?_eq_some_iff {context : Context} {timestamp : Int64} {reading : Reading}
    {point : Point} :
    context.point? timestamp reading = some point ↔
      context.canonicalize reading.metric timestamp reading.value reading.tags = .ok point := by
  rw [point?]
  cases context.canonicalize reading.metric timestamp reading.value reading.tags with
  | ok found => rw [Except.toOption, Option.some.injEq, Except.ok.injEq]
  | error refusal => exact iff_of_false nofun nofun

theorem point?_congr {context other : Context} (same : context.settings = other.settings)
    (timestamp : Int64) (reading : Reading) :
    context.point? timestamp reading = other.point? timestamp reading := by
  rw [point?, point?, canonicalize_congr same]

theorem add_snd (context : Context) (batch : List Point) (timestamp : Int64) (reading : Reading) :
    (context.add batch timestamp reading).2 =
      batch ++ (context.point? timestamp reading).toList := by
  rw [add, accept, point?]
  cases context.canonicalize reading.metric timestamp reading.value reading.tags with
  | ok point => rfl
  | error refusal => exact (List.append_nil batch).symm

/-- A call leaves the settings as they are, so later readings become the same points. -/
theorem point?_add (context : Context) (batch : List Point) (timestamp : Int64)
    (reading : Reading) :
    (context.add batch timestamp reading).1.point? = context.point? := by
  have settings := (steady_add batch timestamp reading).settings context
  exact funext fun instant => funext fun other => point?_congr settings instant other

/-- The points of readings are that of the first one, if it has one, and those of the rest. -/
theorem filterMap_point?_cons (context : Context) (timestamp : Int64) (reading : Reading)
    (rest : List Reading) :
    (reading :: rest).filterMap (context.point? timestamp) =
      (context.point? timestamp reading).toList ++ rest.filterMap (context.point? timestamp) := by
  cases made : context.point? timestamp reading with
  | none => rw [List.filterMap_cons_none made]; rfl
  | some point => rw [List.filterMap_cons_some made]; rfl

theorem addAll_snd (context : Context) (batch : List Point) (timestamp : Int64)
    (readings : List Reading) :
    (context.addAll batch timestamp readings).2 =
      batch ++ readings.filterMap (context.point? timestamp) := by
  induction readings generalizing context batch with
  | nil => exact (List.append_nil batch).symm
  | cons reading rest inductionHypothesis =>
    show ((context.add batch timestamp reading).1.addAll
      (context.add batch timestamp reading).2 timestamp rest).2 = _
    rw [inductionHypothesis, add_snd, point?_add, List.append_assoc, filterMap_point?_cons]

/-- Fields add the points of their readings when all of them can be read. The first one that cannot
be read gives the refusal. -/
theorem addFields_snd (context : Context) (batch : List Point) (timestamp : Int64)
    (fields : List Field) :
    (context.addFields batch timestamp fields).2 =
      (fields.mapM Field.reading).map fun readings =>
        batch ++ readings.filterMap (context.point? timestamp) := by
  induction fields generalizing context batch with
  | nil => exact congrArg Except.ok (List.append_nil batch).symm
  | cons field rest inductionHypothesis =>
    rw [addFields, List.mapM_cons]
    cases field.reading with
    | error unreadable => rfl
    | ok reading =>
      dsimp only
      rw [inductionHypothesis, add_snd, point?_add]
      cases rest.mapM Field.reading with
      | error unreadable => rfl
      | ok readings =>
        refine congrArg Except.ok ?_
        show batch ++ _ ++ _ = batch ++ (reading :: readings).filterMap _
        rw [List.append_assoc, filterMap_point?_cons]

/-- A tag of the call whose value has no accepted character makes the tags fail. -/
theorem not_clean_of_refused {context : Context} {tags : TagSet}
    (hostless : tags.get? hostTag = none) {key value : String} (given : tags.get? key = some value)
    {refusal : Refusal} (refused : clean value = .error refusal) (result : TagSet) :
    (context.resolve tags).clean ≠ .ok result := by
  intro success
  have faultless := TagSet.exists_clean_iff.mp ⟨result, success⟩
  have found : (context.resolve tags).get? key = some value := by
    by_cases host : key = hostTag
    · rw [host, hostless] at given
      cases given
    · rw [context.get?_resolve hostless, if_neg host, given, Option.some_or]
  have accepted := (faultless.accepted _ (Table.get?_eq_some_iff.mp found)).2
  rw [clean_of_hasAccepted accepted] at refused
  cases refused

/-- A reading whose tags cannot be cleaned is rejected. -/
theorem point?_eq_none {context : Context} {reading : Reading}
    (refused : ∀ result, (context.resolve reading.tags).clean ≠ .ok result) (timestamp : Int64) :
    context.point? timestamp reading = none := by
  refine Option.eq_none_iff_forall_ne_some.mpr fun point made => ?_
  obtain ⟨_, tags, _, success, _⟩ := Point.clean_eq_ok_iff.mp (point?_eq_some_iff.mp made)
  exact refused tags success

theorem isCanonical_of_point? {context : Context} {timestamp : Int64} {reading : Reading}
    {point : Point} (made : context.point? timestamp reading = some point) :
    point.IsCanonical :=
  isCanonical_of_canonicalize (point?_eq_some_iff.mp made)

end Context

end Telemetry
