/-
This file accounts for the calls at a call site.

Every call either appends its canonical point to the batch or is counted as rejected, and a rejected
call leaves nothing else behind. So the batch and the count grow together by the number of calls,
whatever the calls give and however the default tags are replaced between them. What the hints say
goes to the metadata under keys that hold the text of the tags; because the tags of canonical points
can be told from their text, two points share the key of a description only when they belong to one
series.
-/

import Telemetry.CallSite
import Telemetry.Proofs.Calls
import Telemetry.Proofs.TagText
import Telemetry.Proofs.WriteOnce

namespace Telemetry

/-! ### What a hint leaves in the store -/

/-- The key under which the description of a point's series is stored. -/
def Point.descriptionKey (point : Point) : Metadata.Key :=
  ⟨point.metric, point.tags.text, .description⟩

/-- A hint describes the series of its point and no other one. -/
theorem Metadata.find?_record_description (store : Metadata) (point : Point) (hint : Hint)
    {asked : Key} (description : asked.part = .description) :
    (store.record point.metric point.tags hint).find? asked =
      (store.find? asked).or
        (if asked = point.descriptionKey ∧ hint.description ≠ "" then some hint.description
          else none) := by
  have said : (Remark.mk point.metric point.tags hint).says? asked =
      if asked = point.descriptionKey ∧ hint.description ≠ "" then some hint.description
        else none := by
    obtain ⟨metric, tags, part⟩ := asked
    obtain rfl : part = .description := description
    by_cases about : metric = point.metric <;> simp [Remark.says?, Point.descriptionKey, about]
  rw [← said]
  exact store.find?_note ⟨point.metric, point.tags, hint⟩ asked

/-- Canonical points share the key of a description exactly when they belong to one series. -/
theorem Point.descriptionKey_eq_iff {first second : Point} (canonical : first.IsCanonical)
    (otherCanonical : second.IsCanonical) :
    first.descriptionKey = second.descriptionKey ↔
      first.metric = second.metric ∧ first.tags = second.tags := by
  rw [descriptionKey, descriptionKey, Metadata.Key.mk.injEq]
  constructor
  · rintro ⟨metric, text, _⟩
    exact ⟨metric, TagSet.eq_of_text canonical.tags.isQuery otherCanonical.tags.isQuery text⟩
  · rintro ⟨metric, tags⟩
    exact ⟨metric, congrArg TagSet.text tags, rfl⟩

namespace CallSite

variable {site : CallSite}

/-! ### One call -/

/-- What one call does at a call site. -/
structure Answers (site : CallSite) (timestamp : Int64) (reading : Reading) : Prop where
  /-- An accepted call appends its point and counts nothing. -/
  appends : ∀ point,
    site.context.canonicalize reading.metric timestamp reading.value reading.tags = .ok point →
      (site.step (.call timestamp reading)).batch = site.batch ++ [point] ∧
        (site.step (.call timestamp reading)).context.health = site.context.health
  /-- Its hint describes the series of the point, unless the series is described already, and no
  other one. -/
  describes : ∀ point,
    site.context.canonicalize reading.metric timestamp reading.value reading.tags = .ok point →
      ∀ key : Metadata.Key, key.part = .description →
        (site.step (.call timestamp reading)).context.metadata.find? key =
          (site.context.metadata.find? key).or
            (if key = point.descriptionKey ∧ reading.hint.description ≠ "" then
              some reading.hint.description
            else none)
  /-- A rejected call leaves the batch and the metadata as they were and is counted. -/
  refuses : ∀ refusal,
    site.context.canonicalize reading.metric timestamp reading.value reading.tags =
        .error refusal →
      (site.step (.call timestamp reading)).batch = site.batch ∧
        (site.step (.call timestamp reading)).context.metadata = site.context.metadata ∧
        (site.step (.call timestamp reading)).context.health.rejected =
          site.context.health.rejected + 1

section

variable {timestamp : Int64} {reading : Reading}

theorem step_of_accepted {point : Point}
    (accepted : site.context.canonicalize reading.metric timestamp reading.value reading.tags =
      .ok point) :
    site.step (.call timestamp reading) =
      ⟨{ site.context with
          metadata := site.context.metadata.record point.metric point.tags reading.hint },
        site.batch ++ [point]⟩ := by
  rw [step, Context.add, Context.accept, accepted]

theorem step_of_refused {refusal : Refusal}
    (refused : site.context.canonicalize reading.metric timestamp reading.value reading.tags =
      .error refusal) :
    site.step (.call timestamp reading) = { site with context := site.context.reject } := by
  rw [step, Context.add, Context.accept, refused]

theorem answers_of_call (site : CallSite) (timestamp : Int64) (reading : Reading) :
    site.Answers timestamp reading := by
  refine ⟨fun point accepted => ?_, fun point accepted key description => ?_,
    fun refusal refused => ?_⟩
  · rw [step_of_accepted accepted]
    exact ⟨rfl, rfl⟩
  · rw [step_of_accepted accepted]
    exact Metadata.find?_record_description site.context.metadata point reading.hint description
  · rw [step_of_refused refused]
    exact ⟨rfl, rfl, rfl⟩

end

/-! ### Any number of calls -/

/-- Whether what happens is a call. -/
def Event.isCall : Event → Bool
  | .defaults _ => false
  | .call _ _ => true

/-- The points of the accepted calls, in order, each with the settings of its time. -/
def points (context : Context) : List Event → List Point
  | [] => []
  | .defaults tags :: rest => points (context.withDefaults tags) rest
  | .call timestamp reading :: rest =>
    (context.point? timestamp reading).toList ++ points context rest

/-- What the calls at a call site come to. -/
structure Accounts (site : CallSite) (events : List Event) : Prop where
  /-- Every call has made the batch longer by one point or was counted as rejected. -/
  total : (site.run events).batch.length + (site.run events).context.health.rejected =
    site.batch.length + site.context.health.rejected + events.countP Event.isCall
  /-- The batch has grown at its end, by the points of the accepted calls. -/
  grown : (site.run events).batch = site.batch ++ points site.context events
  /-- Each call found the site as those before it had left it. -/
  each : ∀ before timestamp reading after, events = before ++ .call timestamp reading :: after →
    (site.run before).Answers timestamp reading
  /-- Two points have one key for their descriptions when they belong to one series. -/
  keyed : ∀ first ∈ points site.context events, ∀ second ∈ points site.context events,
    (first.descriptionKey = second.descriptionKey ↔
      first.metric = second.metric ∧ first.tags = second.tags)

/-- The points depend on the settings alone. -/
theorem points_congr {context other : Context} (same : context.settings = other.settings)
    (events : List Event) : points context events = points other events := by
  induction events generalizing context other with
  | nil => rfl
  | cons event rest inductionHypothesis =>
    cases event with
    | defaults tags =>
      obtain ⟨hostname, others⟩ := Prod.mk.inj same
      obtain ⟨_, others⟩ := Prod.mk.inj others
      refine inductionHypothesis ?_
      show (context.hostname, tags, context.frequency, context.collectorStats) =
        (other.hostname, tags, other.frequency, other.collectorStats)
      rw [hostname, others]
    | call timestamp reading =>
      rw [points, points, Context.point?_congr same, inductionHypothesis same]

theorem isCanonical_of_mem_points {context : Context} {events : List Event} {point : Point}
    (member : point ∈ points context events) : point.IsCanonical := by
  induction events generalizing context with
  | nil => cases member
  | cons event rest inductionHypothesis =>
    cases event with
    | defaults tags => exact inductionHypothesis member
    | call timestamp reading =>
      rcases List.mem_append.mp member with here | later
      · exact Context.isCanonical_of_point? (Option.mem_toList.mp here)
      · exact inductionHypothesis later

theorem batch_run (site : CallSite) (events : List Event) :
    (site.run events).batch = site.batch ++ points site.context events := by
  induction events generalizing site with
  | nil => exact (List.append_nil _).symm
  | cons event rest inductionHypothesis =>
    rw [run_cons, inductionHypothesis]
    cases event with
    | defaults tags => rfl
    | call timestamp reading =>
      have settings : (site.step (.call timestamp reading)).context.settings =
          site.context.settings :=
        (Context.steady_add site.batch timestamp reading).settings site.context
      have added : (site.step (.call timestamp reading)).batch =
          site.batch ++ (site.context.point? timestamp reading).toList :=
        Context.add_snd site.context site.batch timestamp reading
      rw [points_congr settings, added, List.append_assoc]
      rfl

/-- Each call makes the batch longer or the count greater by one. -/
theorem total_step (site : CallSite) (event : Event) :
    (site.step event).batch.length + (site.step event).context.health.rejected =
      site.batch.length + site.context.health.rejected + [event].countP Event.isCall := by
  cases event with
  | defaults tags => rfl
  | call timestamp reading =>
    obtain ⟨appends, _, refuses⟩ := site.answers_of_call timestamp reading
    show _ = site.batch.length + site.context.health.rejected + 1
    cases outcome :
        site.context.canonicalize reading.metric timestamp reading.value reading.tags with
    | ok point =>
      obtain ⟨batch, health⟩ := appends point outcome
      rw [batch, health, List.length_append, List.length_singleton]
      omega
    | error refusal =>
      obtain ⟨batch, _, rejected⟩ := refuses refusal outcome
      rw [batch, rejected]
      omega

theorem total_run (site : CallSite) (events : List Event) :
    (site.run events).batch.length + (site.run events).context.health.rejected =
      site.batch.length + site.context.health.rejected + events.countP Event.isCall := by
  induction events generalizing site with
  | nil => rfl
  | cons event rest inductionHypothesis =>
    have split : ([event] ++ rest).countP Event.isCall =
        [event].countP Event.isCall + rest.countP Event.isCall := List.countP_append
    rw [List.singleton_append] at split
    rw [run_cons, inductionHypothesis, total_step, split]
    omega

/-- Whatever the calls give, each of them is accounted for. -/
theorem accounts_of_run (site : CallSite) (events : List Event) : site.Accounts events where
  total := site.total_run events
  grown := site.batch_run events
  each before timestamp reading _ _ := (site.run before).answers_of_call timestamp reading
  keyed _ member _ other := Point.descriptionKey_eq_iff (isCanonical_of_mem_points member)
    (isCanonical_of_mem_points other)

end CallSite

end Telemetry
