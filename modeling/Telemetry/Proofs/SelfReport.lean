/-
This file says what a collector reports about itself.

Its two readings are tagged with its name, and that name need not be canonical. Where it has no
accepted character both readings are rejected and the report is empty; otherwise the report has two
points, and neither the host's name nor a default tag can cost one of them.
-/

import Telemetry.Proofs.Beats
import Telemetry.Proofs.Calls

namespace Telemetry

/-- Canonical points come into the queue as they are. -/
theorem sent_of_isCanonical {points : List Point}
    (canonical : ∀ point ∈ points, point.IsCanonical) : sent points = points := by
  induction points with
  | nil => rfl
  | cons point rest inductionHypothesis =>
    rw [sent_cons_of_ok (Point.clean_of_isCanonical (canonical point List.mem_cons_self)),
      inductionHypothesis fun other member => canonical other (List.mem_cons_of_mem _ member)]

/-! ### A tag with the collector's name -/

/-- The tags of the report of a collector with a name. -/
def collectorTags (name : String) : TagSet := Table.empty.insert "collector" name

theorem get?_collectorTags (name key : String) :
    (collectorTags name).get? key = if key = "collector" then some name else none :=
  Table.get?_insert _ _ _ _

theorem get?_host_collectorTags (name : String) : (collectorTags name).get? hostTag = none := by
  rw [get?_collectorTags, if_neg (by decide)]

namespace Context

variable {context : Context} {name label : String}

theorem IsValid.clean_collectorTags (valid : context.IsValid) (cleaned : clean name = .ok label) :
    (context.resolve (collectorTags name)).clean =
      .ok (context.resolve (collectorTags label)) := by
  refine valid.clean_resolve_of (get?_host_collectorTags name) (fun _ _ => label)
    (fun key value found => ?_) fun key => ?_
  · rw [get?_collectorTags] at found
    split at found
    · rename_i same
      rw [same, ← Option.some.inj found]
      exact ⟨by decide +kernel, cleaned⟩
    · cases found
  · rw [get?_collectorTags, get?_collectorTags]
    split <;> rfl

/-- Without an accepted character in the name the tags are refused. -/
theorem not_clean_collectorTags {refusal : Refusal} (refused : clean name = .error refusal)
    (result : TagSet) : (context.resolve (collectorTags name)).clean ≠ .ok result :=
  not_clean_of_refused (get?_host_collectorTags name)
    ((get?_collectorTags name "collector").trans (if_pos rfl)) refused result

/-- A reading that is tagged with the collector's name becomes a point exactly when that name has an
accepted character. -/
theorem IsValid.point?_collectorTags (valid : context.IsValid) (name : String) {metric : String}
    {value : Value} (canonical : isCanonical metric = true) (finite : value.isFinite = true)
    (timestamp : Int64) (hint : Hint) :
    context.point? timestamp ⟨metric, value, collectorTags name, hint⟩ =
      (clean name).toOption.map fun label =>
        ⟨metric, timestamp, value, context.resolve (collectorTags label)⟩ := by
  cases cleaned : clean name with
  | ok label =>
    have made : context.canonicalize metric timestamp value (collectorTags name) =
        .ok ⟨metric, timestamp, value, context.resolve (collectorTags label)⟩ :=
      Point.clean_eq_ok_iff.mpr ⟨finite, _, _, valid.clean_collectorTags cleaned,
        clean_of_isCanonical canonical, rfl⟩
    rw [point?, made]
    rfl
  | error refusal => exact point?_eq_none (not_clean_collectorTags cleaned) timestamp

end Context

/-! ### The report -/

/-- The report of a collector: its duration, which is zero on a clock that stands still, and whether
its run failed. There is none where the name has no accepted character. -/
def IntervalCollector.selfReport (collector : IntervalCollector) (context : Context)
    (timestamp : Int64) (failed : Bool) : List Point :=
  match clean collector.name with
  | .error _ => []
  | .ok label =>
    [⟨"hostcollect.collector.duration", timestamp, .real (Binary64.zero false),
        context.resolve (collectorTags label)⟩,
      ⟨"hostcollect.collector.error", timestamp, .integer (if failed then 1 else 0),
        context.resolve (collectorTags label)⟩]

/-- The points of a collector about itself are its report, and all of them come into the queue. -/
theorem IntervalState.sent_selfPoints {context : Context} (valid : context.IsValid)
    (state : IntervalState) (moment : Moment) (failed : Bool) :
    sent (state.selfPoints context moment failed) =
      state.collector.selfReport context moment.timestamp failed := by
  have points : state.selfPoints context moment failed =
      (state.selfReadings failed).filterMap (context.point? moment.timestamp) := by
    rw [selfPoints, Context.addAll_snd, List.nil_append]
  have canonical : ∀ point ∈ state.selfPoints context moment failed, point.IsCanonical := by
    intro point member
    rw [points] at member
    obtain ⟨reading, _, made⟩ := List.mem_filterMap.mp member
    exact Context.isCanonical_of_point? made
  have duration := valid.point?_collectorTags state.name
    (by decide +kernel : isCanonical "hostcollect.collector.duration" = true)
    (by decide +kernel : (Value.real (Binary64.zero false)).isFinite = true) moment.timestamp
    (Hint.gauge .second "Wall time of the collector's last run.")
  have error := valid.point?_collectorTags state.name
    (by decide +kernel : isCanonical "hostcollect.collector.error" = true)
    (rfl : (Value.integer (if failed then 1 else 0)).isFinite = true) moment.timestamp
    (Hint.gauge .none "Whether the collector's last run failed (1) or not (0).")
  rw [sent_of_isCanonical canonical, points, IntervalState.selfReadings,
    IntervalCollector.selfReport]
  show List.filterMap (context.point? moment.timestamp)
    [⟨_, _, collectorTags state.name, _⟩, ⟨_, _, collectorTags state.name, _⟩] = _
  rw [List.filterMap_cons, List.filterMap_cons, duration, error]
  show _ = match clean state.name with
    | .error _ => _
    | .ok label => _
  cases clean state.name <;> rfl

end Telemetry
