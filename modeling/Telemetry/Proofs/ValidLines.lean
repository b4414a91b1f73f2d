/-
This file says what can go wrong with a line when the settings are valid.

A token gives canonical keys with canonical values, or the host with an empty one, and a value that
is read is finite. So with valid defaults the tags of a line resolve to canonical tags, which
cleaning leaves as they are. What is left to be refused is the metric.
-/

import Telemetry.Proofs.BadTokens
import Telemetry.Proofs.Resolution
import Telemetry.Proofs.RewrittenKeys

namespace Telemetry

/-! ### Tags from tokens -/

/-- Tags as tokens give them: all is canonical, but that the host may be empty. -/
def TagSet.IsProper (tags : TagSet) : Prop :=
  ∀ key value, tags.get? key = some value →
    isCanonical key = true ∧ (isCanonical value = true ∨ key = hostTag ∧ value = "")

theorem TagSet.isProper_empty : TagSet.IsProper ∅ := by
  intro key value found
  cases found

/-- Proper tags are laid over proper tags. -/
theorem TagSet.IsProper.merge {tags more : TagSet} (proper : tags.IsProper)
    (further : more.IsProper) : TagSet.IsProper (tags.merge more) := by
  intro key value found
  rw [Table.get?_merge, Option.or_eq_some_iff] at found
  rcases found with later | ⟨_, earlier⟩
  · exact further key value later
  · exact proper key value earlier

namespace Line

/-- A token gives proper tags. -/
theorem isProper_of_tagsOfToken {token : String} {tags : TagSet}
    (success : tagsOfToken token = .ok tags) : tags.IsProper := by
  unfold tagsOfToken at success
  intro key value found
  split at success
  · rw [← Except.ok.inj success] at found
    obtain ⟨rfl, rfl⟩ := Prod.mk.inj
      (List.mem_singleton.mp (Table.get?_eq_some_iff.mp found))
    exact ⟨isCanonical_hostTag, .inr ⟨rfl, rfl⟩⟩
  · obtain ⟨read, canonical⟩ := readToken_eq_ok_iff.mp success
    have member : (key, value) ∈ tags.entries := Table.get?_eq_some_iff.mp found
    exact ⟨(spelled_of_readTags read _ member).1, .inl (canonical _ member)⟩

/-- The tags of the tokens that are accepted, one after the other: those of the tokens before the
first one that is no tag. -/
def accepted (tokens : List String) : List TagSet :=
  (tokens.takeWhile fun token => (tagsOfToken token).toBool).filterMap fun token =>
    (tagsOfToken token).toOption

theorem accepted_cons_of_ok {token : String} {tags : TagSet} (read : tagsOfToken token = .ok tags)
    (rest : List String) : accepted (token :: rest) = tags :: accepted rest := by
  have taken : (tagsOfToken token).toBool = true := by
    rw [read]
    rfl
  have given : (tagsOfToken token).toOption = some tags := by
    rw [read]
    rfl
  rw [accepted, List.takeWhile_cons, if_pos taken, List.filterMap_cons, given]
  rfl

theorem accepted_cons_of_error {token : String} {refusal : Refusal}
    (refused : tagsOfToken token = .error refusal) (rest : List String) :
    accepted (token :: rest) = [] := by
  have stopped : ¬(tagsOfToken token).toBool = true := by
    rw [refused]
    exact Bool.false_ne_true
  rw [accepted, List.takeWhile_cons, if_neg stopped, List.filterMap_nil]

/-- Reading tokens is laying the accepted ones over each other from left to right. -/
theorem readTokens_fst (tags : TagSet) (tokens : List String) :
    (readTokens tags tokens).1 = (accepted tokens).foldl Table.merge tags := by
  induction tokens generalizing tags with
  | nil => rfl
  | cons token rest inductionHypothesis =>
    rw [readTokens]
    cases read : tagsOfToken token with
    | error refusal => rw [accepted_cons_of_error read, List.foldl_nil]
    | ok more => rw [accepted_cons_of_ok read, List.foldl_cons, ← inductionHypothesis]

theorem isProper_readTokens {tags : TagSet} (proper : tags.IsProper) (tokens : List String) :
    (readTokens tags tokens).1.IsProper := by
  induction tokens generalizing tags with
  | nil => exact proper
  | cons token rest inductionHypothesis =>
    rw [readTokens]
    cases read : tagsOfToken token with
    | error refusal => exact proper
    | ok more => exact inductionHypothesis (proper.merge (isProper_of_tagsOfToken read))

end Line

/-! ### Calls with proper tags -/

namespace Context

variable {context : Context} {tags : TagSet}

/-- With valid defaults proper tags resolve to canonical ones. -/
theorem IsValid.isCanonical_resolve (valid : context.IsValid) (proper : tags.IsProper) :
    (context.resolve tags).IsCanonical := by
  rintro ⟨key, value⟩ member
  have found := Table.get?_eq_some_iff.mpr member
  rw [get?_resolve_eq_tagFor?, tagFor?] at found
  by_cases host : key = hostTag
  · rw [host, if_pos rfl] at found
    rw [host]
    refine ⟨isCanonical_hostTag, ?_⟩
    split at found
    · rw [← Option.some.inj found]
      exact valid.isCanonical_hostname
    · rename_i given own
      by_cases empty : given = ""
      · rw [if_pos empty] at found
        cases found
      · rw [if_neg empty] at found
        rw [← Option.some.inj found]
        exact (proper _ _ own).2.resolve_right fun hostless => empty hostless.2
  · rw [if_neg host, Option.or_eq_some_iff] at found
    rcases found with own | ⟨_, default⟩
    · obtain ⟨canonicalKey, either⟩ := proper _ _ own
      exact ⟨canonicalKey, either.resolve_right fun hostless => host hostless.1⟩
    · exact valid.defaultTags _ (Table.get?_eq_some_iff.mp default)

/-- A call with proper tags and a finite value is made as it stands, when its metric has an accepted
character, and is refused for its metric otherwise. -/
theorem IsValid.canonicalize_of_isProper (valid : context.IsValid) (proper : tags.IsProper)
    {value : Value} (finite : value.isFinite = true) (metric : String) (timestamp : Int64) :
    context.canonicalize metric timestamp value tags =
      if hasAccepted metric then .ok ⟨kept metric, timestamp, value, context.resolve tags⟩
      else .error (.metric metric) := by
  have clean := TagSet.clean_of_isCanonical (valid.isCanonical_resolve proper)
  rw [canonicalize, Point.clean, Point.cleaned, finite, clean]
  cases accepted : hasAccepted metric with
  | true => rw [clean_of_hasAccepted accepted]; rfl
  | false => rw [clean_of_not_hasAccepted accepted]; rfl

end Context

namespace Line

variable {context : Context} {line metric timestamp value : String} {tokens : List String}

/-! ### Lines -/

/-- The point of readable fields is the one that the accepted tokens give, or is refused for its
metric. -/
theorem pointOf_of_isValid (valid : context.IsValid) {seconds : Int64} {number : Value}
    (instant : int64? timestamp = some seconds) (reads : Value.ofText value = .ok number)
    (metric : String) (tokens : List String) :
    pointOf context metric timestamp value (readTokens ∅ tokens).1 =
      if hasAccepted metric then
        .ok ⟨kept metric, seconds, number,
          context.resolve ((accepted tokens).foldl Table.merge ∅)⟩
      else .error (.invalid (.metric metric)) := by
  have proper := isProper_readTokens TagSet.isProper_empty tokens
  have made := valid.canonicalize_of_isProper proper (Value.isFinite_ofText reads) metric seconds
  rw [pointOf, instant, reads, ← readTokens_fst]
  dsimp only
  rw [made]
  cases hasAccepted metric <;> rfl

/-- The timestamp and the value can be read, or one of them is what is refused. -/
theorem pointOf_refused_or (context : Context) (metric timestamp value : String) (tags : TagSet) :
    pointOf context metric timestamp value tags = .error (.timestamp timestamp) ∨
      pointOf context metric timestamp value tags = .error (.value value) ∨
      ∃ seconds number, int64? timestamp = some seconds ∧ Value.ofText value = .ok number := by
  unfold pointOf
  split
  · exact .inl rfl
  · exact .inr (.inl rfl)
  · rename_i seconds number instant reads
    exact .inr (.inr ⟨seconds, number, instant, reads⟩)

/-- The tags of the accepted tokens of a line, a later one in place of an earlier one. -/
def acceptedTags (line : String) : TagSet :=
  (accepted ((words line).drop 3)).foldl Table.merge ∅

/-- A line whose first three fields can be read has a metric without an accepted character. -/
def IsNameless (line : String) (metric : String) : Prop :=
  ∃ timestamp value tokens, words line = metric :: timestamp :: value :: tokens ∧
    (∃ seconds, int64? timestamp = some seconds) ∧
    (∃ number, Value.ofText value = .ok number) ∧ hasAccepted metric = false

/-- How a line is read with valid settings. -/
structure ReadsAsGiven (context : Context) (line : String) : Prop where
  /-- It is invalid for its metric only, and always if the metric has no accepted character. -/
  invalid : ∀ refusal, read context line = .error (.invalid refusal) ↔
    ∃ metric, IsNameless line metric ∧ refusal = .metric metric
  /-- A point has the tags of the accepted tokens, resolved. -/
  tags : ∀ found, read context line = .ok found →
    found.point.tags = context.resolve (acceptedTags line)
  /-- Cleaning those tags changes none of them. -/
  unchanged : TagSet.clean (context.resolve (acceptedTags line)) =
    .ok (context.resolve (acceptedTags line))

theorem read_eq_invalid_iff (valid : context.IsValid) (line : String) (refusal : Refusal) :
    read context line = .error (.invalid refusal) ↔
      ∃ metric, IsNameless line metric ∧ refusal = .metric metric := by
  constructor
  · intro refused
    match fields : words line with
    | metric :: timestamp :: value :: tokens =>
      rw [read_eq_pointOf fields] at refused
      cases made : pointOf context metric timestamp value (readTokens ∅ tokens).1 with
      | ok point =>
        rw [made] at refused
        cases refused
      | error reason =>
        rw [made] at refused
        obtain rfl := Except.error.inj refused
        rcases pointOf_refused_or context metric timestamp value (readTokens ∅ tokens).1 with
          other | other | ⟨seconds, number, instant, reads⟩
        · cases made.symm.trans other
        · cases made.symm.trans other
        rw [pointOf_of_isValid valid instant reads] at made
        cases nameless : hasAccepted metric with
        | true =>
          rw [nameless] at made
          cases made
        | false =>
          rw [nameless] at made
          refine ⟨metric, ⟨timestamp, value, tokens, fields, ⟨seconds, instant⟩,
            ⟨number, reads⟩, nameless⟩, ?_⟩
          cases made
          rfl
    | [] | [_] | [_, _] =>
      rw [read, words_trim, fields] at refused
      cases refused
  · rintro ⟨metric, ⟨timestamp, value, tokens, fields, ⟨seconds, instant⟩, ⟨number, reads⟩,
      nameless⟩, rfl⟩
    rw [read_eq_pointOf fields, pointOf_of_isValid valid instant reads, nameless]
    rfl

theorem tags_of_read (valid : context.IsValid) {found : Line}
    (success : read context line = .ok found) :
    found.point.tags = context.resolve (acceptedTags line) := by
  obtain ⟨metric, timestamp, value, tokens, fields, made, _⟩ := fields_of_read success
  rcases pointOf_refused_or context metric timestamp value (readTokens ∅ tokens).1 with
    refused | refused | ⟨seconds, number, instant, reads⟩
  · cases made.symm.trans refused
  · cases made.symm.trans refused
  rw [pointOf_of_isValid valid instant reads] at made
  rw [acceptedTags, fields]
  cases accepted : hasAccepted metric with
  | true =>
    rw [accepted] at made
    rw [← Except.ok.inj made]
    rfl
  | false =>
    rw [accepted] at made
    cases made

/-- With valid settings nothing but the metric can make a line invalid, and its tags are those of
the accepted tokens as they stand. -/
theorem readsAsGiven_of_isValid (valid : context.IsValid) (line : String) :
    ReadsAsGiven context line where
  invalid := read_eq_invalid_iff valid line
  tags _ success := tags_of_read valid success
  unchanged := by
    have proper := isProper_readTokens TagSet.isProper_empty ((words line).drop 3)
    rw [readTokens_fst] at proper
    exact TagSet.clean_of_isCanonical (valid.isCanonical_resolve proper)

/-- A host in production reads a line that overrides one default and leaves the host out, and
another whose metric is all percent signs. -/
theorem readsAsGiven_of_production :
    Context.production.IsValid ∧
      read Context.production "%% 60 7 env=staging" = .error (.invalid (.metric "%%")) ∧
      ∃ found, read Context.production "disk.used 60 7 env=staging host=" = .ok found ∧
        found.point.tags = Table.ofList [("env", "staging"), ("site", "north")] := by
  have valid := Context.isValid_production
  refine ⟨valid, ?_, ?_⟩
  · refine ((readsAsGiven_of_isValid valid "%% 60 7 env=staging").invalid _).mpr ⟨"%%", ?_, rfl⟩
    exact ⟨"60", "7", ["env=staging"], by decide, ⟨60, by decide +kernel⟩,
      ⟨.integer 7, by decide +kernel⟩, by decide⟩
  · have read : (read Context.production "disk.used 60 7 env=staging host=").toOption.isSome := by
      decide +kernel
    obtain ⟨found, given⟩ := Option.isSome_iff_exists.mp read
    have success := eq_ok_of_toOption given
    refine ⟨found, success, ?_⟩
    rw [(readsAsGiven_of_isValid valid _).tags found success]
    decide +kernel

end Line

end Telemetry
