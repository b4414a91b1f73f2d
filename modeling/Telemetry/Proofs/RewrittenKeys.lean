/-
This file says what the tags of a call come to when their keys are not canonical as they stand.

The tags of a call are laid over the defaults, and the host is added or left out, on the keys as
they are given. Cleaning comes after that and rewrites keys. So a rewritten key is compared too
early: it can bring back the host that the call asked to leave out, and it can meet a default, or
the host's own name, that it was to replace. In the first case the point has the host after all, in
the second one it is refused. Both happen with rewritten keys alone, and nothing else goes wrong.
-/

import Mathlib.Data.List.Nodup
import Telemetry.Proofs.Resolution
import Telemetry.Proofs.Resolved

namespace Telemetry

/-! ### Texts and keys -/

/-- A canonical text is made of its accepted characters. -/
theorem kept_of_isCanonical {text : String} (canonical : isCanonical text = true) :
    kept text = text :=
  ((clean_eq_ok_iff.mp (clean_of_isCanonical canonical)).2).symm

theorem hasAccepted_of_isCanonical {text : String} (canonical : isCanonical text = true) :
    hasAccepted text = true :=
  hasAccepted_iff.mpr (clean_eq_ok_iff.mp (clean_of_isCanonical canonical)).1

/-- The accepted characters of a text stay as they are. -/
theorem kept_kept (text : String) : kept (kept text) = kept text := by
  rw [kept, kept, String.toList_ofList, List.filter_filter]
  simp only [Bool.and_self]

theorem isCanonical_hostTag : isCanonical hostTag = true := by decide +kernel

theorem Table.get?_of_mem {α : Type} {table : Table α} {entry : String × α}
    (member : entry ∈ table.entries) : table.get? entry.1 = some entry.2 :=
  Table.get?_eq_some_iff.mpr member

namespace TagSet

/-- No tag of a set is at fault exactly when all keys and values have accepted characters and no two
keys have the same ones. -/
theorem faultless_iff {tags : TagSet} :
    Faultless tags.entries ↔
      (∀ pair ∈ tags.entries, hasAccepted pair.1 = true ∧ hasAccepted pair.2 = true) ∧
      ∀ pair ∈ tags.entries, ∀ other ∈ tags.entries, kept pair.1 = kept other.1 →
        pair.1 = other.1 := by
  constructor
  · intro faultless
    refine ⟨faultless.accepted, ?_⟩
    intro pair member other there same
    exact congrArg Prod.fst (List.inj_on_of_nodup_map faultless.distinct member there same)
  · rintro ⟨accepted, injective⟩
    refine ⟨accepted, List.pairwise_map.mpr (tags.ascending.imp_of_mem ?_)⟩
    intro left right first second less same
    rw [injective left first right second same] at less
    exact String.lt_irrefl _ less

/-! ### Leaving out the host -/

/-- Another key of the set becomes this one when it is cleaned. -/
def Rewrites (tags : TagSet) (key : String) : Prop :=
  ∃ pair ∈ tags.entries, pair.1 ≠ key ∧ kept pair.1 = key

instance (tags : TagSet) (key : String) : Decidable (tags.Rewrites key) :=
  inferInstanceAs (Decidable (∃ pair ∈ tags.entries, pair.1 ≠ key ∧ kept pair.1 = key))

end TagSet

namespace Context

variable {context : Context} {tags : TagSet} {metric : String} {timestamp : Int64} {value : Value}

/-- Another key than the host's stands for itself among the tags that a call resolves to. -/
theorem mem_resolve_of_ne {key given : String} (other : key ≠ hostTag) :
    (key, given) ∈ (context.resolve tags).entries ↔
      (key, given) ∈ tags.entries ∨
        tags.get? key = none ∧ (key, given) ∈ context.defaultTags.entries := by
  rw [← Table.get?_eq_some_iff, ← Table.get?_eq_some_iff, ← Table.get?_eq_some_iff,
    get?_resolve_eq_tagFor?, tagFor?, if_neg other, Option.or_eq_some_iff]

/-- A key that becomes the host's is one of the tags that a call resolves to exactly when it is one
of the call or of the defaults. -/
theorem rewrites_resolve_iff :
    (context.resolve tags).Rewrites hostTag ↔
      tags.Rewrites hostTag ∨ context.defaultTags.Rewrites hostTag := by
  constructor
  · rintro ⟨pair, member, other, same⟩
    rcases (mem_resolve_of_ne other).mp member with own | ⟨_, default⟩
    · exact .inl ⟨pair, own, other, same⟩
    · exact .inr ⟨pair, default, other, same⟩
  · rintro (⟨pair, own, other, same⟩ | ⟨pair, default, other, same⟩)
    · exact ⟨pair, (mem_resolve_of_ne other).mpr (.inl own), other, same⟩
    · -- The call may give the same key another value, which then stands there.
      cases found : tags.get? pair.1 with
      | none => exact ⟨pair, (mem_resolve_of_ne other).mpr (.inr ⟨found, default⟩), other, same⟩
      | some given =>
        have own : (pair.1, given) ∈ tags.entries := Table.get?_eq_some_iff.mp found
        refine ⟨(pair.1, given), ?_, other, same⟩
        exact (mem_resolve_of_ne other).mpr (.inl own)

/-- The point of a call that asks to leave out the host has one all the same exactly when another
key of the call or of the defaults becomes that of the host. What is appended to a batch is this
point. -/
theorem host_iff_of_optOut {point : Point} (optOut : tags.get? hostTag = some "")
    (made : context.canonicalize metric timestamp value tags = .ok point) :
    (point.tags.contains hostTag = true ↔
      tags.Rewrites hostTag ∨ context.defaultTags.Rewrites hostTag) ∧
    ∀ (batch : List Point) (hint : Hint),
      (context.add batch timestamp ⟨metric, value, tags, hint⟩).2 = batch ++ [point] := by
  constructor
  · obtain ⟨_, cleaned, _, cleanTags, _, rfl⟩ := Point.clean_eq_ok_iff.mp made
    rw [← rewrites_resolve_iff, (TagSet.cleaned_of_clean cleanTags).contains_iff]
    have absent : (context.resolve tags).get? hostTag = none := by
      rw [get?_resolve_eq_tagFor?, tagFor?, if_pos rfl, optOut]
      rfl
    constructor
    · rintro ⟨pair, member, same⟩
      refine ⟨pair, member, ?_, same⟩
      intro host
      have found := Table.get?_of_mem member
      rw [host, absent] at found
      cases found
    · rintro ⟨pair, member, _, same⟩
      exact ⟨pair, member, same⟩
  · intro batch hint
    simp only [add, accept, made]

/-- A call that leaves out the host, with a default host and keys that are rewritten. -/
theorem host_of_hostlessInterface :
    let context : Context := { Context.new "web01" with
      defaultTags := Table.ofList [("host", "db"), ("data centre", "north")] }
    let tags : TagSet := Table.ofList [("host", ""), ("inter face", "eth0")]
    tags.get? hostTag = some "" ∧
      ∃ point, context.canonicalize "net" 7 (.integer 1) tags = .ok point ∧
        point.tags.contains hostTag = false := by
  intro context tags
  have optOut : tags.get? hostTag = some "" := by decide
  have made : context.canonicalize "net" 7 (.integer 1) tags = .ok ⟨"net", 7, .integer 1,
      Table.ofList [("datacentre", "north"), ("interface", "eth0")]⟩ :=
    eq_ok_of_toOption (by decide +kernel)
  refine ⟨optOut, _, made, Bool.eq_false_iff.mpr ?_⟩
  rw [Ne, (host_iff_of_optOut optOut made).1]
  decide +kernel

/-- A default that becomes the host keeps the opt-out from taking effect. -/
theorem optOut_without_effect :
    ¬∀ (context : Context) (metric : String) (timestamp : Int64) (value : Value) (tags : TagSet)
        (point : Point), tags.get? hostTag = some "" →
      context.canonicalize metric timestamp value tags = .ok point →
        point.tags.contains hostTag = false := by
  intro always
  let context : Context := { Context.new "web01" with
    defaultTags := Table.ofList [("ho st", "db")] }
  have made : context.canonicalize "m" 1 (.integer 1) (Table.ofList [("host", "")]) =
      .ok ⟨"m", 1, .integer 1, Table.ofList [("host", "db")]⟩ :=
    eq_ok_of_toOption (by decide +kernel)
  have hostless := always context "m" 1 (.integer 1) _ _ (by decide) made
  cases hostless

/-! ### Tags that meet the defaults -/

/-- What stands under a key when the call says nothing about it: the host's name, or the default. -/
def backdrop (context : Context) (key : String) : Option String :=
  if key = hostTag then some context.hostname else context.defaultTags.get? key

/-- A tag of the call becomes one of the host or of the defaults without having had its key. -/
def Meets (context : Context) (pair : String × String) : Prop :=
  kept pair.1 ≠ pair.1 ∧ (context.backdrop (kept pair.1)).isSome = true

instance (context : Context) (pair : String × String) : Decidable (context.Meets pair) :=
  inferInstanceAs (Decidable (_ ∧ _))

theorem get?_resolve_of_backdrop (asked : tags.get? hostTag ≠ some "") (key : String) :
    (context.resolve tags).get? key = (tags.get? key).or (context.backdrop key) := by
  rw [get?_resolve_eq_tagFor?, tagFor?, backdrop]
  by_cases host : key = hostTag
  · rw [if_pos host, if_pos host, host]
    cases found : tags.get? hostTag with
    | none => rfl
    | some given =>
      rw [found] at asked
      exact if_neg fun empty => asked (congrArg some empty)
  · rw [if_neg host, if_neg host]

theorem IsValid.isCanonical_backdrop (valid : context.IsValid) {key given : String}
    (found : context.backdrop key = some given) :
    isCanonical key = true ∧ isCanonical given = true := by
  unfold backdrop at found
  split at found
  · rename_i host
    rw [host, ← Option.some.inj found]
    exact ⟨isCanonical_hostTag, valid.isCanonical_hostname⟩
  · exact valid.defaultTags (key, given) (Table.get?_eq_some_iff.mp found)

/-- A tag of a set without a fault has a value. -/
theorem asked_of_faultless (faultless : TagSet.Faultless tags.entries) :
    tags.get? hostTag ≠ some "" := by
  intro optOut
  have accepted := (faultless.accepted _ (Table.get?_eq_some_iff.mp optOut)).2
  cases accepted

variable (valid : context.IsValid) (faultless : TagSet.Faultless tags.entries)

include valid faultless

/-- What a call resolves to are its own tags, and canonical ones of keys it does not have. -/
theorem IsValid.own_or_backdrop {pair : String × String}
    (member : pair ∈ (context.resolve tags).entries) :
    pair ∈ tags.entries ∨ (tags.get? pair.1 = none ∧ context.backdrop pair.1 = some pair.2 ∧
      kept pair.1 = pair.1 ∧ kept pair.2 = pair.2) := by
  have found := Table.get?_of_mem member
  rw [get?_resolve_of_backdrop (asked_of_faultless faultless), Option.or_eq_some_iff] at found
  rcases found with own | ⟨none, behind⟩
  · exact .inl (Table.get?_eq_some_iff.mp own)
  · obtain ⟨key, given⟩ := valid.isCanonical_backdrop behind
    exact .inr ⟨none, behind, kept_of_isCanonical key, kept_of_isCanonical given⟩

/-- Every key and every value that a call resolves to has an accepted character. -/
theorem IsValid.accepted_resolve {pair : String × String}
    (member : pair ∈ (context.resolve tags).entries) :
    hasAccepted pair.1 = true ∧ hasAccepted pair.2 = true := by
  rcases valid.own_or_backdrop faultless member with own | ⟨_, behind, _, _⟩
  · exact faultless.accepted pair own
  · obtain ⟨key, given⟩ := valid.isCanonical_backdrop behind
    exact ⟨hasAccepted_of_isCanonical key, hasAccepted_of_isCanonical given⟩

omit valid in
theorem mem_resolve_of_mem {pair : String × String} (own : pair ∈ tags.entries) :
    pair ∈ (context.resolve tags).entries := by
  rw [← Table.get?_eq_some_iff, get?_resolve_of_backdrop (asked_of_faultless faultless),
    Table.get?_of_mem own, Option.some_or]

/-- Two tags that a call resolves to become the same only when one is a tag of the call that meets
the other. -/
theorem IsValid.meets_of_same {pair other : String × String}
    (member : pair ∈ (context.resolve tags).entries)
    (there : other ∈ (context.resolve tags).entries) (different : pair.1 ≠ other.1)
    (same : kept pair.1 = kept other.1) :
    ∃ own ∈ tags.entries, context.Meets own ∧ kept own.1 = kept pair.1 := by
  rcases valid.own_or_backdrop faultless member with own | ⟨_, behind, stays, _⟩
  · rcases valid.own_or_backdrop faultless there with another | ⟨_, behind, stays, _⟩
    · exact absurd ((TagSet.faultless_iff.mp faultless).2 pair own other another same) different
    · rw [stays] at same
      exact ⟨pair, own, ⟨same ▸ Ne.symm different, by rw [same, behind]; rfl⟩, rfl⟩
  · rcases valid.own_or_backdrop faultless there with another | ⟨_, _, remains, _⟩
    · rw [stays] at same
      exact ⟨other, another, ⟨same ▸ different, by rw [← same, behind]; rfl⟩, same ▸ stays.symm⟩
    · rw [stays, remains] at same
      exact absurd same different

/-- What a call resolves to is without a fault as long as none of its tags meets the host or a
default. -/
theorem IsValid.faultless_resolve_iff :
    TagSet.Faultless (context.resolve tags).entries ↔
      ∀ pair ∈ tags.entries, ¬context.Meets pair := by
  constructor
  · rintro whole pair own ⟨rewritten, behind⟩
    -- The key it is rewritten to has a tag of its own.
    obtain ⟨given, found⟩ : ∃ given, (context.resolve tags).get? (kept pair.1) = some given := by
      rw [get?_resolve_of_backdrop (asked_of_faultless faultless), ← Option.isSome_iff_exists]
      rw [Option.isSome_or, behind, Bool.or_true]
    have same := (TagSet.faultless_iff.mp whole).2 pair (mem_resolve_of_mem faultless own)
      (kept pair.1, given) (Table.get?_eq_some_iff.mp found) (kept_kept pair.1).symm
    exact rewritten same.symm
  · intro apart
    refine TagSet.faultless_iff.mpr ⟨fun pair => valid.accepted_resolve faultless, ?_⟩
    intro pair member other there same
    by_contra different
    obtain ⟨own, inside, meets, _⟩ := valid.meets_of_same faultless member there different same
    exact apart own inside meets

/-- The first tag at fault among those that a call resolves to is one that meets another. -/
theorem IsValid.meets_of_firstFault {refusal : Refusal}
    (first : TagSet.FirstFault (context.resolve tags).entries refusal) :
    ∃ own ∈ tags.entries, context.Meets own ∧ refusal = .duplicateTag (kept own.1) := by
  obtain ⟨before, pair, after, cut, _, fault⟩ := first
  have member : pair ∈ (context.resolve tags).entries := by
    rw [cut]
    exact List.mem_append_right _ List.mem_cons_self
  have accepted := valid.accepted_resolve faultless member
  cases fault with
  | key none => exact absurd accepted.1 (by rw [none]; exact Bool.false_ne_true)
  | value some none => exact absurd accepted.2 (by rw [none]; exact Bool.false_ne_true)
  | @duplicate _ _ earlier inside same =>
    have ascending := (context.resolve tags).ascending
    rw [cut] at ascending
    have less := (List.pairwise_append.mp ascending).2.2 earlier inside pair List.mem_cons_self
    have different : pair.1 ≠ earlier.1 := by
      intro equal
      rw [equal] at less
      exact String.lt_irrefl _ less
    obtain ⟨own, there, meets, becomes⟩ := valid.meets_of_same faultless member
      (cut ▸ List.mem_append_left _ inside) different same.symm
    exact ⟨own, there, meets, by rw [becomes]⟩

/-- Among cleaned tags those of the call go before the host's name and the defaults, by the keys
that they have then. -/
theorem IsValid.get?_of_cleaned {cleaned result : TagSet}
    (own : TagSet.Cleaned tags.entries cleaned)
    (whole : TagSet.Cleaned (context.resolve tags).entries result)
    (apart : ∀ pair ∈ tags.entries, ¬context.Meets pair) (key : String) :
    result.get? key = (cleaned.get? key).or (context.backdrop key) := by
  refine Option.ext fun given => ?_
  rw [whole.get?, Option.or_eq_some_iff, own.get?]
  constructor
  · rintro ⟨pair, member, becomes, shows⟩
    rcases valid.own_or_backdrop faultless member with given | ⟨none, behind, stays, remains⟩
    · exact .inl ⟨pair, given, becomes, shows⟩
    · rw [stays] at becomes
      rw [remains] at shows
      rw [becomes, shows] at behind
      refine .inr ⟨?_, behind⟩
      -- A tag of the call under this key has another key as it stands, so it meets the one here.
      rw [Option.eq_none_iff_forall_ne_some]
      intro other found
      obtain ⟨rewritten, inside, same, _⟩ := (own.get? _ _).mp found
      refine apart rewritten inside ⟨fun unchanged => ?_, by rw [same, behind]; rfl⟩
      have present := Table.get?_of_mem inside
      rw [unchanged.symm.trans same, ← becomes, none] at present
      cases present
  · rintro (⟨pair, member, becomes, shows⟩ | ⟨none, behind⟩)
    · exact ⟨pair, mem_resolve_of_mem faultless member, becomes, shows⟩
    · obtain ⟨canonicalKey, canonicalValue⟩ := valid.isCanonical_backdrop behind
      have stays := kept_of_isCanonical canonicalKey
      refine ⟨(key, given), ?_, stays, kept_of_isCanonical canonicalValue⟩
      rw [← Table.get?_eq_some_iff, get?_resolve_of_backdrop (asked_of_faultless faultless),
        Option.or_eq_some_iff]
      refine .inr ⟨?_, behind⟩
      rw [Option.eq_none_iff_forall_ne_some]
      intro other found
      have present := (own.get? key (kept other)).mpr
        ⟨(key, other), Table.get?_eq_some_iff.mp found, stays, rfl⟩
      rw [none] at present
      cases present

omit valid faultless

/-- What becomes of a call whose own tags are cleaned to `cleaned`. -/
structure Overlay (context : Context) (metric : String) (timestamp : Int64) (value : Value)
    (tags cleaned : TagSet) : Prop where
  /-- The point is made as long as no tag becomes one of the host or of the defaults. -/
  made : (∃ point, context.canonicalize metric timestamp value tags = .ok point) ↔
    ∀ pair ∈ tags.entries, ¬context.Meets pair
  /-- The refusal names a key to which one of the call and one behind it both come. -/
  refused : ∀ refusal, context.canonicalize metric timestamp value tags = .error refusal →
    ∃ pair ∈ tags.entries, context.Meets pair ∧ refusal = .duplicateTag (kept pair.1)
  /-- Where the point is made, every cleaned tag of the call goes before what stands behind it. -/
  tags : ∀ point, context.canonicalize metric timestamp value tags = .ok point →
    ∀ key, point.tags.get? key = (cleaned.get? key).or (context.backdrop key)

/-- With valid defaults, and a value, a metric and tags that can be cleaned, a point is lost only
where a rewritten key of the call meets the host or a default. -/
theorem overlay_of_clean (valid : context.IsValid) (finite : value.isFinite = true)
    (named : hasAccepted metric = true) {cleaned : TagSet} (success : tags.clean = .ok cleaned)
    (timestamp : Int64) : Overlay context metric timestamp value tags cleaned := by
  have faultless : TagSet.Faultless tags.entries := TagSet.exists_clean_iff.mp ⟨cleaned, success⟩
  have apart := valid.faultless_resolve_iff faultless
  refine ⟨?_, ?_, ?_⟩
  · refine Iff.trans Point.exists_clean_iff ⟨fun made => apart.mp made.2.1, fun none => ?_⟩
    exact ⟨finite, apart.mpr none, named⟩
  · intro refusal refused
    rcases Point.clean_eq_error_iff.mp refused with ⟨infinite, _⟩ | ⟨_, first⟩ | ⟨_, _, unnamed, _⟩
    · rw [finite] at infinite
      cases infinite
    · exact valid.meets_of_firstFault faultless first
    · rw [named] at unnamed
      cases unnamed
  · intro point made
    obtain ⟨_, whole, _, cleanTags, _, rfl⟩ := Point.clean_eq_ok_iff.mp made
    exact valid.get?_of_cleaned faultless (TagSet.cleaned_of_clean success)
      (TagSet.cleaned_of_clean cleanTags)
      (apart.mp (TagSet.exists_clean_iff.mp ⟨whole, cleanTags⟩))

/-- The defaults of a host in production. -/
def production : Context :=
  { Context.new "web 01" with defaultTags := Table.ofList [("env", "prod"), ("site", "north")] }

theorem isValid_production : production.IsValid :=
  ⟨⟨"web 01", rfl⟩, by decide +kernel⟩

/-- A call that overrides a default as it stands and has a key that is rewritten. -/
theorem overlay_of_staging :
    let tags : TagSet := Table.ofList [("env", "staging 2"), ("mount point", "/")]
    let cleaned : TagSet := Table.ofList [("env", "staging2"), ("mountpoint", "/")]
    production.IsValid ∧ (Value.integer 7).isFinite = true ∧ hasAccepted "disk %" = true ∧
      tags.clean = .ok cleaned ∧
      Overlay production "disk %" 60 (.integer 7) tags cleaned ∧
      ∃ point, production.canonicalize "disk %" 60 (.integer 7) tags = .ok point ∧
        point.tags.get? "env" = some "staging2" := by
  intro tags cleaned
  have named : hasAccepted "disk %" = true := by decide +kernel
  have success : tags.clean = .ok cleaned := eq_ok_of_toOption (by decide +kernel)
  have finite : (Value.integer 7).isFinite = true := rfl
  have overlay := overlay_of_clean isValid_production finite named success 60
  obtain ⟨point, made⟩ := overlay.made.mpr (by decide +kernel)
  exact ⟨isValid_production, finite, named, success, overlay, point, made,
    overlay.tags point made "env"⟩

/-- A call whose key is cleaned to that of a default is refused, though its own tags can be
cleaned. -/
theorem defaults_cost_point :
    ¬∀ (context : Context) (metric : String) (timestamp : Int64) (value : Value)
        (tags cleaned : TagSet), context.IsValid → value.isFinite = true →
      hasAccepted metric = true → tags.clean = .ok cleaned →
        ∃ point, context.canonicalize metric timestamp value tags = .ok point := by
  intro always
  have success : TagSet.clean (Table.ofList [("e nv", "dev")]) =
      .ok (Table.ofList [("env", "dev")]) := eq_ok_of_toOption (by decide +kernel)
  obtain ⟨point, made⟩ := always production "m" 1 (.integer 1) _ _ isValid_production rfl
    (by decide +kernel) success
  have refused : (production.canonicalize "m" 1 (.integer 1)
      (Table.ofList [("e nv", "dev")])).toOption = none := by
    decide +kernel
  rw [made] at refused
  cases refused

end Context

end Telemetry
