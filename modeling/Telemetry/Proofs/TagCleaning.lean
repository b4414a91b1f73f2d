/-
This file says which tag sets can be cleaned, what comes out, and which refusal comes out otherwise.

Tags are cleaned one after the other by ascending key. A tag is at fault when its key or its value
has no accepted character, or when an earlier key has the same accepted characters. Cleaning goes on
as long as no tag is at fault, and the first one that is gives the refusal. So a set is cleaned as a
whole or not at all, and the cleaned set has as many tags as the set itself. Where a set is cleaned
in its place, this says what stands there afterwards.
-/

import Telemetry.Proofs.Canonical

namespace Telemetry

/-! ### Fresh keys -/

/-- A key that is not there yet makes one entry more. -/
theorem Table.length_place_of_fresh {α : Type} {key : String} (value : α)
    {entries : List (String × α)} (fresh : Table.find key entries = none) :
    (Table.place key value entries).length = entries.length + 1 := by
  induction entries with
  | nil => rfl
  | cons head rest inductionHypothesis =>
    obtain ⟨other, old⟩ := head
    by_cases same : key = other
    · simp [Table.find, same] at fresh
    · rw [Table.find, if_neg same] at fresh
      rw [Table.place, if_neg same]
      split
      · rfl
      · rw [List.length_cons, inductionHypothesis fresh, List.length_cons]

namespace TagSet

/-! ### Tags at fault -/

/-- Why a tag cannot be cleaned behind the tags that stand before it. -/
inductive Fault (before : List (String × String)) (pair : String × String) : Refusal → Prop where
  | key (none : hasAccepted pair.1 = false) : Fault before pair (.tagKey pair.1)
  | value (some : hasAccepted pair.1 = true) (none : hasAccepted pair.2 = false) :
      Fault before pair (.tagValue pair.1 pair.2)
  | duplicate (some : hasAccepted pair.1 = true) (other : hasAccepted pair.2 = true)
      {earlier : String × String} (member : earlier ∈ before)
      (same : kept earlier.1 = kept pair.1) : Fault before pair (.duplicateTag (kept pair.1))

/-- No tag is at fault: every key and every value has an accepted character, and no two keys have
the same ones. -/
structure Faultless (entries : List (String × String)) : Prop where
  accepted : ∀ pair ∈ entries, hasAccepted pair.1 = true ∧ hasAccepted pair.2 = true
  distinct : (entries.map fun pair => kept pair.1).Nodup

/-- The first tag at fault gives this refusal. -/
def FirstFault (entries : List (String × String)) (refusal : Refusal) : Prop :=
  ∃ before pair after, entries = before ++ pair :: after ∧ Faultless before ∧
    Fault before pair refusal

theorem faultless_nil : Faultless [] := ⟨nofun, List.Pairwise.nil⟩

theorem Faultless.left {before after : List (String × String)}
    (faultless : Faultless (before ++ after)) : Faultless before := by
  obtain ⟨accepted, distinct⟩ := faultless
  rw [List.map_append, List.nodup_append] at distinct
  exact ⟨fun pair member => accepted pair (List.mem_append_left _ member), distinct.1⟩

/-- A tag that is at fault is not among faultless tags. -/
theorem Fault.not_faultless {before after : List (String × String)} {pair : String × String}
    {refusal : Refusal} (fault : Fault before pair refusal) :
    ¬Faultless (before ++ pair :: after) := by
  intro faultless
  have accepted := faultless.accepted pair (by simp)
  cases fault with
  | key none => exact Bool.false_ne_true (none.symm.trans accepted.1)
  | value some none => exact Bool.false_ne_true (none.symm.trans accepted.2)
  | @duplicate some other earlier member same =>
    have distinct := faultless.distinct
    rw [List.map_append, List.nodup_append] at distinct
    exact distinct.2.2 (kept earlier.1) (List.mem_map.mpr ⟨earlier, member, rfl⟩) (kept pair.1)
      (by simp) same

/-- A tag behind faultless ones is at fault, or they are faultless with it. -/
theorem Faultless.fault_or {before : List (String × String)} (faultless : Faultless before)
    (pair : String × String) :
    (∃ refusal, Fault before pair refusal) ∨ Faultless (before ++ [pair]) := by
  cases key : hasAccepted pair.1 with
  | false => exact .inl ⟨_, .key key⟩
  | true =>
    cases value : hasAccepted pair.2 with
    | false => exact .inl ⟨_, .value key value⟩
    | true =>
      by_cases taken : kept pair.1 ∈ before.map fun earlier => kept earlier.1
      · obtain ⟨earlier, member, same⟩ := List.mem_map.mp taken
        exact .inl ⟨_, .duplicate key value member same⟩
      · refine .inr ⟨fun other member => ?_, ?_⟩
        · rcases List.mem_append.mp member with old | new
          · exact faultless.accepted other old
          · rw [List.mem_singleton.mp new]
            exact ⟨key, value⟩
        · rw [List.map_append, List.nodup_append]
          refine ⟨faultless.distinct, by simp, fun first old second new same => ?_⟩
          have last : second = kept pair.1 := by simpa using new
          exact taken (last ▸ same ▸ old)

/-- Tags behind faultless ones are faultless with them, or one of them is the first at fault. -/
theorem Faultless.firstFault_or {before : List (String × String)} (faultless : Faultless before)
    (entries : List (String × String)) :
    (∃ refusal first pair after, entries = first ++ pair :: after ∧
      Faultless (before ++ first) ∧ Fault (before ++ first) pair refusal) ∨
      Faultless (before ++ entries) := by
  induction entries generalizing before with
  | nil => exact .inr (by rwa [List.append_nil])
  | cons pair rest inductionHypothesis =>
    rcases faultless.fault_or pair with ⟨refusal, fault⟩ | together
    · refine .inl ⟨refusal, [], pair, rest, rfl, ?_⟩
      rw [List.append_nil]
      exact ⟨faultless, fault⟩
    · have split : ∀ tail, before ++ [pair] ++ tail = before ++ pair :: tail := fun tail => by
        rw [List.append_assoc, List.singleton_append]
      rcases inductionHypothesis together with ⟨refusal, first, faulty, after, cut, found⟩ | whole
      · rw [split] at found
        exact .inl ⟨refusal, pair :: first, faulty, after, by rw [cut]; rfl, found⟩
      · exact .inr (split rest ▸ whole)

/-! ### Cleaning as far as no tag is at fault -/

/-- The cleaned forms of tags, each under its own key. -/
structure Cleaned (tags : List (String × String)) (cleaned : TagSet) : Prop where
  get? : ∀ key value, cleaned.get? key = some value ↔
    ∃ pair ∈ tags, kept pair.1 = key ∧ kept pair.2 = value
  size : cleaned.size = tags.length

theorem cleaned_nil : Cleaned [] ∅ := by
  refine ⟨fun key value => ?_, rfl⟩
  rw [show (∅ : TagSet).get? key = none from rfl]
  simp

variable {before : List (String × String)} {cleaned : TagSet} {pair : String × String}

theorem Cleaned.contains_iff (tie : Cleaned before cleaned) {key : String} :
    cleaned.contains key = true ↔ ∃ earlier ∈ before, kept earlier.1 = key := by
  rw [Table.contains, Option.isSome_iff_exists]
  simp only [tie.get?]
  constructor
  · rintro ⟨_, earlier, member, same, _⟩
    exact ⟨earlier, member, same⟩
  · rintro ⟨earlier, member, same⟩
    exact ⟨_, earlier, member, same, rfl⟩

/-- A tag that is not at fault is added in its cleaned form. -/
theorem Cleaned.cleanInto_cons (tie : Cleaned before cleaned)
    (faultless : Faultless (before ++ [pair])) (rest : List (String × String)) :
    Cleaned (before ++ [pair]) (cleaned.insert (kept pair.1) (kept pair.2)) ∧
      cleanInto cleaned (pair :: rest) =
        cleanInto (cleaned.insert (kept pair.1) (kept pair.2)) rest := by
  obtain ⟨key, value⟩ := faultless.accepted pair (by simp)
  have fresh : cleaned.contains (kept pair.1) = false := by
    refine Bool.eq_false_iff.mpr fun taken => ?_
    obtain ⟨earlier, member, same⟩ := tie.contains_iff.mp taken
    exact (Fault.duplicate key value member same).not_faultless faultless
  have absent : cleaned.get? (kept pair.1) = none := by
    simpa [Table.contains] using fresh
  refine ⟨⟨fun asked found => ?_, ?_⟩, ?_⟩
  · rw [Table.get?_insert]
    simp only [List.mem_append, List.mem_singleton, or_and_right, exists_or, exists_eq_left]
    by_cases same : asked = kept pair.1
    · -- The key is a new one, so that no earlier tag answers for it.
      have others : ¬∃ earlier, earlier ∈ before ∧ kept earlier.1 = asked ∧
          kept earlier.2 = found := by
        rw [← tie.get?, same, absent]
        exact Option.some_ne_none found ∘ Eq.symm
      rw [if_pos same, or_iff_right others, Option.some.injEq]
      exact ⟨fun equal => ⟨same.symm, equal⟩, fun equal => equal.2⟩
    · rw [if_neg same, tie.get?]
      exact ⟨.inl, fun either => either.resolve_right fun new => same new.1.symm⟩
  · rw [Table.size, Table.insert, Table.length_place_of_fresh _ absent, List.length_append]
    exact congrArg (· + 1) tie.size
  · rw [cleanInto, cleanPair, clean_of_hasAccepted key, clean_of_hasAccepted value]
    simp only [fresh, Bool.false_eq_true, if_false]

/-- A tag at fault ends cleaning with its refusal. -/
theorem Cleaned.cleanInto_of_fault (tie : Cleaned before cleaned) {refusal : Refusal}
    (fault : Fault before pair refusal) (rest : List (String × String)) :
    cleanInto cleaned (pair :: rest) = .error refusal := by
  cases fault with
  | key none => rw [cleanInto, cleanPair, clean_of_not_hasAccepted none]
  | value some none =>
    rw [cleanInto, cleanPair, clean_of_hasAccepted some, clean_of_not_hasAccepted none]
  | duplicate some other member same =>
    rw [cleanInto, cleanPair, clean_of_hasAccepted some, clean_of_hasAccepted other]
    simp only [tie.contains_iff.mpr ⟨_, member, same⟩, if_true]

/-- Faultless tags are all added, and then the rest is cleaned. -/
theorem Cleaned.cleanInto_append (tie : Cleaned before cleaned)
    {entries : List (String × String)} (faultless : Faultless (before ++ entries))
    (rest : List (String × String)) :
    ∃ result, Cleaned (before ++ entries) result ∧
      cleanInto cleaned (entries ++ rest) = cleanInto result rest := by
  induction entries generalizing before cleaned with
  | nil => exact ⟨cleaned, by rwa [List.append_nil], rfl⟩
  | cons pair others inductionHypothesis =>
    have split : before ++ pair :: others = before ++ [pair] ++ others := by
      rw [List.append_assoc, List.singleton_append]
    rw [split] at faultless ⊢
    obtain ⟨longer, step⟩ := tie.cleanInto_cons faultless.left (others ++ rest)
    obtain ⟨result, whole, later⟩ := inductionHypothesis longer faultless
    exact ⟨result, whole, by rw [List.cons_append, step, later]⟩

/-! ### Whole sets -/

variable {tags : TagSet}

/-- A set without a fault is cleaned tag by tag. -/
theorem clean_of_faultless (faultless : Faultless tags.entries) :
    ∃ result, tags.clean = .ok result ∧ Cleaned tags.entries result := by
  obtain ⟨result, whole, same⟩ := cleaned_nil.cleanInto_append faultless []
  rw [List.append_nil] at same
  exact ⟨result, same, whole⟩

/-- The first tag at fault refuses the set. -/
theorem clean_of_firstFault {refusal : Refusal} (first : FirstFault tags.entries refusal) :
    tags.clean = .error refusal := by
  obtain ⟨before, pair, after, cut, faultless, fault⟩ := first
  obtain ⟨result, whole, same⟩ := cleaned_nil.cleanInto_append faultless (pair :: after)
  rw [clean, cut, same]
  exact whole.cleanInto_of_fault fault after

/-- A set is without a fault, or it has a first tag at fault. -/
theorem firstFault_or_faultless (entries : List (String × String)) :
    (∃ refusal, FirstFault entries refusal) ∨ Faultless entries := by
  rcases faultless_nil.firstFault_or entries with ⟨refusal, first, pair, after, found⟩ | whole
  · exact .inl ⟨refusal, first, pair, after, found⟩
  · exact .inr whole

/-- Exactly the sets without a fault can be cleaned. -/
theorem exists_clean_iff : (∃ result, tags.clean = .ok result) ↔ Faultless tags.entries := by
  refine ⟨fun ⟨result, success⟩ => ?_, fun faultless => ?_⟩
  · rcases firstFault_or_faultless tags.entries with ⟨refusal, first⟩ | faultless
    · cases success.symm.trans (clean_of_firstFault first)
    · exact faultless
  · obtain ⟨result, success, _⟩ := clean_of_faultless faultless
    exact ⟨result, success⟩

/-- What cleaning gives are the cleaned tags. -/
theorem cleaned_of_clean {result : TagSet} (success : tags.clean = .ok result) :
    Cleaned tags.entries result := by
  obtain ⟨found, same, whole⟩ := clean_of_faultless (exists_clean_iff.mp ⟨result, success⟩)
  rw [Except.ok.inj (success.symm.trans same)]
  exact whole

/-- A set is refused with exactly the refusal of its first tag at fault. -/
theorem clean_eq_error_iff {refusal : Refusal} :
    tags.clean = .error refusal ↔ FirstFault tags.entries refusal := by
  refine ⟨fun refused => ?_, clean_of_firstFault⟩
  rcases firstFault_or_faultless tags.entries with ⟨other, first⟩ | faultless
  · rw [Except.error.inj (refused.symm.trans (clean_of_firstFault first))]
    exact first
  · obtain ⟨result, success, _⟩ := clean_of_faultless faultless
    cases refused.symm.trans success

/-- Cleaned tags are the images of the tags under cleaning their keys and their values. -/
theorem get?_of_clean {result : TagSet} (success : tags.clean = .ok result) (key value : String) :
    result.get? key = some value ↔
      ∃ given old, tags.get? given = some old ∧ Telemetry.clean given = .ok key ∧
        Telemetry.clean old = .ok value := by
  have accepted := (exists_clean_iff.mp ⟨result, success⟩).accepted
  rw [(cleaned_of_clean success).get?]
  constructor
  · rintro ⟨pair, member, rfl, rfl⟩
    obtain ⟨acceptedKey, acceptedValue⟩ := accepted pair member
    exact ⟨pair.1, pair.2, Table.get?_eq_some_iff.mpr member, clean_of_hasAccepted acceptedKey,
      clean_of_hasAccepted acceptedValue⟩
  · rintro ⟨given, old, found, cleanKey, cleanValue⟩
    exact ⟨(given, old), Table.get?_eq_some_iff.mp found,
      (Telemetry.clean_eq_ok_iff.mp cleanKey).2.symm,
      (Telemetry.clean_eq_ok_iff.mp cleanValue).2.symm⟩

/-! ### Cleaning a set where it stands -/

/-- What cleaning makes of a set where it stands: the set afterwards, and the refusal if there is
one. -/
structure CleansTo (tags after : TagSet) (refusal : Option Refusal) : Prop where
  /-- The set is cleaned when no tag is at fault, and only then. -/
  accepted : refusal = none ↔ Faultless tags.entries
  /-- Then it has the cleaned values under the cleaned keys. -/
  images : refusal = none → ∀ key value, after.get? key = some value ↔
    ∃ given old, tags.get? given = some old ∧ Telemetry.clean given = .ok key ∧
      Telemetry.clean old = .ok value
  /-- No tag is lost, and all of them are canonical. -/
  whole : refusal = none → after.size = tags.size ∧ after.IsCanonical
  /-- Cleaning it once more changes nothing. -/
  settled : refusal = none → after.cleaned = (after, none)
  /-- A set that is refused is as it was before. -/
  untouched : refusal ≠ none → after = tags
  /-- The refusal is the one that the first tag at fault gives. -/
  refused : ∀ found, refusal = some found ↔ FirstFault tags.entries found

/-- Every set is cleaned as a whole or left as it was. -/
theorem cleansTo_cleaned (tags : TagSet) : tags.CleansTo tags.cleaned.1 tags.cleaned.2 := by
  cases outcome : tags.clean with
  | ok result =>
    have done : tags.cleaned = (result, none) := by rw [cleaned, outcome]
    have canonical : result.IsCanonical := isCanonical_of_clean outcome
    have faultless : Faultless tags.entries := exists_clean_iff.mp ⟨result, outcome⟩
    rw [done]
    refine ⟨iff_of_true rfl faultless, fun _ => get?_of_clean outcome,
      fun _ => ⟨(cleaned_of_clean outcome).size, canonical⟩, fun _ => ?_,
      fun refused => absurd rfl refused, fun found => ?_⟩
    · rw [cleaned, clean_of_isCanonical canonical]
    · rw [← clean_eq_error_iff, outcome]
      exact iff_of_false nofun nofun
  | error refusal =>
    have kept : tags.cleaned = (tags, some refusal) := by rw [cleaned, outcome]
    have faulty : ¬Faultless tags.entries := fun faultless => by
      obtain ⟨result, success⟩ := exists_clean_iff.mpr faultless
      cases outcome.symm.trans success
    rw [kept]
    refine ⟨iff_of_false nofun faulty, nofun, nofun, nofun, fun _ => rfl, fun found => ?_⟩
    rw [← clean_eq_error_iff, outcome, Option.some.injEq, Except.error.injEq]

/-- Two keys are cleaned to one, and the set stays as it was. Two others are not, and change places
when they are cleaned. -/
example :
    let twins : TagSet := Table.ofList [("a b", "1"), ("ab", "2")]
    let others : TagSet := Table.ofList [("(z)", "1"), ("a", "b c")]
    twins.cleaned = (twins, some (.duplicateTag "ab")) ∧
      others.cleaned = (Table.ofList [("a", "bc"), ("z", "1")], none) := by
  decide +kernel

end TagSet

end Telemetry
