/-
This file says that the store of metadata is written once.

A remark is a hint as it comes with a point: for a metric and the tags of one of its series. Under
every key it says one text or none. After any remarks the store holds, under every key, the text of
the first remark that said one there, and it holds nothing else. So only the first remark of every
key counts, and the order of the others does not.

One remark is opened key by key; what it does to the store is then said by look-up alone, and a
sequence of remarks by induction on it.
-/

import Mathlib.Data.List.Nodup
import Mathlib.Data.List.Perm.Basic
import Telemetry.Metadata

namespace Telemetry

/-- A hint that comes with a point. -/
structure Remark where
  metric : String
  tags : TagSet
  hint : Hint

/-- What a remark says under a key. Rate and unit are said of the metric, whose tags are empty, a
description of the series; a part that is left open says nothing. -/
def Remark.says? (remark : Remark) (key : Metadata.Key) : Option String :=
  if key.metric = remark.metric then
    match key.part with
    | .rate =>
      if key.tags = "" ∧ remark.hint.rate ≠ .unknown then some remark.hint.rate.text else none
    | .unit =>
      if key.tags = "" ∧ remark.hint.measure ≠ .none then some remark.hint.measure.text else none
    | .description =>
      if key.tags = remark.tags.text ∧ remark.hint.description ≠ "" then
        some remark.hint.description
      else none
  else none

namespace Metadata

/-- The store after one more remark. -/
def note (store : Metadata) (remark : Remark) : Metadata :=
  store.record remark.metric remark.tags remark.hint

/-- The store after remarks, in order. -/
def ofRemarks (remarks : List Remark) : Metadata := remarks.foldl note empty

/-! ### Look-up -/

/-- Of all texts for a key the first one is kept: that of the store, else that of the first
entry. -/
theorem find?_foldl_put (store : Metadata) (entries : List (Key × String)) (asked : Key) :
    (entries.foldl (fun store entry => store.put entry.1 entry.2) store).find? asked =
      (store.find? asked).or ((entries.find? fun entry => entry.1 = asked).map (·.2)) := by
  induction entries generalizing store with
  | nil => exact (Option.or_none).symm
  | cons entry rest inductionHypothesis =>
    rw [List.foldl_cons, inductionHypothesis]
    by_cases same : entry.1 = asked
    · rw [List.find?_cons_of_pos (by simpa using same), ← same, find?_put_self]
      cases store.find? entry.1 <;> rfl
    · rw [List.find?_cons_of_neg (by simpa using same), find?_put_other _ (Ne.symm same)]

/-- The entry of one part of a hint, looked for under a key. -/
theorem find?_part (isOpen : Prop) [Decidable isOpen] (own asked : Key) (text : String) :
    ((if isOpen then [] else [(own, text)]).find? fun entry => entry.1 = asked).map (·.2) =
      if asked = own ∧ ¬isOpen then some text else none := by
  by_cases left : isOpen
  · simp [left]
  · by_cases same : asked = own
    · simp [left, same]
    · simp [left, same, Ne.symm same]

/-- The entries of a remark hold what it says. -/
theorem find?_entriesOf (remark : Remark) (key : Key) :
    ((entriesOf remark.metric remark.tags remark.hint).find? fun entry => entry.1 = key).map
      (·.2) = remark.says? key := by
  obtain ⟨metric, tags, part⟩ := key
  rw [entriesOf, List.find?_append, List.find?_append, Option.map_or, Option.map_or, find?_part,
    find?_part, find?_part, Remark.says?]
  by_cases about : metric = remark.metric
  · cases part <;> simp [about]
  · simp [about]

/-- A remark counts under the keys under which nothing was said before. -/
theorem find?_note (store : Metadata) (remark : Remark) (key : Key) :
    (store.note remark).find? key = (store.find? key).or (remark.says? key) := by
  rw [note, record, find?_foldl_put, find?_entriesOf]

theorem find?_foldl_note (store : Metadata) (remarks : List Remark) (key : Key) :
    (remarks.foldl note store).find? key =
      (store.find? key).or (remarks.findSome? (·.says? key)) := by
  induction remarks generalizing store with
  | nil => exact (Option.or_none).symm
  | cons remark rest inductionHypothesis =>
    rw [List.foldl_cons, inductionHypothesis, find?_note, Option.or_assoc]
    congr 1
    rw [List.findSome?_cons]
    cases remark.says? key <;> rfl

/-- Under every key stands what the first remark about it said. -/
theorem find?_ofRemarks (remarks : List Remark) (key : Key) :
    (ofRemarks remarks).find? key = remarks.findSome? (·.says? key) := by
  rw [ofRemarks, find?_foldl_note, find?_empty, Option.none_or]

/-! ### Entries -/

/-- No key has two entries. -/
def IsDistinct (store : Metadata) : Prop := (store.entries.map (·.1)).Nodup

theorem isDistinct_empty : empty.IsDistinct := List.nodup_nil

theorem mem_keys_iff {store : Metadata} {key : Key} :
    key ∈ store.entries.map (·.1) ↔ (store.find? key).isSome := by
  simp [find?, List.find?_isSome]

/-- The entries are what the look-up finds. -/
theorem IsDistinct.mem_entries_iff {store : Metadata} (distinct : store.IsDistinct) {key : Key}
    {text : String} : (key, text) ∈ store.entries ↔ store.find? key = some text := by
  obtain ⟨entries⟩ := store
  unfold IsDistinct at distinct
  unfold find?
  induction entries with
  | nil => simp
  | cons entry rest inductionHypothesis =>
    obtain ⟨fresh, others⟩ := List.nodup_cons.mp distinct
    by_cases same : entry.1 = key
    · subst same
      have absent : (entry.1, text) ∉ rest := fun member =>
        fresh (List.mem_map_of_mem (f := (·.1)) member)
      simp [absent, Prod.ext_iff, eq_comm]
    · have other : (key, text) ≠ entry := fun equal => same (congrArg Prod.fst equal).symm
      simpa [other, same] using inductionHypothesis others

/-- Stores that answer every look-up alike have the same entries, up to their order. -/
theorem IsDistinct.perm {store other : Metadata} (distinct : store.IsDistinct)
    (otherDistinct : other.IsDistinct) (same : ∀ key, store.find? key = other.find? key) :
    store.entries.Perm other.entries := by
  have once : store.entries.Nodup := List.Nodup.of_map _ distinct
  have otherOnce : other.entries.Nodup := List.Nodup.of_map _ otherDistinct
  refine (List.perm_ext_iff_of_nodup once otherOnce).mpr ?_
  rintro ⟨key, text⟩
  rw [distinct.mem_entries_iff, otherDistinct.mem_entries_iff, same]

/-- Storing a text adds an entry at the end, or none. -/
theorem prefix_put (store : Metadata) (key : Key) (text : String) :
    store.entries <+: (store.put key text).entries := by
  unfold put
  split
  · exact List.prefix_refl _
  · exact List.prefix_append _ _

theorem isDistinct_put {store : Metadata} (distinct : store.IsDistinct) (key : Key)
    (text : String) : (store.put key text).IsDistinct := by
  unfold put
  split
  · exact distinct
  · rename_i unknown
    have fresh : key ∉ store.entries.map (·.1) := fun member => unknown (mem_keys_iff.mp member)
    show ((store.entries ++ [(key, text)]).map (·.1)).Nodup
    rw [List.map_append, List.map_singleton, List.nodup_append_comm]
    exact List.nodup_cons.mpr ⟨fresh, distinct⟩

/-! ### Any number of remarks -/

/-- What every stored text keeps is kept by remarks, which only store texts. -/
theorem foldl_note_induction (Kept : Metadata → Prop)
    (put : ∀ store key text, Kept store → Kept (store.put key text)) {store : Metadata}
    (kept : Kept store) (remarks : List Remark) : Kept (remarks.foldl note store) := by
  have noted (remark : Remark) (store : Metadata) (kept : Kept store) :
      Kept (store.note remark) := by
    unfold note record
    induction entriesOf remark.metric remark.tags remark.hint generalizing store with
    | nil => exact kept
    | cons entry rest inductionHypothesis => exact inductionHypothesis _ (put _ _ _ kept)
  induction remarks generalizing store with
  | nil => exact kept
  | cons remark rest inductionHypothesis => exact inductionHypothesis (noted remark store kept)

theorem isDistinct_ofRemarks (remarks : List Remark) : (ofRemarks remarks).IsDistinct :=
  foldl_note_induction IsDistinct (fun _ key text distinct => isDistinct_put distinct key text)
    isDistinct_empty remarks

/-- Later remarks add entries behind those of the earlier ones. -/
theorem prefix_ofRemarks (before after : List Remark) :
    (ofRemarks before).entries <+: (ofRemarks (before ++ after)).entries := by
  rw [ofRemarks, ofRemarks, List.foldl_append]
  exact foldl_note_induction (fun store => _ <+: store.entries)
    (fun store key text before => before.trans (store.prefix_put key text))
    (List.prefix_refl _) after

/-- Two stores that cannot be told apart: they answer alike for every key and every metric, and
have the same count of entries. -/
structure Agrees (store other : Metadata) : Prop where
  find : ∀ key, store.find? key = other.find? key
  about : ∀ metric, (store.about metric).Perm (other.about metric)
  size : store.size = other.size

/-- What remarks leave in the store. -/
structure WrittenOnce (remarks : List Remark) : Prop where
  /-- Under every key stands what the first remark about it said, and nothing else stands there. -/
  first : ∀ key, (ofRemarks remarks).find? key = remarks.findSome? (·.says? key)
  /-- No key has two entries. -/
  distinct : ((ofRemarks remarks).entries.map (·.1)).Nodup
  /-- The entries about a metric are all its entries and only those. -/
  about : ∀ metric key text, (key, text) ∈ (ofRemarks remarks).about metric ↔
    key.metric = metric ∧ remarks.findSome? (·.says? key) = some text
  /-- What earlier remarks have left there is neither changed nor removed by later ones. -/
  kept : ∀ before after, remarks = before ++ after →
    ∀ entry ∈ (ofRemarks before).entries, entry ∈ (ofRemarks remarks).entries
  grows : ∀ before after, remarks = before ++ after →
    (ofRemarks before).size ≤ (ofRemarks remarks).size
  /-- In another order the remarks leave the same, as long as the first remark about every key is
  the same one. -/
  reordered : ∀ others, others.Perm remarks →
    (∀ key, (others.find? fun remark => (remark.says? key).isSome) =
      remarks.find? fun remark => (remark.says? key).isSome) →
    (ofRemarks others).Agrees (ofRemarks remarks)

theorem findSome?_eq_bind_find? (remarks : List Remark) (key : Key) :
    remarks.findSome? (·.says? key) =
      (remarks.find? fun remark => (remark.says? key).isSome).bind (·.says? key) := by
  induction remarks with
  | nil => rfl
  | cons remark rest inductionHypothesis =>
    cases said : remark.says? key with
    | none => simp [said, inductionHypothesis]
    | some text => simp [said]

theorem mem_about_iff {store : Metadata} (distinct : store.IsDistinct) {metric : String}
    {key : Key} {text : String} :
    (key, text) ∈ store.about metric ↔ key.metric = metric ∧ store.find? key = some text := by
  rw [about, List.mem_filter, distinct.mem_entries_iff, decide_eq_true_iff, and_comm]

/-- Stores without a second entry for a key agree when every look-up does. -/
theorem IsDistinct.agrees {store other : Metadata} (distinct : store.IsDistinct)
    (otherDistinct : other.IsDistinct) (same : ∀ key, store.find? key = other.find? key) :
    store.Agrees other :=
  have entries := distinct.perm otherDistinct same
  ⟨same, fun _ => entries.filter _, entries.length_eq⟩

/-- The store of metadata is written once, whatever is remarked. -/
theorem writtenOnce_of_remarks (remarks : List Remark) : WrittenOnce remarks where
  first := find?_ofRemarks remarks
  distinct := isDistinct_ofRemarks remarks
  about metric key text := by
    rw [mem_about_iff (isDistinct_ofRemarks remarks), find?_ofRemarks]
  kept before after parts entry member := by
    rw [parts]
    exact (prefix_ofRemarks before after).subset member
  grows before after parts := by
    rw [parts]
    exact (prefix_ofRemarks before after).length_le
  reordered others _ same := by
    refine (isDistinct_ofRemarks others).agrees (isDistinct_ofRemarks remarks) fun key => ?_
    rw [find?_ofRemarks, find?_ofRemarks, findSome?_eq_bind_find?, findSome?_eq_bind_find?,
      same key]

end Metadata

end Telemetry
