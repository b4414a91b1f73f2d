/-
This file says what tables answer after they were changed.

A table lists its entries by ascending key, so a look-up and the list of the entries tell the same:
a value is found exactly when its entry is listed, and tables that answer alike are equal. Placing,
leaving out and merging are then said by the look-up alone, and so is the table of entries in any
order when no key comes twice. One law is about the list: an entry whose key is the greatest goes to
the end, and so entries that are inserted in ascending order come out as they went in.
-/

import Mathlib.Data.List.Nodup
import Mathlib.Data.List.Perm.Basic
import Telemetry.Table

namespace Telemetry

namespace Table

variable {α : Type}

/-! ### Entries and look-up -/

/-- A key that no entry has is not found. -/
theorem find_eq_none {key : String} {entries : List (String × α)}
    (absent : ∀ entry ∈ entries, entry.1 ≠ key) : find key entries = none := by
  induction entries with
  | nil => rfl
  | cons head rest inductionHypothesis =>
    obtain ⟨other, value⟩ := head
    have different : key ≠ other := Ne.symm (absent (other, value) List.mem_cons_self)
    rw [find, if_neg different]
    exact inductionHypothesis fun entry member => absent entry (List.mem_cons_of_mem _ member)

/-- What is found stands in an entry. -/
theorem mem_of_find {key : String} {value : α} {entries : List (String × α)}
    (found : find key entries = some value) : (key, value) ∈ entries := by
  induction entries with
  | nil => cases found
  | cons head rest inductionHypothesis =>
    obtain ⟨other, old⟩ := head
    rw [find] at found
    split at found
    · rename_i same
      rw [same, ← Option.some.inj found]
      exact List.mem_cons_self
    · exact List.mem_cons_of_mem _ (inductionHypothesis found)

/-- In an ascending list no key comes twice. -/
theorem nodup_keys {entries : List (String × α)}
    (ascending : entries.Pairwise fun left right => left.1 < right.1) :
    (entries.map Prod.fst).Nodup := by
  refine List.pairwise_map.mpr (ascending.imp fun {left right} before same => ?_)
  exact String.lt_irrefl right.1 (same ▸ before)

/-- Where no key comes twice, the first entry has a key that no other entry has. -/
theorem ne_of_mem_rest {head entry : String × α} {rest : List (String × α)}
    (distinct : ((head :: rest).map Prod.fst).Nodup) (member : entry ∈ rest) :
    entry.1 ≠ head.1 :=
  Ne.symm ((List.pairwise_cons.mp distinct).1 entry.1 (List.mem_map_of_mem member))

/-- Where no key comes twice, every entry is found. -/
theorem find_of_mem {key : String} {value : α} {entries : List (String × α)}
    (distinct : (entries.map Prod.fst).Nodup) (member : (key, value) ∈ entries) :
    find key entries = some value := by
  induction entries with
  | nil => cases member
  | cons head rest inductionHypothesis =>
    rcases List.mem_cons.mp member with rfl | later
    · rw [find, if_pos rfl]
    · have different : key ≠ head.1 := ne_of_mem_rest distinct later
      obtain ⟨other, old⟩ := head
      rw [find, if_neg different]
      exact inductionHypothesis (List.pairwise_cons.mp distinct).2 later

/-- A value is found under a key exactly when the table lists the two as an entry. -/
theorem get?_eq_some_iff {table : Table α} {key : String} {value : α} :
    table.get? key = some value ↔ (key, value) ∈ table.entries :=
  ⟨mem_of_find, find_of_mem (nodup_keys table.ascending)⟩

theorem mem_entries_insert {table : Table α} {key : String} {value : α} {entry : String × α}
    (member : entry ∈ (table.insert key value).entries) :
    entry = (key, value) ∨ entry ∈ table.entries :=
  mem_place member

/-! ### The greatest key -/

/-- An entry whose key is the greatest goes to the end. -/
theorem place_greatest {key : String} (value : α) {entries : List (String × α)}
    (greatest : ∀ entry ∈ entries, entry.1 < key) :
    place key value entries = entries ++ [(key, value)] := by
  induction entries with
  | nil => rfl
  | cons head rest inductionHypothesis =>
    obtain ⟨other, old⟩ := head
    have before : other < key := greatest (other, old) List.mem_cons_self
    have notAfter : ¬key < other := fun after => String.lt_irrefl _ (String.lt_trans before after)
    have different : key ≠ other := fun same => String.lt_irrefl _ (same ▸ before)
    rw [place, if_neg notAfter, if_neg different, List.cons_append,
      inductionHypothesis fun entry member => greatest entry (List.mem_cons_of_mem _ member)]

/-- A table has no value for a key that is greater than all its keys. -/
theorem get?_eq_none_of_greatest {table : Table α} {key : String}
    (greatest : ∀ entry ∈ table.entries, entry.1 < key) : table.get? key = none :=
  find_eq_none fun entry member same => String.lt_irrefl _ (same ▸ greatest entry member)

/-! ### Changes and look-up -/

/-- Inserting answers for its own key and leaves the others as they are. -/
theorem get?_insert (table : Table α) (key asked : String) (value : α) :
    (table.insert key value).get? asked =
      if asked = key then some value else table.get? asked := by
  split
  · rename_i same
    rw [same, get?_insert_self]
  · rename_i different
    exact get?_insert_other table different value

/-- A key is not found behind an insertion when it is another one and was not found before. -/
theorem get?_insert_eq_none_iff {table : Table α} {key asked : String} {value : α} :
    (table.insert key value).get? asked = none ↔ asked ≠ key ∧ table.get? asked = none := by
  rw [get?_insert]
  split <;> simp [*]

theorem find_filter_other {key asked : String} (different : asked ≠ key)
    (entries : List (String × α)) :
    find asked (entries.filter fun entry => entry.1 != key) = find asked entries := by
  induction entries with
  | nil => rfl
  | cons head rest inductionHypothesis =>
    obtain ⟨other, value⟩ := head
    by_cases same : other = key
    · rw [List.filter_cons_of_neg (by simp [same]), inductionHypothesis, find,
        if_neg (same ▸ different)]
    · rw [List.filter_cons_of_pos (by simp [same]), find, find, inductionHypothesis]

/-- A key that is left out is not found. -/
theorem get?_erase_self (table : Table α) (key : String) : (table.erase key).get? key = none :=
  find_eq_none fun entry member => by simpa using (List.mem_filter.mp member).2

/-- Leaving out a key leaves the others as they are. -/
theorem get?_erase_other (table : Table α) {key asked : String} (different : asked ≠ key) :
    (table.erase key).get? asked = table.get? asked :=
  find_filter_other different table.entries

/-- Inserting entries of which no key comes twice answers for their keys first. -/
theorem get?_foldl_insert {entries : List (String × α)}
    (distinct : (entries.map Prod.fst).Nodup) (table : Table α) (key : String) :
    (entries.foldl (fun merged entry => merged.insert entry.1 entry.2) table).get? key =
      (find key entries).or (table.get? key) := by
  induction entries generalizing table with
  | nil => rfl
  | cons head rest inductionHypothesis =>
    have absent : find head.1 rest = none :=
      find_eq_none fun entry member => ne_of_mem_rest distinct member
    obtain ⟨other, value⟩ := head
    rw [List.foldl_cons, inductionHypothesis (List.pairwise_cons.mp distinct).2, get?_insert,
      find]
    split
    · rename_i same
      rw [same, absent]
      rfl
    · rfl

/-- In merged tables the second one answers first. -/
theorem get?_merge (table other : Table α) (key : String) :
    (table.merge other).get? key = (other.get? key).or (table.get? key) :=
  get?_foldl_insert (nodup_keys other.ascending) table key

/-- The table of entries of which no key comes twice has exactly these entries. -/
theorem get?_ofList {entries : List (String × α)} (distinct : (entries.map Prod.fst).Nodup)
    {key : String} {value : α} :
    (ofList entries).get? key = some value ↔ (key, value) ∈ entries := by
  rw [ofList, get?_foldl_insert distinct, get?_empty, Option.or_none]
  exact ⟨mem_of_find, find_of_mem distinct⟩

/-! ### Equal tables and changed values -/

/-- Two tables that answer every look-up alike are equal. -/
theorem eq_of_get? {left right : Table α} (same : ∀ key, left.get? key = right.get? key) :
    left = right := by
  have distinct (table : Table α) : table.entries.Nodup :=
    List.Nodup.of_map Prod.fst (nodup_keys table.ascending)
  have members : ∀ entry, entry ∈ left.entries ↔ entry ∈ right.entries := fun ⟨key, value⟩ => by
    rw [← get?_eq_some_iff, same, get?_eq_some_iff]
  refine eq_of_entries (List.Perm.eq_of_pairwise (fun first second _ _ before after => ?_)
    left.ascending right.ascending
    ((List.perm_ext_iff_of_nodup (distinct left) (distinct right)).mpr members))
  exact absurd (String.lt_trans before after) (String.lt_irrefl _)

/-- The order of entries of which no key comes twice does not matter. -/
theorem ofList_perm {entries others : List (String × α)} (same : entries.Perm others)
    (distinct : (entries.map Prod.fst).Nodup) : ofList entries = ofList others := by
  have otherDistinct : (others.map Prod.fst).Nodup := (same.map Prod.fst).nodup_iff.mp distinct
  refine eq_of_get? fun key => Option.ext fun value => ?_
  rw [get?_ofList distinct, get?_ofList otherDistinct, same.mem_iff]

/-- A table is the table of its entries. -/
theorem ofList_entries (table : Table α) : ofList table.entries = table := by
  refine eq_of_get? fun key => Option.ext fun value => ?_
  rw [get?_ofList (nodup_keys table.ascending), get?_eq_some_iff]

/-- A table with changed values answers with the changed values. -/
theorem get?_of_entries_map {table changed : Table α} {change : String → α → α}
    (entries : changed.entries = table.entries.map fun entry => (entry.1, change entry.1 entry.2))
    (key : String) : changed.get? key = (table.get? key).map (change key) := by
  refine Option.ext fun value => ?_
  rw [get?_eq_some_iff, entries, List.mem_map, Option.map_eq_some_iff]
  constructor
  · rintro ⟨entry, member, same⟩
    obtain ⟨rfl, rfl⟩ := Prod.mk.inj same
    exact ⟨entry.2, get?_eq_some_iff.mpr member, rfl⟩
  · rintro ⟨old, found, rfl⟩
    exact ⟨(key, old), get?_eq_some_iff.mp found, rfl⟩

/-! ### Counts -/

/-- Increasing a count adds to its own key and leaves the others as they are. -/
theorem count_increase (table : Table Nat) (key asked : String) (amount : Nat) :
    (table.increase key amount).count asked =
      table.count asked + if asked = key then amount else 0 := by
  rw [increase, count, get?_insert]
  split
  · rename_i same
    rw [same]
    rfl
  · rfl

end Table

end Telemetry
