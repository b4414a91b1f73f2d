/-
This file holds tables from text to values.

A table keeps its entries by ascending key, and no key twice. The order of the keys is the one of
their code points. Because the order is part of the type, two tables that answer every look-up
alike are equal, and listing a table needs no sorting.
-/

namespace Telemetry

/-- A table from text to values, by ascending key. -/
structure Table (α : Type) where
  entries : List (String × α)
  ascending : entries.Pairwise fun left right => left.1 < right.1

namespace Table

variable {α : Type}

instance [DecidableEq α] : DecidableEq (Table α) := fun left right =>
  if same : left.entries = right.entries then
    isTrue (by cases left; cases right; simp_all)
  else isFalse fun equal => same (by rw [equal])

/-- Two tables with the same entries are equal. -/
theorem eq_of_entries {left right : Table α} (same : left.entries = right.entries) :
    left = right := by
  cases left; cases right; simp_all

/-- The table without entries. -/
def empty : Table α := ⟨[], .nil⟩

instance : EmptyCollection (Table α) := ⟨empty⟩

instance : Inhabited (Table α) := ⟨empty⟩

/-- The count of entries. -/
def size (table : Table α) : Nat := table.entries.length

/-- Whether there is no entry. -/
def isEmpty (table : Table α) : Bool := table.entries.isEmpty

/-- The keys, ascending. -/
def keys (table : Table α) : List String := table.entries.map (·.1)

/-- The value at a key of a list of entries. -/
def find (key : String) : List (String × α) → Option α
  | [] => none
  | (other, value) :: rest => if key = other then some value else find key rest

/-- The value at a key. -/
def get? (table : Table α) (key : String) : Option α := find key table.entries

/-- Whether a key has a value. -/
def contains (table : Table α) (key : String) : Bool := (table.get? key).isSome

/-! ### Adding an entry -/

/-- Puts an entry at its place, instead of the entry with the same key if there is one. -/
def place (key : String) (value : α) : List (String × α) → List (String × α)
  | [] => [(key, value)]
  | (other, old) :: rest =>
    if key < other then (key, value) :: (other, old) :: rest
    else if key = other then (key, value) :: rest
    else (other, old) :: place key value rest

/-- A placed entry is the new one or one of the old ones. -/
theorem mem_place {key : String} {value : α} {entry : String × α} {entries : List (String × α)}
    (member : entry ∈ place key value entries) : entry = (key, value) ∨ entry ∈ entries := by
  induction entries with
  | nil => simpa [place] using member
  | cons head rest inductionHypothesis =>
    obtain ⟨other, old⟩ := head
    simp only [place] at member
    split at member
    · simpa using member
    · split at member
      · rcases List.mem_cons.mp member with here | later
        · exact .inl here
        · exact .inr (List.mem_cons_of_mem _ later)
      · rcases List.mem_cons.mp member with here | later
        · exact .inr (by simp [here])
        · rcases inductionHypothesis later with placed | before
          · exact .inl placed
          · exact .inr (List.mem_cons_of_mem _ before)

/-- Of two different keys that are not ascending, the second one is the lesser. -/
theorem lt_of_not_lt_of_ne {key other : String} (notBefore : ¬key < other)
    (different : key ≠ other) : other < key := by
  rcases String.le_total key other with before | after
  · exact absurd (String.le_antisymm before (String.not_lt.mp notBefore)) different
  · exact String.not_le.mp fun le => different (String.le_antisymm le after)

/-- Placing an entry keeps the order. -/
theorem ascending_place (key : String) (value : α) {entries : List (String × α)}
    (ascending : entries.Pairwise fun left right => left.1 < right.1) :
    (place key value entries).Pairwise fun left right => left.1 < right.1 := by
  induction entries with
  | nil => simp [place]
  | cons head rest inductionHypothesis =>
    obtain ⟨other, old⟩ := head
    obtain ⟨least, restAscending⟩ := List.pairwise_cons.mp ascending
    simp only [place]
    split
    · rename_i before
      refine List.pairwise_cons.mpr ⟨fun entry member => ?_, ascending⟩
      rcases List.mem_cons.mp member with rfl | later
      · exact before
      · exact String.lt_trans before (least entry later)
    · rename_i notBefore
      split
      · rename_i same
        subst same
        exact List.pairwise_cons.mpr ⟨least, restAscending⟩
      · rename_i different
        refine List.pairwise_cons.mpr ⟨fun entry member => ?_, inductionHypothesis restAscending⟩
        rcases mem_place member with rfl | later
        · exact lt_of_not_lt_of_ne notBefore different
        · exact least entry later

/-- A table with the entry for a key, which replaces an older one. -/
def insert (table : Table α) (key : String) (value : α) : Table α :=
  ⟨place key value table.entries, ascending_place key value table.ascending⟩

/-- A table without the entry for a key. -/
def erase (table : Table α) (key : String) : Table α :=
  ⟨table.entries.filter fun entry => entry.1 != key, table.ascending.filter _⟩

/-- The table of a list of entries; of two entries with the same key the later one counts. -/
def ofList (entries : List (String × α)) : Table α :=
  entries.foldl (fun table entry => table.insert entry.1 entry.2) empty

/-- The entries of two tables; where both have a key, the second one's value counts. -/
def merge (table other : Table α) : Table α :=
  other.entries.foldl (fun merged entry => merged.insert entry.1 entry.2) table

/-- The entries that satisfy a condition. -/
def filter (table : Table α) (keep : String × α → Bool) : Table α :=
  ⟨table.entries.filter keep, table.ascending.filter _⟩

/-! ### Look-up -/

@[simp] theorem find_nil (key : String) : find key ([] : List (String × α)) = none := rfl

@[simp] theorem get?_empty (key : String) : (empty : Table α).get? key = none := rfl

theorem find_place_self (key : String) (value : α) (entries : List (String × α)) :
    find key (place key value entries) = some value := by
  induction entries with
  | nil => simp [place, find]
  | cons head rest inductionHypothesis =>
    obtain ⟨other, old⟩ := head
    simp only [place]
    split
    · simp [find]
    · split
      · simp [find]
      · rename_i different
        simp [find, different, inductionHypothesis]

theorem find_place_other {key asked : String} (different : asked ≠ key) (value : α)
    (entries : List (String × α)) :
    find asked (place key value entries) = find asked entries := by
  induction entries with
  | nil => simp [place, find, different]
  | cons head rest inductionHypothesis =>
    obtain ⟨other, old⟩ := head
    simp only [place]
    split
    · simp [find, different]
    · split
      · rename_i same
        subst same
        simp [find, different]
      · simp [find, inductionHypothesis]

/-- An inserted entry is found. -/
@[simp] theorem get?_insert_self (table : Table α) (key : String) (value : α) :
    (table.insert key value).get? key = some value :=
  find_place_self key value table.entries

/-- Inserting leaves the other keys as they are. -/
theorem get?_insert_other (table : Table α) {key asked : String} (different : asked ≠ key)
    (value : α) : (table.insert key value).get? asked = table.get? asked :=
  find_place_other different value table.entries

end Table

/-! ### Tables of counts -/

/-- The count at a key, zero where there is none. -/
def Table.count (table : Table Nat) (key : String) : Nat := (table.get? key).getD 0

/-- A table with a count increased. A key without a count gets one, even where nothing is added. -/
def Table.increase (table : Table Nat) (key : String) (amount : Nat) : Table Nat :=
  table.insert key (table.count key + amount)

end Telemetry
