/-
This file holds the slots of a bounded queue.

One that wants to put a point into the queue needs a slot for it, and the slot comes back when the
point is received. Where none is free, those that ask wait in a line. A slot that comes back is
given to the first of them, so nobody who asks later can have it, though the point for which it is
given is not in the queue yet. One that gives up leaves the line, or passes the slot on that it was
given.

Nobody waits while a slot is free, and nobody has two slots or waits for a second one. A value of
the type below carries the proofs of both.
-/

namespace Telemetry

/-- The slots of a queue that are not with a point. -/
structure Slots where
  /-- How many nobody has. -/
  free : Nat
  /-- Those who were given one, and have not put a point into the queue since. -/
  held : List Nat
  /-- Those who wait for one, the first of them in front. -/
  line : List Nat
  none_free : line ≠ [] → free = 0
  distinct : (held ++ line).Nodup
  deriving DecidableEq

namespace Slots

variable {slots after : Slots} {place first : Nat} {rest : List Nat}

/-- So many slots that nobody has. -/
def new (count : Nat) : Slots := ⟨count, [], [], fun waits => absurd rfl waits, List.nodup_nil⟩

/-- One who neither has a slot nor waits for one. -/
def IsNew (slots : Slots) (place : Nat) : Prop := place ∉ slots.held ++ slots.line

instance (slots : Slots) (place : Nat) : Decidable (slots.IsNew place) :=
  inferInstanceAs (Decidable (place ∉ slots.held ++ slots.line))

theorem line_eq_nil (slots : Slots) (free : slots.free ≠ 0) : slots.line = [] :=
  Decidable.byContradiction fun waits => free (slots.none_free waits)

theorem nodup_concat {places : List Nat} (distinct : places.Nodup) (new : place ∉ places) :
    (places ++ [place]).Nodup := by
  refine List.nodup_append.mpr ⟨distinct, by simp, fun other member same last => ?_⟩
  rw [List.mem_singleton.mp last]
  exact fun equal => new (equal ▸ member)

/-- Gives a free slot to one that asks, if there is one. -/
def claim? (slots : Slots) (place : Nat) : Option Slots :=
  if asks : slots.free ≠ 0 ∧ slots.IsNew place then
    some
      { free := slots.free - 1
        held := slots.held ++ [place]
        line := []
        none_free := fun waits => absurd rfl waits
        distinct := by
          obtain ⟨free, new⟩ := asks
          have distinct := slots.distinct
          rw [IsNew, slots.line_eq_nil free, List.append_nil] at new
          rw [slots.line_eq_nil free, List.append_nil] at distinct
          rw [List.append_nil]
          exact nodup_concat distinct new }
  else none

/-- Lets one that asks wait, if no slot is free. -/
def wait? (slots : Slots) (place : Nat) : Option Slots :=
  if asks : slots.free = 0 ∧ slots.IsNew place then
    some
      { slots with
        line := slots.line ++ [place]
        none_free := fun _ => asks.1
        distinct := by
          rw [← List.append_assoc]
          exact nodup_concat slots.distinct asks.2 }
  else none

/-- One that has a slot puts a point into the queue. -/
def use (slots : Slots) (place : Nat) : Slots :=
  { slots with
    held := slots.held.erase place
    distinct := slots.distinct.sublist (List.Sublist.append_right List.erase_sublist _) }

/-- A slot comes back. -/
def restore (slots : Slots) : Slots :=
  match line : slots.line with
  | [] =>
    { slots with
      free := slots.free + 1
      none_free := fun waits => absurd line waits }
  | first :: rest =>
    { slots with
      held := slots.held ++ [first]
      line := rest
      none_free := fun _ => slots.none_free (line ▸ List.cons_ne_nil first rest)
      distinct := by simpa [line] using slots.distinct }

/-- One that has a slot or waits gives up. -/
def quit (slots : Slots) (place : Nat) : Slots :=
  if place ∈ slots.held then (slots.use place).restore
  else
    { slots with
      line := slots.line.erase place
      none_free := fun waits => slots.none_free fun empty => waits (by simp [empty])
      distinct := slots.distinct.sublist (List.Sublist.append_left List.erase_sublist _) }

/-- The consumer has gone, and nobody needs a slot any more. -/
def close (slots : Slots) : Slots := new slots.free

/-! ### What changes -/

theorem claimed (claims : slots.claim? place = some after) :
    slots.free = after.free + 1 ∧ slots.IsNew place ∧ after.held = slots.held ++ [place] ∧
      after.line = slots.line := by
  unfold claim? at claims
  split at claims
  · rename_i asks
    rw [← Option.some.inj claims]
    exact ⟨(Nat.succ_pred asks.1).symm, asks.2, rfl, (slots.line_eq_nil asks.1).symm⟩
  · cases claims

theorem waited (waits : slots.wait? place = some after) :
    slots.free = 0 ∧ slots.IsNew place ∧ after.free = slots.free ∧ after.held = slots.held ∧
      after.line = slots.line ++ [place] := by
  unfold wait? at waits
  split at waits
  · rename_i asks
    rw [← Option.some.inj waits]
    exact ⟨asks.1, asks.2, rfl, rfl, rfl⟩
  · cases waits

theorem claim_isSome (free : slots.free ≠ 0) (new : slots.IsNew place) :
    (slots.claim? place).isSome = true := by
  rw [claim?, dif_pos ⟨free, new⟩]
  rfl

/-- A slot that comes back is given to the first in the line, and the others move up. -/
theorem restore_of_line (line : slots.line = first :: rest) :
    slots.restore.free = slots.free ∧ slots.restore.held = slots.held ++ [first] ∧
      slots.restore.line = rest := by
  unfold restore
  split
  · rename_i empty
    cases line.symm.trans empty
  · rename_i next others same
    obtain ⟨rfl, rfl⟩ := List.cons.inj (line.symm.trans same)
    exact ⟨rfl, rfl, rfl⟩

/-- Where nobody waits it is free. -/
theorem restore_of_nil (line : slots.line = []) :
    slots.restore.free = slots.free + 1 ∧ slots.restore.held = slots.held ∧
      slots.restore.line = [] := by
  unfold restore
  split
  · exact ⟨rfl, rfl, line⟩
  · rename_i same
    cases line.symm.trans same

theorem quit_of_held (has : place ∈ slots.held) :
    slots.quit place = (slots.use place).restore := by
  rw [quit, if_pos has]

/-- One that has no slot only leaves the line. -/
theorem quit_of_not_held (has : place ∉ slots.held) :
    (slots.quit place).free = slots.free ∧ (slots.quit place).held = slots.held ∧
      (slots.quit place).line = slots.line.erase place := by
  rw [quit, if_neg has]
  exact ⟨rfl, rfl, rfl⟩

/-! ### How many there are -/

/-- The slots that are not with a point. -/
def spare (slots : Slots) : Nat := slots.free + slots.held.length

@[simp] theorem spare_new (count : Nat) : (new count).spare = count := rfl

theorem spare_claim (claims : slots.claim? place = some after) : after.spare = slots.spare := by
  obtain ⟨free, _, held, _⟩ := claimed claims
  rw [spare, spare, free, held, List.length_append, List.length_singleton]
  omega

theorem spare_wait (waits : slots.wait? place = some after) : after.spare = slots.spare := by
  obtain ⟨_, _, free, held, _⟩ := waited waits
  rw [spare, spare, free, held]

theorem spare_use (has : place ∈ slots.held) : (slots.use place).spare + 1 = slots.spare := by
  have positive := List.length_pos_of_mem has
  simp only [spare, use, List.length_erase_of_mem has]
  omega

theorem spare_restore (slots : Slots) : slots.restore.spare = slots.spare + 1 := by
  cases line : slots.line with
  | nil =>
    obtain ⟨free, held, _⟩ := restore_of_nil line
    rw [spare, spare, free, held]
    omega
  | cons first rest =>
    obtain ⟨free, held, _⟩ := restore_of_line line
    rw [spare, spare, free, held, List.length_append, List.length_singleton]
    omega

theorem spare_quit (slots : Slots) (place : Nat) : (slots.quit place).spare = slots.spare := by
  by_cases has : place ∈ slots.held
  · rw [quit_of_held has, spare_restore, spare_use has]
  · obtain ⟨free, held, _⟩ := quit_of_not_held has
    rw [spare, spare, free, held]

/-! ### Who has one or waits -/

@[simp] theorem isNew_new (count : Nat) : (new count).IsNew place := List.not_mem_nil

theorem isNew_iff : slots.IsNew place ↔ place ∉ slots.held ∧ place ∉ slots.line := by
  simp [IsNew]

theorem isNew_claim (claims : slots.claim? place = some after) {other : Nat} :
    after.IsNew other ↔ slots.IsNew other ∧ other ≠ place := by
  obtain ⟨_, _, held, line⟩ := claimed claims
  simp only [isNew_iff, held, line, List.mem_append, List.mem_singleton, not_or]
  exact ⟨fun ⟨⟨here, new⟩, there⟩ => ⟨⟨here, there⟩, new⟩,
    fun ⟨⟨here, there⟩, new⟩ => ⟨⟨here, new⟩, there⟩⟩

theorem isNew_wait (waits : slots.wait? place = some after) {other : Nat} :
    after.IsNew other ↔ slots.IsNew other ∧ other ≠ place := by
  obtain ⟨_, _, _, held, line⟩ := waited waits
  simp only [isNew_iff, held, line, List.mem_append, List.mem_singleton, not_or]
  exact and_assoc.symm

theorem isNew_restore {other : Nat} : slots.restore.IsNew other ↔ slots.IsNew other := by
  cases line : slots.line with
  | nil =>
    obtain ⟨_, held, empty⟩ := restore_of_nil line
    simp only [isNew_iff, held, line, empty]
  | cons first rest =>
    obtain ⟨_, held, moved⟩ := restore_of_line line
    rw [isNew_iff, isNew_iff, held, line, moved, List.mem_append, List.mem_singleton,
      List.mem_cons, not_or, not_or, and_assoc]

/-- Nobody has two slots, or waits for a second one. -/
theorem not_mem_line (has : place ∈ slots.held) : place ∉ slots.line :=
  fun waits => (List.nodup_append.mp slots.distinct).2.2 place has place waits rfl

theorem isNew_use (has : place ∈ slots.held) {other : Nat} :
    (slots.use place).IsNew other ↔ slots.IsNew other ∨ other = place := by
  have distinct := (List.nodup_append.mp slots.distinct).1
  simp only [isNew_iff, use, distinct.mem_erase_iff]
  by_cases same : other = place
  · subst same
    simp [not_mem_line has]
  · simp [same]

theorem isNew_quit {other : Nat} :
    (slots.quit place).IsNew other ↔ slots.IsNew other ∨ other = place := by
  by_cases has : place ∈ slots.held
  · rw [quit_of_held has, isNew_restore, isNew_use has]
  · obtain ⟨_, held, line⟩ := quit_of_not_held has
    have distinct := (List.nodup_append.mp slots.distinct).2.1
    simp only [isNew_iff, held, line, distinct.mem_erase_iff]
    by_cases same : other = place
    · subst same
      simp [has]
    · simp [same]

/-! ### The order in the line -/

/-- Those who wait keep their order. -/
theorem line_restore (slots : Slots) : slots.restore.line.Sublist slots.line := by
  cases line : slots.line with
  | nil =>
    exact (restore_of_nil line).2.2 ▸ List.Sublist.refl []
  | cons first rest =>
    rw [(restore_of_line line).2.2]
    exact List.sublist_cons_self first rest

theorem line_quit (slots : Slots) (place : Nat) : (slots.quit place).line.Sublist slots.line := by
  by_cases has : place ∈ slots.held
  · rw [quit_of_held has]
    exact (slots.use place).line_restore
  · rw [(quit_of_not_held has).2.2]
    exact List.erase_sublist

end Slots

end Telemetry
