/-
This file says which texts are lists of tags.

Pairs stand between commas. In a pair an equals sign stands behind the key, and blanks around the
key and around the value do not count. A value is a choice: alternatives between bars, each of them
a star or a canonical text. A text of this form in which no key comes twice is read, and no other
text is. What is read is the table of the pairs, so their order does not matter.
-/

import Telemetry.Proofs.TagTokens

namespace Telemetry

/-! ### Choices -/

/-- A value that leaves a choice: alternatives between bars, each of them a star or a canonical
text. -/
def IsChoice (value : String) : Prop :=
  ∃ alternatives : List String, value = "|".intercalate alternatives ∧ alternatives ≠ [] ∧
    ∀ alternative ∈ alternatives, alternative = "*" ∨ isCanonical alternative = true

theorem isAlternative_iff {text : String} :
    isAlternative text = true ↔ text = "*" ∨ isCanonical text = true := by
  rw [isAlternative, Bool.or_eq_true, decide_eq_true_eq]

/-- There is no bar in an alternative. -/
theorem bar_not_mem_of_isAlternative {text : String} (alternative : isAlternative text = true) :
    '|' ∉ text.toList := by
  rcases isAlternative_iff.mp alternative with rfl | canonical
  · decide
  · exact not_mem_of_isCanonical canonical bar_not_accepted

/-- The values that may stand in a query are the choices. -/
theorem isQueryValue_iff {value : String} : isQueryValue value = true ↔ IsChoice value := by
  simp only [isQueryValue, List.all_eq_true, IsChoice, ← isAlternative_iff]
  constructor
  · intro alternatives
    obtain ⟨whole, nonempty, _⟩ := (pieces_eq_iff "|" rfl).mp rfl
    exact ⟨pieces '|' value, whole, nonempty, alternatives⟩
  · rintro ⟨alternatives, rfl, nonempty, each⟩
    rw [pieces_intercalate rfl nonempty fun part member =>
      bar_not_mem_of_isAlternative (each part member)]
    exact each

/-! ### One pair -/

/-- A text spells a pair: an equals sign, the first one in the text, stands between a key and a
choice, and around them there may be blanks. -/
structure Spells (text : String) (pair : String × String) : Prop where
  cut : ∃ before after, text = before ++ "=" ++ after ∧ '=' ∉ before.toList ∧
    trim before = pair.1 ∧ trim after = pair.2
  canonicalKey : isCanonical pair.1 = true
  choice : IsChoice pair.2

/-- The texts that are read as a pair are those that spell it. -/
theorem readPair_eq_ok_iff {text : String} {pair : String × String} :
    readPair text = .ok pair ↔ Spells text pair := by
  constructor
  · intro success
    unfold readPair at success
    split at success
    · cases success
    · rename_i before after found
      obtain ⟨whole, absent⟩ := (splitOnce_eq_some_iff "=" rfl).mp found
      dsimp only at success
      split at success
      · cases success
      · split at success
        · cases success
        · rename_i key value
          rw [← Except.ok.inj success]
          exact ⟨⟨before, after, whole, absent, rfl, rfl⟩, by simpa using key,
            isQueryValue_iff.mp (by simpa using value)⟩
  · obtain ⟨key, value⟩ := pair
    rintro ⟨⟨before, after, whole, absent, rfl, rfl⟩, canonicalKey, choice⟩
    have found : splitOnce '=' text = some (before, after) :=
      (splitOnce_eq_some_iff "=" rfl).mpr ⟨whole, absent⟩
    rw [readPair, found]
    dsimp only
    rw [canonicalKey, isQueryValue_iff.mpr choice]
    rfl

/-! ### Pairs one after the other -/

variable {tags result : TagSet} {text : String} {parts : List String}
  {pairs : List (String × String)}

/-- Texts can be added to tags when they spell pairs whose keys are new and different. -/
theorem readPairs_eq_ok_iff :
    readPairs tags parts = .ok result ↔
      ∃ pairs, List.Forall₂ Spells parts pairs ∧ (pairs.map Prod.fst).Nodup ∧
        (∀ pair ∈ pairs, tags.get? pair.1 = none) ∧
        pairs.foldl (fun tags pair => tags.insert pair.1 pair.2) tags = result := by
  induction parts generalizing tags with
  | nil => simp [readPairs]
  | cons part rest inductionHypothesis =>
    constructor
    · intro success
      rw [readPairs] at success
      split at success
      · cases success
      · rename_i key value read
        split at success
        · cases success
        · rename_i taken
          obtain ⟨pairs, spelled, distinct, absent, folded⟩ := inductionHypothesis.mp success
          -- The key of the first pair is among the tags by the time that the others are read.
          simp only [Table.get?_insert_eq_none_iff] at absent
          refine ⟨(key, value) :: pairs, .cons (readPair_eq_ok_iff.mp read) spelled, ?_, ?_, folded⟩
          · refine List.nodup_cons.mpr ⟨fun member => ?_, distinct⟩
            obtain ⟨pair, inPairs, same⟩ := List.mem_map.mp member
            exact (absent pair inPairs).1 same
          · refine List.forall_mem_cons.mpr ⟨?_, fun pair member => (absent pair member).2⟩
            simpa [Table.contains] using taken
    · rintro ⟨_, spelled, distinct, absent, folded⟩
      cases spelled with
      | @cons _ pair _ pairs here later =>
        obtain ⟨new, distinctRest⟩ := List.nodup_cons.mp distinct
        obtain ⟨free, freeRest⟩ := List.forall_mem_cons.mp absent
        rw [readPairs, readPair_eq_ok_iff.mpr here]
        simp only [Table.contains, free, Option.isSome_none, Bool.false_eq_true, if_false]
        refine inductionHypothesis.mpr ⟨pairs, later, distinctRest, fun other member => ?_, folded⟩
        refine Table.get?_insert_eq_none_iff.mpr ⟨fun same => new ?_, freeRest other member⟩
        exact same ▸ List.mem_map_of_mem member

/-! ### Lists of tags -/

/-- A text spells pairs: it is made of texts without a comma, with commas between them, and each of
them spells one of the pairs. -/
def SpellsAll (text : String) (pairs : List (String × String)) : Prop :=
  ∃ parts, text = ",".intercalate parts ∧ parts ≠ [] ∧ (∀ part ∈ parts, ',' ∉ part.toList) ∧
    List.Forall₂ Spells parts pairs

/-- A text spells what its pieces do. -/
theorem spellsAll_iff : SpellsAll text pairs ↔ List.Forall₂ Spells (pieces ',' text) pairs := by
  constructor
  · rintro ⟨parts, rfl, nonempty, absent, spelled⟩
    rwa [pieces_intercalate rfl nonempty absent]
  · intro spelled
    obtain ⟨whole, nonempty, absent⟩ := (pieces_eq_iff "," rfl).mp rfl
    exact ⟨pieces ',' text, whole, nonempty, absent, spelled⟩

/-- A text is read when it spells pairs whose keys are all different, and then it gives their
table. -/
theorem readTags_eq_ok_iff :
    readTags text = .ok tags ↔
      ∃ pairs, SpellsAll text pairs ∧ (pairs.map Prod.fst).Nodup ∧ Table.ofList pairs = tags := by
  rw [readTags, readPairs_eq_ok_iff]
  refine exists_congr fun pairs => ?_
  rw [← spellsAll_iff]
  exact and_congr_right fun _ => and_congr_right fun _ => and_iff_right fun _ _ => rfl

/-- Where two lists are related, every member of the first one is related to one of the second. -/
theorem exists_of_forall₂ {α β : Type} {relation : α → β → Prop} {first : List α} {second : List β}
    (related : List.Forall₂ relation first second) {left : α} (member : left ∈ first) :
    ∃ right ∈ second, relation left right := by
  induction related with
  | nil => cases member
  | cons here _ inductionHypothesis =>
    rcases List.mem_cons.mp member with rfl | later
    · exact ⟨_, List.mem_cons_self, here⟩
    · obtain ⟨right, inRest, found⟩ := inductionHypothesis later
      exact ⟨right, List.mem_cons_of_mem _ inRest, found⟩

/-- The tags that are read have canonical keys and choices for values. -/
theorem spelled_of_readTags (success : readTags text = .ok tags) :
    ∀ pair ∈ tags.entries, isCanonical pair.1 = true ∧ IsChoice pair.2 := by
  obtain ⟨pairs, ⟨parts, _, _, _, spelled⟩, distinct, rfl⟩ := readTags_eq_ok_iff.mp success
  intro pair member
  have given : pair ∈ pairs := (Table.get?_ofList distinct).mp (Table.get?_eq_some_iff.mpr member)
  obtain ⟨part, _, spells⟩ := exists_of_forall₂ spelled.flip given
  exact ⟨spells.canonicalKey, spells.choice⟩

/-- What stands between commas in a list of tags is read by itself. -/
theorem exists_readTags_of_mem_pieces (success : readTags text = .ok tags) {part : String}
    (member : part ∈ pieces ',' text) :
    ∃ pair ∈ tags.entries, readTags part = .ok (Table.empty.insert pair.1 pair.2) := by
  obtain ⟨pairs, spelledAll, distinct, rfl⟩ := readTags_eq_ok_iff.mp success
  obtain ⟨pair, given, spells⟩ := exists_of_forall₂ (spellsAll_iff.mp spelledAll) member
  refine ⟨pair, Table.get?_eq_some_iff.mp ((Table.get?_ofList distinct).mpr given), ?_⟩
  refine readTags_eq_ok_iff.mpr ⟨[pair], spellsAll_iff.mpr ?_, List.nodup_singleton _, rfl⟩
  rw [pieces_of_not_mem (not_mem_of_mem_pieces member)]
  exact .cons spells .nil

end Telemetry
