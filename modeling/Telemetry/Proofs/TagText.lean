/-
This file says that the text of tags tells them.

A tag set is written as its pairs between commas. Neither the comma nor the equals sign is accepted
in a canonical key or in a value of a query, so the text is cut where it was put together, and
reading it gives the tags back. Two sets of this kind with the same text are therefore the same set.
The empty set has the empty text, which is no list of pairs, and it is the only one with that text.
Whatever list of tags is read, its tags are therefore read from the text that they are written as.
-/

import Telemetry.Proofs.TagGrammar

namespace Telemetry

namespace TagSet

/-- Every key is canonical, and every value may stand in a query. -/
def IsQuery (tags : TagSet) : Prop :=
  ∀ pair ∈ tags.entries, isCanonical pair.1 = true ∧ isQueryValue pair.2 = true

theorem IsCanonical.isQuery {tags : TagSet} (canonical : tags.IsCanonical) : tags.IsQuery :=
  fun pair member =>
    ⟨(canonical pair member).1, isQueryValue_of_isCanonical (canonical pair member).2⟩

variable {tags : TagSet}

/-! ### The empty text -/

theorem pairText_ne_empty (pair : String × String) : pairText pair ≠ "" := by
  intro empty
  have nothing := congrArg String.toList empty
  rw [toList_pairText] at nothing
  exact List.append_ne_nil_of_right_ne_nil _ (List.cons_ne_nil _ _) nothing

/-- Only the empty set has the empty text. -/
theorem text_eq_empty_iff : tags.text = "" ↔ tags.entries = [] := by
  constructor
  · intro empty
    cases entries : tags.entries with
    | nil => rfl
    | cons pair rest =>
      have nothing := congrArg String.toList empty
      rw [text, entries, List.map_cons, String.toList_intercalate, List.map_cons] at nothing
      refine absurd (String.toList_eq_nil_iff.mp ?_) (pairText_ne_empty pair)
      cases rest with
      | nil => rwa [List.map_nil, List.map_nil, List.intercalate_singleton] at nothing
      | cons second others =>
        rw [List.map_cons, List.map_cons, List.intercalate_cons_cons, List.append_assoc] at nothing
        exact (List.append_eq_nil_iff.mp nothing).1
  · intro none
    rw [text, none]
    rfl

/-! ### Reading the text -/

/-- The text of a set is cut into the texts of its tags. -/
theorem pieces_text (query : tags.IsQuery) (nonempty : tags.entries ≠ []) :
    pieces ',' tags.text = tags.entries.map pairText := by
  refine pieces_intercalate rfl (by simpa using nonempty) fun part member => ?_
  obtain ⟨pair, inTags, rfl⟩ := List.mem_map.mp member
  obtain ⟨canonicalKey, queryValue⟩ := query pair inTags
  exact comma_not_mem_pairText canonicalKey queryValue

/-- The text of a set is made of accepted characters and of the marks that stand between them. -/
theorem mem_of_mem_text (query : tags.IsQuery) {character : Char}
    (member : character ∈ tags.text.toList) :
    isAccepted character = true ∨ character ∈ [',', '=', '*', '|'] := by
  have nonempty : tags.entries ≠ [] := by
    intro none
    rw [text_eq_empty_iff.mpr none] at member
    cases member
  rcases separates_or_mem_piecesWhere (· == ',') member with comma | ⟨piece, inPieces, inside⟩
  · simp [beq_iff_eq.mp comma]
  · have inTags : String.ofList piece ∈ tags.entries.map pairText := by
      rw [← pieces_text query nonempty]
      exact List.mem_map_of_mem inPieces
    obtain ⟨⟨key, value⟩, listed, same⟩ := List.mem_map.mp inTags
    rw [← @String.toList_ofList piece, ← same, toList_pairText, List.mem_append,
      List.mem_cons] at inside
    obtain ⟨canonicalKey, queryValue⟩ := query _ listed
    rcases inside with inKey | rfl | inValue
    · exact .inl ((isCanonical_iff.mp canonicalKey).2 character inKey)
    · simp
    · exact (mem_of_isQueryValue queryValue inValue).imp_right fun mark => by simp [mark]

/-- Reading the text of a set gives the set back. -/
theorem readTags_text (query : tags.IsQuery) (nonempty : tags.entries ≠ []) :
    readTags tags.text = .ok tags := by
  refine readTags_eq_ok_iff.mpr ⟨tags.entries, spellsAll_iff.mpr ?_,
    Table.nodup_keys tags.ascending, Table.ofList_entries tags⟩
  rw [pieces_text query nonempty, List.forall₂_map_left_iff, List.forall₂_same]
  intro pair member
  exact readPair_eq_ok_iff.mp
    (readPair_of_isQueryValue (query pair member).1 (query pair member).2)

/-- Sets with the same text are the same. -/
theorem eq_of_text {first second : TagSet} (query : first.IsQuery) (otherQuery : second.IsQuery)
    (same : first.text = second.text) : first = second := by
  by_cases none : first.entries = []
  · have otherNone : second.entries = [] :=
      text_eq_empty_iff.mp (same ▸ text_eq_empty_iff.mpr none)
    exact Table.eq_of_entries (none.trans otherNone.symm)
  · have otherNonempty : second.entries ≠ [] := fun otherNone =>
      none (text_eq_empty_iff.mp (same ▸ text_eq_empty_iff.mpr otherNone))
    have read := readTags_text query none
    rw [same, readTags_text otherQuery otherNonempty] at read
    exact (Except.ok.inj read).symm

/-- A comma inside a value makes two sets look alike. -/
example :
    text (Table.ofList [("a", "1,b=2")]) = text (Table.ofList [("a", "1"), ("b", "2")]) := by
  decide +kernel

end TagSet

/-! ### Lists of tags -/

variable {text : String} {tags : TagSet}

/-- The order of the pairs in a list of tags does not matter. -/
theorem readTags_perm {parts others : List String} (nonempty : parts ≠ [])
    (absent : ∀ part ∈ parts, ',' ∉ part.toList) (same : parts.Perm others)
    (success : readTags (",".intercalate parts) = .ok tags) :
    readTags (",".intercalate others) = .ok tags := by
  obtain ⟨pairs, spelledAll, distinct, rfl⟩ := readTags_eq_ok_iff.mp success
  rw [spellsAll_iff, pieces_intercalate rfl nonempty absent] at spelledAll
  obtain ⟨otherPairs, spelled, samePairs⟩ := List.perm_comp_forall₂ same.symm spelledAll
  refine readTags_eq_ok_iff.mpr ⟨otherPairs, ⟨others, rfl, ?_, ?_, spelled⟩, ?_, ?_⟩
  · exact fun none => nonempty (List.perm_nil.mp (none ▸ same))
  · exact fun part member => absent part (same.mem_iff.mpr member)
  · exact (samePairs.map Prod.fst).nodup_iff.mpr distinct
  · exact (Table.ofList_perm samePairs.symm distinct).symm

/-- There is a tag in a list of tags. -/
theorem entries_ne_nil_of_readTags (success : readTags text = .ok tags) : tags.entries ≠ [] := by
  obtain ⟨_, nonempty, _⟩ := (pieces_eq_iff "," rfl).mp (Eq.refl (pieces ',' text))
  obtain ⟨piece, member⟩ := List.exists_mem_of_ne_nil _ nonempty
  obtain ⟨pair, inTags, _⟩ := exists_readTags_of_mem_pieces success member
  exact List.ne_nil_of_mem inTags

/-- How a text and a tag set go together when the text is read and the tags are written. -/
structure ReadAndWritten (text : String) (tags : TagSet) : Prop where
  /-- The lists of tags are the texts that spell pairs whose keys are all different. -/
  accepted : (∃ result, readTags text = .ok result) ↔
    ∃ pairs, SpellsAll text pairs ∧ (pairs.map Prod.fst).Nodup
  /-- The tags of a list are its pairs. -/
  read : readTags text = .ok tags ↔
    ∃ pairs, SpellsAll text pairs ∧ (pairs.map Prod.fst).Nodup ∧
      ∀ key value, tags.get? key = some value ↔ (key, value) ∈ pairs
  /-- Tags that are read are read from their own text too, and there is one at least. -/
  rendered : readTags text = .ok tags → tags.entries ≠ [] ∧ readTags tags.text = .ok tags
  /-- Tags with canonical keys and with choices for values are read from their text. -/
  recovered : tags.entries ≠ [] →
    (∀ pair ∈ tags.entries, isCanonical pair.1 = true ∧ IsChoice pair.2) →
      readTags tags.text = .ok tags
  /-- The texts between the commas may come in any order. -/
  reordered : readTags text = .ok tags → ∀ parts others, text = ",".intercalate parts →
    parts ≠ [] → (∀ part ∈ parts, ',' ∉ part.toList) → parts.Perm others →
      readTags (",".intercalate others) = .ok tags

theorem readAndWritten (text : String) (tags : TagSet) : ReadAndWritten text tags := by
  have recovered (nonempty : tags.entries ≠ [])
      (spelled : ∀ pair ∈ tags.entries, isCanonical pair.1 = true ∧ IsChoice pair.2) :
      readTags tags.text = .ok tags := by
    refine TagSet.readTags_text (fun pair member => ?_) nonempty
    exact (spelled pair member).imp_right isQueryValue_iff.mpr
  refine ⟨?_, ?_, fun success => ?_, recovered, ?_⟩
  · constructor
    · rintro ⟨result, success⟩
      obtain ⟨pairs, spelled, distinct, _⟩ := readTags_eq_ok_iff.mp success
      exact ⟨pairs, spelled, distinct⟩
    · rintro ⟨pairs, spelled, distinct⟩
      exact ⟨_, readTags_eq_ok_iff.mpr ⟨pairs, spelled, distinct, rfl⟩⟩
  · rw [readTags_eq_ok_iff]
    refine exists_congr fun pairs => and_congr_right fun _ => and_congr_right fun distinct => ?_
    constructor
    · rintro rfl key value
      exact Table.get?_ofList distinct
    · intro listed
      refine Table.eq_of_get? fun key => Option.ext fun value => ?_
      rw [Table.get?_ofList distinct, listed]
  · have nonempty := entries_ne_nil_of_readTags success
    exact ⟨nonempty, recovered nonempty (spelled_of_readTags success)⟩
  · rintro success parts others rfl nonempty absent same
    exact readTags_perm nonempty absent same success

/-- The blanks and the order of the two pairs do not show in the tags. -/
theorem readAndWritten_of_rack :
    let text := " rack = r1|* ,host=web01"
    let tags : TagSet := Table.ofList [("host", "web01"), ("rack", "r1|*")]
    (∃ pairs, SpellsAll text pairs ∧ (pairs.map Prod.fst).Nodup ∧
      ∀ key value, tags.get? key = some value ↔ (key, value) ∈ pairs) ∧
    readTags "host=web01,rack=r1|*" = .ok tags ∧
      readTags "host=web01, rack = r1|* " = .ok tags := by
  intro text tags
  have together := readAndWritten text tags
  have success : readTags text = .ok tags := by decide +kernel
  have written : tags.text = "host=web01,rack=r1|*" := by decide +kernel
  refine ⟨together.read.mp success, ?_, ?_⟩
  · rw [← written]
    exact (together.rendered success).2
  · exact together.reordered success [" rack = r1|* ", "host=web01"] _ (by decide) (by decide)
      (by decide) (.swap _ _ [])

end Telemetry
