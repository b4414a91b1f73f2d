/-
This file says how a tag on a line is read.

The marks that cut tags from each other, keys from values and alternatives from each other are not
accepted in canonical texts, and neither are blanks. So the text of a tag with a canonical key and a
canonical value is cut at its equals sign alone, and reading gives the key and the value back. The
tag that leaves out the host has an empty value, which no other tag has.
-/

import Telemetry.Line.Layout
import Telemetry.Proofs.Cleaning
import Telemetry.Proofs.Resolved
import Telemetry.Proofs.Splitting
import Telemetry.Proofs.Tables

namespace Telemetry

/-! ### Characters that canonical texts do not have -/

/-- No blank is accepted. -/
theorem isAccepted_of_isBlank {character : Char} (blank : isBlank character = true) :
    isAccepted character = false := by
  have table : ∀ span ∈ blankSpans, ∀ code ∈ List.range' span.first (span.last + 1 - span.first),
      isAccepted (Char.ofNat code) = false := by
    decide +kernel
  obtain ⟨span, member, contained⟩ := Span.exists_contains_of_listed blank
  simp only [Span.contains, Bool.and_eq_true, decide_eq_true_eq] at contained
  have inside : character.toNat ∈ List.range' span.first (span.last + 1 - span.first) := by
    rw [List.mem_range'_1]
    omega
  have refused := table span member character.toNat inside
  rwa [Char.ofNat_toNat] at refused

/-- A canonical text has none of the characters that are not accepted. -/
theorem not_mem_of_isCanonical {text : String} (canonical : isCanonical text = true)
    {character : Char} (other : isAccepted character = false) : character ∉ text.toList := by
  intro member
  have accepted := (isCanonical_iff.mp canonical).2 character member
  exact Bool.false_ne_true (other.symm.trans accepted)

/-- A canonical text has no blanks. -/
theorem solid_of_isCanonical {text : String} (canonical : isCanonical text = true) :
    ∀ character ∈ text.toList, isBlank character = false := by
  intro character member
  refine Bool.eq_false_iff.mpr fun blank => ?_
  exact not_mem_of_isCanonical canonical (isAccepted_of_isBlank blank) member

theorem comma_not_accepted : isAccepted ',' = false := by decide +kernel

theorem equals_not_accepted : isAccepted '=' = false := by decide +kernel

theorem bar_not_accepted : isAccepted '|' = false := by decide +kernel

/-! ### One pair -/

variable {key value : String}

theorem toList_pairText (key value : String) :
    (TagSet.pairText (key, value)).toList = key.toList ++ '=' :: value.toList := by
  rw [TagSet.pairText, String.toList_append, String.toList_append, List.append_assoc]
  rfl

/-- A pair is cut at its equals sign. -/
theorem splitOnce_pairText (canonicalKey : isCanonical key = true) (value : String) :
    splitOnce '=' (TagSet.pairText (key, value)) = some (key, value) :=
  (splitOnce_eq_some_iff "=" rfl).mpr
    ⟨rfl, not_mem_of_isCanonical canonicalKey equals_not_accepted⟩

/-- A canonical value has one alternative, itself. -/
theorem isQueryValue_of_isCanonical (canonical : isCanonical value = true) :
    isQueryValue value = true := by
  rw [isQueryValue, pieces_of_not_mem (not_mem_of_isCanonical canonical bar_not_accepted)]
  simp [isAlternative, canonical]

/-- A value of a query is made of accepted characters, stars and bars. -/
theorem mem_of_isQueryValue (query : isQueryValue value = true) {character : Char}
    (member : character ∈ value.toList) :
    isAccepted character = true ∨ character = '*' ∨ character = '|' := by
  rcases separates_or_mem_piecesWhere (· == '|') member with bar | ⟨piece, inPieces, inside⟩
  · exact .inr (.inr (beq_iff_eq.mp bar))
  · have alternative : isAlternative (String.ofList piece) = true :=
      List.all_eq_true.mp query _ (List.mem_map.mpr ⟨piece, inPieces, rfl⟩)
    rcases Bool.or_eq_true_iff.mp alternative with star | canonical
    · have only : piece = ['*'] := String.ofList_inj.mp (of_decide_eq_true star)
      rw [only] at inside
      exact .inr (.inl (List.mem_singleton.mp inside))
    · refine .inl ((isCanonical_iff.mp canonical).2 character ?_)
      rwa [String.toList_ofList]

/-- A value of a query has no blanks. -/
theorem solid_of_isQueryValue (query : isQueryValue value = true) :
    ∀ character ∈ value.toList, isBlank character = false := by
  intro character member
  rcases mem_of_isQueryValue query member with accepted | rfl | rfl
  · refine Bool.eq_false_iff.mpr fun blank => ?_
    exact Bool.false_ne_true ((isAccepted_of_isBlank blank).symm.trans accepted)
  · decide
  · decide

/-- A pair with a canonical key and a value of a query is read back. -/
theorem readPair_of_isQueryValue (canonicalKey : isCanonical key = true)
    (query : isQueryValue value = true) :
    readPair (TagSet.pairText (key, value)) = .ok (key, value) := by
  rw [readPair, splitOnce_pairText canonicalKey]
  dsimp only
  rw [trim_of_free (solid_of_isCanonical canonicalKey), trim_of_free (solid_of_isQueryValue query),
    canonicalKey, query]
  rfl

/-- There is no comma in such a pair. -/
theorem comma_not_mem_pairText (canonicalKey : isCanonical key = true)
    (query : isQueryValue value = true) : ',' ∉ (TagSet.pairText (key, value)).toList := by
  rw [toList_pairText, List.mem_append, List.mem_cons]
  rintro (inKey | sign | inValue)
  · exact not_mem_of_isCanonical canonicalKey comma_not_accepted inKey
  · exact absurd sign (by decide)
  · rcases mem_of_isQueryValue query inValue with accepted | star | bar
    · exact Bool.false_ne_true (comma_not_accepted.symm.trans accepted)
    · exact absurd star (by decide)
    · exact absurd bar (by decide)

section

variable (canonicalKey : isCanonical key = true) (canonicalValue : isCanonical value = true)

include canonicalKey canonicalValue

theorem readPair_pairText : readPair (TagSet.pairText (key, value)) = .ok (key, value) :=
  readPair_of_isQueryValue canonicalKey (isQueryValue_of_isCanonical canonicalValue)

/-- There is no comma in a pair of canonical texts. -/
theorem pieces_pairText :
    pieces ',' (TagSet.pairText (key, value)) = [TagSet.pairText (key, value)] :=
  pieces_of_not_mem
    (comma_not_mem_pairText canonicalKey (isQueryValue_of_isCanonical canonicalValue))

theorem readTags_pairText :
    readTags (TagSet.pairText (key, value)) = .ok (Table.empty.insert key value) := by
  rw [readTags, pieces_pairText canonicalKey canonicalValue, readPairs,
    readPair_pairText canonicalKey canonicalValue]
  rfl

theorem readToken_pairText :
    Line.readToken (TagSet.pairText (key, value)) = .ok (Table.empty.insert key value) := by
  have entries : (Table.empty.insert key value).entries = [(key, value)] := rfl
  rw [Line.readToken, readTags_pairText canonicalKey canonicalValue]
  dsimp only
  rw [entries, List.find?_cons_of_neg (by simp [canonicalValue]), List.find?_nil]

/-- A pair of canonical texts does not leave out the host. -/
theorem pairText_ne_hostless : TagSet.pairText (key, value) ≠ hostTag ++ "=" := by
  intro same
  have split := splitOnce_pairText canonicalKey value
  rw [same, show splitOnce '=' (hostTag ++ "=") = some (hostTag, "") by decide] at split
  have empty : "" = value := congrArg Prod.snd (Option.some.inj split)
  rw [← empty] at canonicalValue
  cases canonicalValue

end

/-! ### Tokens -/

/-- A tag is read as the pair that it gives. -/
theorem tagsOfToken_text (token : TagToken) :
    Line.tagsOfToken token.text = .ok (Table.empty.insert token.pair.1 token.pair.2) := by
  cases token with
  | hostless => rfl
  | tag key value canonicalKey canonicalValue =>
    show Line.tagsOfToken (TagSet.pairText (key, value)) = _
    rw [Line.tagsOfToken, if_neg (pairText_ne_hostless canonicalKey canonicalValue),
      readToken_pairText canonicalKey canonicalValue]
    rfl

/-- Adding a single tag is inserting it. -/
theorem merge_insert_empty (tags : TagSet) (key value : String) :
    tags.merge (Table.empty.insert key value) = tags.insert key value := rfl

/-- Tags are read from left to right, and none of them is reported. -/
theorem readTokens_text (tags : TagSet) (tokens : List TagToken) :
    Line.readTokens tags (tokens.map TagToken.text) =
      ((tokens.map TagToken.pair).foldl (fun tags pair => tags.insert pair.1 pair.2) tags,
        none) := by
  induction tokens generalizing tags with
  | nil => rfl
  | cons token rest inductionHypothesis =>
    rw [List.map_cons, Line.readTokens, tagsOfToken_text]
    dsimp only
    rw [merge_insert_empty, inductionHypothesis, List.map_cons, List.foldl_cons]

/-- The text of a pair whose parts have no blanks is a single field. -/
theorem solid_pairText (solidKey : ∀ character ∈ key.toList, isBlank character = false)
    (solidValue : ∀ character ∈ value.toList, isBlank character = false) :
    (TagSet.pairText (key, value)).toList ≠ [] ∧
      ∀ character ∈ (TagSet.pairText (key, value)).toList, isBlank character = false := by
  rw [toList_pairText]
  refine ⟨List.append_ne_nil_of_right_ne_nil _ (List.cons_ne_nil _ _), ?_⟩
  intro character member
  rcases List.mem_append.mp member with inKey | later
  · exact solidKey character inKey
  · rcases List.mem_cons.mp later with rfl | inValue
    · decide
    · exact solidValue character inValue

/-- The text of a tag is a single field. -/
theorem solid_text (token : TagToken) :
    token.text.toList ≠ [] ∧ ∀ character ∈ token.text.toList, isBlank character = false := by
  cases token with
  | hostless =>
    have canonical : isCanonical hostTag = true := by decide +kernel
    exact solid_pairText (solid_of_isCanonical canonical) nofun
  | tag key value canonicalKey canonicalValue =>
    exact solid_pairText (solid_of_isCanonical canonicalKey) (solid_of_isCanonical canonicalValue)

/-- The order of tags with different keys does not matter. -/
theorem tagsOf_perm {tokens others : List TagToken} (same : tokens.Perm others)
    (distinct : (tokens.map fun token => token.pair.1).Nodup) :
    TagToken.tagsOf tokens = TagToken.tagsOf others := by
  have keys : ((tokens.map TagToken.pair).map Prod.fst).Nodup := by
    rwa [List.map_map]
  exact Table.ofList_perm (same.map TagToken.pair) keys

end Telemetry
