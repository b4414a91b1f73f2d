/-
This file says how text that was put together is cut again.

A text is cut at every separator, so what stands before a separator and what stands behind it are
cut apart from each other. Words are the pieces between blanks that are not empty; blanks at the
ends of a text and runs of blanks inside it therefore do not show, and trimming changes no word. A
piece in which the separator does not occur comes out as it went in.
-/

import Mathlib.Data.List.TakeWhile
import Telemetry.Text.Words

namespace Telemetry

/-! ### Pieces -/

variable {separates : Char → Bool} {separator : Char}

/-- A text without a separator is a single piece. -/
theorem piecesWhere_of_free {text : List Char}
    (free : ∀ character ∈ text, separates character = false) :
    piecesWhere separates text = [text] := by
  induction text with
  | nil => rfl
  | cons character rest inductionHypothesis =>
    have here : separates character = false := free character List.mem_cons_self
    have later := inductionHypothesis fun other member => free other (List.mem_cons_of_mem _ member)
    rw [piecesWhere, here, later]
    rfl

/-- There is no separator in a piece. -/
theorem free_of_mem_piecesWhere {text piece : List Char}
    (member : piece ∈ piecesWhere separates text) :
    ∀ character ∈ piece, separates character = false := by
  induction text generalizing piece with
  | nil =>
    rw [piecesWhere_nil, List.mem_singleton] at member
    rw [member]
    exact nofun
  | cons character rest inductionHypothesis =>
    rw [piecesWhere] at member
    split at member
    · rcases List.mem_cons.mp member with rfl | later
      · exact nofun
      · exact inductionHypothesis later
    · rename_i other
      split at member
      · rename_i none
        exact absurd none (piecesWhere_ne_nil separates rest)
      · rename_i head others cut
        rcases List.mem_cons.mp member with rfl | later
        · refine List.forall_mem_cons.mpr ⟨Bool.eq_false_iff.mpr other, ?_⟩
          exact inductionHypothesis (cut ▸ List.mem_cons_self)
        · exact inductionHypothesis (cut ▸ List.mem_cons_of_mem _ later)

/-- What stands before a separator is cut apart from what stands behind it. -/
theorem piecesWhere_append_cons (here : separates separator = true) (text rest : List Char) :
    piecesWhere separates (text ++ separator :: rest) =
      piecesWhere separates text ++ piecesWhere separates rest := by
  induction text with
  | nil => rw [List.nil_append, piecesWhere_nil, List.singleton_append, piecesWhere, if_pos here]
  | cons character others inductionHypothesis =>
    rw [List.cons_append, piecesWhere, piecesWhere, inductionHypothesis]
    split
    · rfl
    · cases pieces : piecesWhere separates others with
      | nil => exact absurd pieces (piecesWhere_ne_nil separates others)
      | cons piece more => rfl

/-- Every character of a text separates or stands in a piece. -/
theorem separates_or_mem_piecesWhere (separates : Char → Bool) {text : List Char}
    {character : Char} (member : character ∈ text) :
    separates character = true ∨ ∃ piece ∈ piecesWhere separates text, character ∈ piece := by
  induction text with
  | nil => cases member
  | cons head rest inductionHypothesis =>
    rw [piecesWhere]
    split
    · rename_i here
      rcases List.mem_cons.mp member with rfl | later
      · exact .inl here
      · refine (inductionHypothesis later).imp_right ?_
        rintro ⟨piece, inRest, inside⟩
        exact ⟨piece, List.mem_cons_of_mem _ inRest, inside⟩
    · split
      · rename_i none
        exact absurd none (piecesWhere_ne_nil separates rest)
      · rename_i piece others cut
        rcases List.mem_cons.mp member with rfl | later
        · exact .inr ⟨_, List.mem_cons_self, List.mem_cons_self⟩
        · refine (inductionHypothesis later).imp_right ?_
          rintro ⟨found, inRest, inside⟩
          rw [cut] at inRest
          rcases List.mem_cons.mp inRest with rfl | inOthers
          · exact ⟨_, List.mem_cons_self, List.mem_cons_of_mem _ inside⟩
          · exact ⟨found, List.mem_cons_of_mem _ inOthers, inside⟩

/-- Texts without a separator that are put together with one between them are cut apart again. -/
theorem piecesWhere_intercalate (here : separates separator = true) {parts : List (List Char)}
    (nonempty : parts ≠ [])
    (free : ∀ part ∈ parts, ∀ character ∈ part, separates character = false) :
    piecesWhere separates ([separator].intercalate parts) = parts := by
  induction parts with
  | nil => exact absurd rfl nonempty
  | cons part rest inductionHypothesis =>
    have alone := piecesWhere_of_free (free part List.mem_cons_self)
    cases rest with
    | nil => rw [List.intercalate_singleton, alone]
    | cons second others =>
      have later := inductionHypothesis (List.cons_ne_nil second others) fun other member =>
        free other (List.mem_cons_of_mem _ member)
      rw [List.intercalate_cons_cons, List.append_assoc, List.singleton_append,
        piecesWhere_append_cons here, alone, later]
      rfl

/-- A text is its pieces with the separator between them. -/
theorem intercalate_piecesWhere (separator : Char) (text : List Char) :
    [separator].intercalate (piecesWhere (· == separator) text) = text := by
  induction text with
  | nil => rfl
  | cons character rest inductionHypothesis =>
    obtain ⟨piece, others, cut⟩ :=
      List.exists_cons_of_ne_nil (piecesWhere_ne_nil (· == separator) rest)
    rw [cut] at inductionHypothesis
    rw [piecesWhere, cut]
    split
    · rename_i here
      rw [List.intercalate_cons_cons, inductionHypothesis, beq_iff_eq.mp here]
      rfl
    · cases others with
      | nil =>
        rw [List.intercalate_singleton] at inductionHypothesis ⊢
        rw [inductionHypothesis]
      | cons second more =>
        rw [List.intercalate_cons_cons] at inductionHypothesis ⊢
        exact congrArg (character :: ·) inductionHypothesis

/-- A text in which the separator does not occur is a single piece. -/
theorem pieces_of_not_mem {text : String} (absent : separator ∉ text.toList) :
    pieces separator text = [text] := by
  rw [pieces, piecesWhere_of_free, List.map_singleton, String.ofList_toList]
  intro character member
  exact beq_eq_false_iff_ne.mpr fun same => absent (same ▸ member)

/-- Texts in which the separator does not occur, put together with it between them, are cut apart
again. -/
theorem pieces_intercalate {mark : String} (only : mark.toList = [separator])
    {parts : List String} (nonempty : parts ≠ [])
    (absent : ∀ part ∈ parts, separator ∉ part.toList) :
    pieces separator (mark.intercalate parts) = parts := by
  have here : (separator == separator) = true := beq_self_eq_true separator
  rw [pieces, String.toList_intercalate, only,
    @piecesWhere_intercalate (· == separator) separator here _ (by simpa using nonempty)]
  · rw [List.map_map]
    exact (List.map_congr_left fun part _ => String.ofList_toList).trans (List.map_id _)
  · intro characters member character inside
    obtain ⟨part, inParts, rfl⟩ := List.mem_map.mp member
    exact beq_eq_false_iff_ne.mpr fun same => absent part inParts (same ▸ inside)

/-- What stands before a separator is cut apart from what stands behind it. -/
theorem pieces_append (mark : String) (only : mark.toList = [separator]) (text rest : String) :
    pieces separator (text ++ mark ++ rest) = pieces separator text ++ pieces separator rest := by
  have here : (separator == separator) = true := beq_self_eq_true separator
  have cut := @piecesWhere_append_cons (· == separator) separator here text.toList rest.toList
  rw [pieces, String.toList_append, String.toList_append, only, List.append_assoc,
    List.singleton_append, cut, List.map_append]
  rfl

/-- There is no separator in what stands between separators. -/
theorem not_mem_of_mem_pieces {text piece : String} (member : piece ∈ pieces separator text) :
    separator ∉ piece.toList := by
  obtain ⟨characters, found, rfl⟩ := List.mem_map.mp member
  rw [String.toList_ofList]
  exact fun inside => absurd (free_of_mem_piecesWhere found separator inside) (by simp)

/-- The pieces of a text are the texts without the separator that it is put together from. -/
theorem pieces_eq_iff (mark : String) (only : mark.toList = [separator]) {text : String}
    {parts : List String} :
    pieces separator text = parts ↔
      text = mark.intercalate parts ∧ parts ≠ [] ∧ ∀ part ∈ parts, separator ∉ part.toList := by
  constructor
  · rintro rfl
    refine ⟨?_, by simp [pieces, piecesWhere_ne_nil], fun part => not_mem_of_mem_pieces⟩
    rw [← String.toList_inj, String.toList_intercalate, only, pieces, List.map_map]
    simp only [Function.comp_def, String.toList_ofList, List.map_id']
    exact (intercalate_piecesWhere separator text.toList).symm
  · rintro ⟨rfl, nonempty, absent⟩
    exact pieces_intercalate only nonempty absent

/-- The first separator is the one behind a text in which it does not occur. -/
theorem splitAtFirst_append_cons {before : List Char} (absent : separator ∉ before)
    (after : List Char) :
    splitAtFirst separator (before ++ separator :: after) = some (before, after) := by
  induction before with
  | nil => simp [splitAtFirst]
  | cons character rest inductionHypothesis =>
    obtain ⟨here, later⟩ : separator ≠ character ∧ separator ∉ rest := by simpa using absent
    rw [List.cons_append, splitAtFirst, inductionHypothesis later,
      if_neg (by simpa using Ne.symm here)]
    rfl

/-- A text without the separator is not cut. -/
theorem splitAtFirst_eq_none_iff {text : List Char} :
    splitAtFirst separator text = none ↔ separator ∉ text := by
  constructor
  · intro uncut member
    obtain ⟨before, after, rfl, absent⟩ := List.eq_append_cons_of_mem member
    rw [splitAtFirst_append_cons absent] at uncut
    cases uncut
  · intro absent
    induction text with
    | nil => rfl
    | cons character rest inductionHypothesis =>
      obtain ⟨here, later⟩ : separator ≠ character ∧ separator ∉ rest := by simpa using absent
      rw [splitAtFirst, if_neg (by simpa using Ne.symm here), inductionHypothesis later]
      rfl

/-- A text is cut at its first separator. -/
theorem splitAtFirst_eq_some_iff {text before after : List Char} :
    splitAtFirst separator text = some (before, after) ↔
      text = before ++ separator :: after ∧ separator ∉ before := by
  constructor
  · intro cut
    have member : separator ∈ text := by
      refine Decidable.byContradiction fun absent => ?_
      rw [splitAtFirst_eq_none_iff.mpr absent] at cut
      cases cut
    obtain ⟨first, second, rfl, absent⟩ := List.eq_append_cons_of_mem member
    rw [splitAtFirst_append_cons absent] at cut
    obtain ⟨rfl, rfl⟩ := Prod.mk.inj (Option.some.inj cut)
    exact ⟨rfl, absent⟩
  · rintro ⟨rfl, absent⟩
    exact splitAtFirst_append_cons absent after

/-- A text is cut at its first separator, and the two parts and the separator make the text. -/
theorem splitOnce_eq_some_iff (mark : String) (only : mark.toList = [separator])
    {text before after : String} :
    splitOnce separator text = some (before, after) ↔
      text = before ++ mark ++ after ∧ separator ∉ before.toList := by
  have whole : text = before ++ mark ++ after ↔
      text.toList = before.toList ++ separator :: after.toList := by
    rw [← String.toList_inj, String.toList_append, String.toList_append, only, List.append_assoc]
    rfl
  rw [whole, ← splitAtFirst_eq_some_iff, splitOnce, Option.map_eq_some_iff]
  constructor
  · rintro ⟨⟨first, second⟩, cut, same⟩
    obtain ⟨rfl, rfl⟩ := Prod.mk.inj same
    rw [String.toList_ofList, String.toList_ofList, cut]
  · intro cut
    refine ⟨(before.toList, after.toList), cut, ?_⟩
    dsimp only
    rw [String.ofList_toList, String.ofList_toList]

/-! ### Words -/

theorem wordsOf_nil : wordsOf [] = [] := rfl

/-- A text that is not empty and has no blanks is a single word. -/
theorem wordsOf_of_free {text : List Char} (nonempty : text ≠ [])
    (free : ∀ character ∈ text, isBlank character = false) : wordsOf text = [text] := by
  rw [wordsOf, piecesWhere_of_free free, List.filter_cons_of_pos (by simpa using nonempty)]
  rfl

theorem wordsOf_append_cons (here : isBlank separator = true) (text rest : List Char) :
    wordsOf (text ++ separator :: rest) = wordsOf text ++ wordsOf rest := by
  rw [wordsOf, piecesWhere_append_cons here, List.filter_append]
  rfl

variable {blanks : List Char} (blank : ∀ character ∈ blanks, isBlank character = true)

include blank

/-- Blanks before a text change no word. -/
theorem wordsOf_blanks_append (text : List Char) : wordsOf (blanks ++ text) = wordsOf text := by
  induction blanks with
  | nil => rfl
  | cons character rest inductionHypothesis =>
    have here : isBlank character = true := blank character List.mem_cons_self
    have cut := wordsOf_append_cons here [] (rest ++ text)
    rw [wordsOf_nil, List.nil_append, List.nil_append] at cut
    rw [List.cons_append, cut]
    exact inductionHypothesis fun other member => blank other (List.mem_cons_of_mem _ member)

/-- Blanks between two texts cut them apart. -/
theorem wordsOf_append_blanks_append (nonempty : blanks ≠ []) (left right : List Char) :
    wordsOf (left ++ (blanks ++ right)) = wordsOf left ++ wordsOf right := by
  obtain ⟨character, rest, rfl⟩ := List.exists_cons_of_ne_nil nonempty
  have here : isBlank character = true := blank character List.mem_cons_self
  rw [List.cons_append, wordsOf_append_cons here, wordsOf_blanks_append]
  exact fun other member => blank other (List.mem_cons_of_mem _ member)

/-- Blanks behind a text change no word. -/
theorem wordsOf_append_blanks (text : List Char) : wordsOf (text ++ blanks) = wordsOf text := by
  by_cases empty : blanks = []
  · rw [empty, List.append_nil]
  · have cut := wordsOf_append_blanks_append blank empty text []
    rwa [List.append_nil, wordsOf_nil, List.append_nil] at cut

omit blank

/-! ### Trimming -/

/-- Only blanks are dropped at the end of a text. -/
theorem exists_dropBlanksAtEnd (text : List Char) :
    ∃ blanks, (∀ character ∈ blanks, isBlank character = true) ∧
      text = dropBlanksAtEnd text ++ blanks := by
  induction text with
  | nil => exact ⟨[], nofun, rfl⟩
  | cons character rest inductionHypothesis =>
    obtain ⟨blanks, blank, cut⟩ := inductionHypothesis
    rw [dropBlanksAtEnd]
    split
    · rename_i nothing
      rw [nothing, List.nil_append] at cut
      cases here : isBlank character with
      | true =>
        refine ⟨character :: blanks, ?_, by rw [← cut]; rfl⟩
        intro other member
        rcases List.mem_cons.mp member with rfl | later
        · exact here
        · exact blank other later
      | false => exact ⟨blanks, blank, by rw [← cut]; rfl⟩
    · exact ⟨blanks, blank, congrArg (character :: ·) cut⟩

/-- Trimming changes no word. -/
theorem wordsOf_trimmed (text : List Char) : wordsOf (trimmed text) = wordsOf text := by
  obtain ⟨blanks, blank, cut⟩ := exists_dropBlanksAtEnd (text.dropWhile isBlank)
  have start : ∀ character ∈ text.takeWhile isBlank, isBlank character = true :=
    fun character member => List.mem_takeWhile_imp member
  calc wordsOf (trimmed text)
      = wordsOf (trimmed text ++ blanks) := (wordsOf_append_blanks blank _).symm
    _ = wordsOf (text.dropWhile isBlank) := congrArg wordsOf cut.symm
    _ = wordsOf (text.takeWhile isBlank ++ text.dropWhile isBlank) :=
        (wordsOf_blanks_append start _).symm
    _ = wordsOf text := by rw [List.takeWhile_append_dropWhile]

theorem words_trim (text : String) : words (trim text) = words text := by
  rw [words, trim, String.toList_ofList, wordsOf_trimmed, words]

/-- A text without blanks is not trimmed. -/
theorem trim_of_free {text : String}
    (free : ∀ character ∈ text.toList, isBlank character = false) : trim text = text := by
  have start : text.toList.dropWhile isBlank = text.toList := by
    cases characters : text.toList with
    | nil => rfl
    | cons character rest =>
      rw [List.dropWhile_cons_of_neg]
      rw [free character (characters ▸ List.mem_cons_self)]
      exact Bool.false_ne_true
  obtain ⟨blanks, blank, cut⟩ := exists_dropBlanksAtEnd text.toList
  have none : blanks = [] := by
    refine List.eq_nil_iff_forall_not_mem.mpr fun character member => ?_
    have inside : character ∈ text.toList := by
      rw [cut]
      exact List.mem_append_right _ member
    exact Bool.false_ne_true ((free character inside).symm.trans (blank character member))
  rw [none, List.append_nil] at cut
  rw [trim, trimmed, start, ← cut, String.ofList_toList]

theorem dropBlanksAtEnd_of_blank {blanks : List Char}
    (blank : ∀ character ∈ blanks, isBlank character = true) : dropBlanksAtEnd blanks = [] := by
  induction blanks with
  | nil => rfl
  | cons character rest inductionHypothesis =>
    have later := inductionHypothesis fun other member =>
      blank other (List.mem_cons_of_mem _ member)
    rw [dropBlanksAtEnd, later]
    exact if_pos (blank character List.mem_cons_self)

/-- Blanks behind a text that does not end with a blank are dropped, and nothing else. -/
theorem dropBlanksAtEnd_append {text blanks : List Char}
    (solid : ∀ character ∈ text.getLast?, isBlank character = false)
    (blank : ∀ character ∈ blanks, isBlank character = true) :
    dropBlanksAtEnd (text ++ blanks) = text := by
  induction text with
  | nil => exact dropBlanksAtEnd_of_blank blank
  | cons character rest inductionHypothesis =>
    cases rest with
    | nil =>
      have here : isBlank character = false := solid character rfl
      rw [List.singleton_append, dropBlanksAtEnd, dropBlanksAtEnd_of_blank blank]
      exact if_neg (Bool.eq_false_iff.mp here)
    | cons second more =>
      rw [List.getLast?_cons_cons] at solid
      rw [List.cons_append, dropBlanksAtEnd, inductionHypothesis solid]

/-- Blanks behind a text that has none at its two ends are all that is trimmed. -/
theorem trimmed_append {text blanks : List Char}
    (start : ∀ character ∈ text.head?, isBlank character = false)
    (solid : ∀ character ∈ text.getLast?, isBlank character = false)
    (blank : ∀ character ∈ blanks, isBlank character = true) : trimmed (text ++ blanks) = text := by
  cases text with
  | nil =>
    have nothing : blanks.dropWhile isBlank = [] := List.dropWhile_eq_nil_iff.mpr blank
    rw [List.nil_append, trimmed, nothing]
    rfl
  | cons character rest =>
    have here : isBlank character = false := start character rfl
    rw [trimmed, List.cons_append, List.dropWhile_cons_of_neg (Bool.eq_false_iff.mp here),
      ← List.cons_append]
    exact dropBlanksAtEnd_append solid blank

end Telemetry
