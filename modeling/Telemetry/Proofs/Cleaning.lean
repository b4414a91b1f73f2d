/-
This file says what cleaning makes of a text.

Cleaning keeps the accepted characters in their order and drops the others. It refuses a text in
which no character is accepted. What it gives is canonical, and a canonical text is left as it is,
so cleaning what is clean changes nothing.
-/

import Telemetry.Tags.Charset
import Telemetry.Text.Integer

namespace Telemetry

/-- With nothing written for a run, only the accepted characters are left. -/
theorem replaceRuns_empty (text : List Char) (inRun : Bool) :
    replaceRuns [] inRun text = text.filter isAccepted := by
  induction text generalizing inRun with
  | nil => rfl
  | cons character rest inductionHypothesis =>
    cases accepted : isAccepted character with
    | true =>
      rw [replaceRuns_cons_accepted accepted, List.filter_cons_of_pos accepted,
        inductionHypothesis]
    | false =>
      rw [List.filter_cons_of_neg (by simp [accepted])]
      cases inRun with
      | true => rw [replaceRuns_cons_inRun accepted, inductionHypothesis]
      | false =>
        rw [replaceRuns_cons_other accepted, List.nil_append, inductionHypothesis]

/-- A cleaned text is made of the accepted characters of the text, of which there is one. -/
theorem clean_eq_ok_iff {text cleaned : String} :
    clean text = .ok cleaned ↔
      text.toList.filter isAccepted ≠ [] ∧
        cleaned = String.ofList (text.toList.filter isAccepted) := by
  unfold clean replace
  rw [show ("" : String).toList = [] from rfl, replaceRuns_empty]
  split
  · rename_i nothing
    simp [nothing]
  · rename_i something
    have nonempty : text.toList.filter isAccepted ≠ [] := fun nothing => something nothing
    simp only [Except.ok.injEq]
    exact ⟨fun same => ⟨nonempty, same.symm⟩, fun found => found.2.symm⟩

/-- A canonical text is not empty and made of accepted characters. -/
theorem isCanonical_iff {text : String} :
    isCanonical text = true ↔
      text.toList ≠ [] ∧ ∀ character ∈ text.toList, isAccepted character = true := by
  simp [isCanonical]

/-- What cleaning gives is canonical. -/
theorem isCanonical_of_clean {text cleaned : String} (result : clean text = .ok cleaned) :
    isCanonical cleaned = true := by
  obtain ⟨nonempty, rfl⟩ := clean_eq_ok_iff.mp result
  rw [isCanonical_iff, String.toList_ofList]
  exact ⟨nonempty, fun character member => (List.mem_filter.mp member).2⟩

/-- Cleaning leaves a canonical text as it is. -/
theorem clean_of_isCanonical {text : String} (canonical : isCanonical text = true) :
    clean text = .ok text := by
  obtain ⟨nonempty, accepted⟩ := isCanonical_iff.mp canonical
  have kept : text.toList.filter isAccepted = text.toList := List.filter_eq_self.mpr accepted
  rw [clean_eq_ok_iff, kept, String.ofList_toList]
  exact ⟨nonempty, rfl⟩

/-! ### The accepted characters of a text -/

/-- The accepted characters of a text, in their order. -/
def kept (text : String) : String := String.ofList (text.toList.filter isAccepted)

/-- Whether a character of a text is an accepted one. -/
def hasAccepted (text : String) : Bool := text.toList.any isAccepted

theorem hasAccepted_iff {text : String} :
    hasAccepted text = true ↔ text.toList.filter isAccepted ≠ [] := by
  simp [hasAccepted, List.filter_eq_nil_iff]

/-- A text with an accepted character is cleaned to its accepted characters. -/
theorem clean_of_hasAccepted {text : String} (accepted : hasAccepted text = true) :
    clean text = .ok (kept text) :=
  clean_eq_ok_iff.mpr ⟨hasAccepted_iff.mp accepted, rfl⟩

/-- A text without an accepted character cannot be cleaned. -/
theorem clean_of_not_hasAccepted {text : String} (none : hasAccepted text = false) :
    clean text = .error .empty := by
  have nothing : text.toList.filter isAccepted = [] :=
    Decidable.byContradiction fun something =>
      Bool.false_ne_true (none.symm.trans (hasAccepted_iff.mpr something))
  unfold clean replace
  rw [show ("" : String).toList = [] from rfl, replaceRuns_empty, nothing]

/-! ### Numbers -/

theorem isAccepted_of_isDigit {character : Char} (digit : character.isDigit = true) :
    isAccepted character = true := by
  obtain ⟨first, last⟩ := Char.isDigit_iff_toNat.mp digit
  have zero : 48 ≤ character.toNat := first
  have nine : character.toNat ≤ 57 := last
  have listed : isDecimalDigit character = true := by
    rw [isDecimalDigit, decimalDigitSpans, Span.listed, if_neg (by simpa using zero)]
    simp [Span.contains, zero, nine, Nat.mod_one]
  rw [isAccepted, listed]
  simp

/-- The decimal digits of a number need no cleaning. -/
theorem isCanonical_decimal (number : Nat) : isCanonical (decimal number) = true := by
  refine isCanonical_iff.mpr ?_
  rw [decimal, String.toList_ofList]
  refine ⟨Nat.toDigits_ne_nil, fun character member => ?_⟩
  exact isAccepted_of_isDigit (Nat.isDigit_of_mem_toDigits (by decide) (by decide) member)

end Telemetry
