/-
This file says what replacing does to a text, run by run.

A text falls into runs: of accepted characters, and of others. A run is as long as it can be, so
runs of the two kinds take turns. Replacing keeps those of the first kind and puts one copy of the
replacement where one of the second kind stood. Since two copies never touch, what was replaced is
cut into the same runs again, unless the replacement itself is of both kinds; so replacing once more
changes nothing. Cleaning is replacing with nothing, and it gives canonical texts and no others.
-/

import Mathlib.Data.List.Chain
import Telemetry.Proofs.CharacterClasses

namespace Telemetry

/-- Some characters in a row that are all accepted, or all not. -/
structure CharacterRun where
  accepted : Bool
  characters : List Char
  nonempty : characters ≠ []
  uniform : ∀ character ∈ characters, isAccepted character = accepted

/-- What replacing leaves of a run. -/
def CharacterRun.replaced (replacement : List Char) (run : CharacterRun) : List Char :=
  if run.accepted then run.characters else replacement

/-- A text is cut into runs that are as long as they can be. -/
structure FallsInto (text : List Char) (runs : List CharacterRun) : Prop where
  joined : runs.flatMap CharacterRun.characters = text
  maximal : runs.IsChain fun run next => run.accepted ≠ next.accepted

variable {text replacement : List Char} {runs : List CharacterRun}

/-- Every text falls into runs. -/
theorem exists_fallsInto (text : List Char) : ∃ runs, FallsInto text runs := by
  induction text with
  | nil => exact ⟨[], rfl, .nil⟩
  | cons character rest inductionHypothesis =>
    obtain ⟨runs, rfl, maximal⟩ := inductionHypothesis
    let alone : CharacterRun := ⟨isAccepted character, [character], by simp, by simp⟩
    cases runs with
    | nil => exact ⟨[alone], rfl, .singleton _⟩
    | cons run others =>
      by_cases same : isAccepted character = run.accepted
      · -- The character makes the first run longer.
        let longer : CharacterRun := ⟨run.accepted, character :: run.characters, by simp,
          List.forall_mem_cons.mpr ⟨same, run.uniform⟩⟩
        refine ⟨longer :: others, rfl, ?_⟩
        rw [List.isChain_cons] at maximal ⊢
        exact maximal
      · refine ⟨alone :: run :: others, rfl, ?_⟩
        exact List.isChain_cons_cons.mpr ⟨same, maximal⟩

/-! ### Replacing run by run -/

/-- Accepted characters are kept, and behind them no run of others is open. -/
theorem replaceRuns_accepted_append {run : List Char} (nonempty : run ≠ [])
    (accepted : ∀ character ∈ run, isAccepted character = true) (inRun : Bool)
    (rest : List Char) :
    replaceRuns replacement inRun (run ++ rest) = run ++ replaceRuns replacement false rest := by
  induction run generalizing inRun with
  | nil => exact absurd rfl nonempty
  | cons character others inductionHypothesis =>
    obtain ⟨here, later⟩ := List.forall_mem_cons.mp accepted
    rw [List.cons_append, replaceRuns_cons_accepted here, List.cons_append]
    by_cases last : others = []
    · rw [last, List.nil_append, List.nil_append]
    · rw [inductionHypothesis last later]

/-- Inside a run other characters are dropped. -/
theorem replaceRuns_others_append {others : List Char}
    (refused : ∀ character ∈ others, isAccepted character = false) (rest : List Char) :
    replaceRuns replacement true (others ++ rest) = replaceRuns replacement true rest := by
  induction others with
  | nil => rfl
  | cons character more inductionHypothesis =>
    obtain ⟨here, later⟩ := List.forall_mem_cons.mp refused
    rw [List.cons_append, replaceRuns_cons_inRun here, inductionHypothesis later]

/-- Where a run of others begins, the replacement is written once. -/
theorem replaceRuns_run_append {others : List Char} (nonempty : others ≠ [])
    (refused : ∀ character ∈ others, isAccepted character = false) (rest : List Char) :
    replaceRuns replacement false (others ++ rest) =
      replacement ++ replaceRuns replacement true rest := by
  obtain ⟨character, more, rfl⟩ := List.exists_cons_of_ne_nil nonempty
  obtain ⟨here, later⟩ := List.forall_mem_cons.mp refused
  rw [List.cons_append, replaceRuns_cons_other here, replaceRuns_others_append later]

/-- A run that is open makes no difference to a text that begins with an accepted character. -/
theorem replaceRuns_inRun_of_head (ends : ∀ character ∈ text.head?, isAccepted character = true) :
    replaceRuns replacement true text = replaceRuns replacement false text := by
  cases text with
  | nil => rfl
  | cons character rest =>
    have here : isAccepted character = true := ends character rfl
    rw [replaceRuns_cons_accepted here, replaceRuns_cons_accepted here]

/-- Behind a run of others stands an accepted character, or nothing. -/
theorem accepted_of_head? {run : CharacterRun} {others : List CharacterRun} {character : Char}
    (maximal : (run :: others).IsChain fun run next => run.accepted ≠ next.accepted)
    (kind : run.accepted = false)
    (first : character ∈ (others.flatMap CharacterRun.characters).head?) :
    isAccepted character = true := by
  cases others with
  | nil => cases first
  | cons next rest =>
    have different : run.accepted ≠ next.accepted := (List.isChain_cons_cons.mp maximal).1
    obtain ⟨head, more, cut⟩ := List.exists_cons_of_ne_nil next.nonempty
    rw [List.flatMap_cons, cut] at first
    have same : head = character := Option.some.inj first
    have inside : character ∈ next.characters := by
      rw [cut, same]
      exact List.mem_cons_self
    rw [next.uniform character inside]
    rw [kind] at different
    exact eq_true_of_ne_false different.symm

/-- Replacing a text is replacing its runs. -/
theorem FallsInto.replaceRuns_eq (falls : FallsInto text runs) (replacement : List Char) :
    replaceRuns replacement false text = runs.flatMap (CharacterRun.replaced replacement) := by
  obtain ⟨rfl, maximal⟩ := falls
  induction runs with
  | nil => rfl
  | cons run others inductionHypothesis =>
    rw [List.flatMap_cons, List.flatMap_cons, CharacterRun.replaced,
      ← inductionHypothesis (List.isChain_cons.mp maximal).2]
    cases kind : run.accepted with
    | true =>
      rw [if_pos rfl]
      exact replaceRuns_accepted_append run.nonempty (kind ▸ run.uniform) false _
    | false =>
      rw [if_neg Bool.false_ne_true, replaceRuns_run_append run.nonempty (kind ▸ run.uniform),
        replaceRuns_inRun_of_head fun _ => accepted_of_head? maximal kind]

/-! ### Replacing twice -/

/-- A text of accepted characters has nothing to replace. -/
theorem replaceRuns_of_accepted
    (accepted : ∀ character ∈ text, isAccepted character = true) (inRun : Bool) :
    replaceRuns replacement inRun text = text := by
  induction text generalizing inRun with
  | nil => rfl
  | cons character rest inductionHypothesis =>
    obtain ⟨here, later⟩ := List.forall_mem_cons.mp accepted
    rw [replaceRuns_cons_accepted here, inductionHypothesis later]

/-- With an accepted replacement only accepted characters are left. -/
theorem accepted_of_mem_replaceRuns
    (accepted : ∀ character ∈ replacement, isAccepted character = true) {inRun : Bool}
    {character : Char} (member : character ∈ replaceRuns replacement inRun text) :
    isAccepted character = true := by
  induction text generalizing inRun with
  | nil => cases member
  | cons head rest inductionHypothesis =>
    cases here : isAccepted head with
    | true =>
      rw [replaceRuns_cons_accepted here] at member
      rcases List.mem_cons.mp member with rfl | later
      · exact here
      · exact inductionHypothesis later
    | false =>
      cases inRun with
      | true =>
        rw [replaceRuns_cons_inRun here] at member
        exact inductionHypothesis member
      | false =>
        rw [replaceRuns_cons_other here] at member
        rcases List.mem_append.mp member with new | later
        · exact accepted character new
        · exact inductionHypothesis later

/-- A replacement without accepted characters stands for itself. -/
theorem replaceRuns_replaceRuns (nonempty : replacement ≠ [])
    (refused : ∀ character ∈ replacement, isAccepted character = false) (text : List Char)
    (inRun : Bool) :
    replaceRuns replacement inRun (replaceRuns replacement inRun text) =
      replaceRuns replacement inRun text := by
  induction text generalizing inRun with
  | nil => rfl
  | cons character rest inductionHypothesis =>
    cases here : isAccepted character with
    | true => rw [replaceRuns_cons_accepted here, replaceRuns_cons_accepted here,
        inductionHypothesis]
    | false =>
      cases inRun with
      | true => rw [replaceRuns_cons_inRun here, inductionHypothesis]
      | false =>
        rw [replaceRuns_cons_other here, replaceRuns_run_append nonempty refused,
          inductionHypothesis]

/-- A replacement is of one kind: its characters are all accepted, or none of them is. -/
def IsPlain (replacement : List Char) : Prop :=
  (∀ character ∈ replacement, isAccepted character = true) ∨
    ∀ character ∈ replacement, isAccepted character = false

/-- With a replacement of one kind, replacing again changes nothing. -/
theorem IsPlain.replaceRuns_replaceRuns (plain : IsPlain replacement) (text : List Char) :
    replaceRuns replacement false (replaceRuns replacement false text) =
      replaceRuns replacement false text := by
  rcases plain with accepted | refused
  · exact replaceRuns_of_accepted (fun _ => accepted_of_mem_replaceRuns accepted) false
  · by_cases empty : replacement = []
    · rw [empty, replaceRuns_empty, replaceRuns_empty, List.filter_filter]
      simp only [Bool.and_self]
    · exact Telemetry.replaceRuns_replaceRuns empty refused text false

/-! ### Laws of replacing and cleaning -/

theorem replace_eq (text replacement : String) :
    replace text replacement =
      if replaceRuns replacement.toList false text.toList = [] then .error .empty
      else .ok (String.ofList (replaceRuns replacement.toList false text.toList)) := by
  unfold replace
  split
  · rename_i nothing
    rw [if_pos nothing]
  · rename_i something
    rw [if_neg something]

/-- What replacing and cleaning do to a text. -/
structure Replacement (text replacement : String) : Prop where
  /-- The text falls into runs. -/
  falls : ∃ runs, FallsInto text.toList runs
  /-- However it does, one copy of the replacement stands for each run of characters that are not
  accepted. A text of which nothing is left is refused. -/
  replaced : ∀ runs, FallsInto text.toList runs →
    replace text replacement =
      if runs.flatMap (CharacterRun.replaced replacement.toList) = [] then .error .empty
      else .ok (String.ofList (runs.flatMap (CharacterRun.replaced replacement.toList)))
  /-- With a replacement of one kind, replacing again changes nothing. -/
  settled : IsPlain replacement.toList →
    ∀ result, replace text replacement = .ok result → replace result replacement = .ok result
  /-- Cleaning leaves the canonical texts as they are, and no others. -/
  canonical : isCanonical text = true ↔ clean text = .ok text
  /-- A text can be cleaned when one of its characters is accepted. -/
  cleans : (∃ cleaned, clean text = .ok cleaned) ↔
    ∃ character ∈ text.toList, isAccepted character = true
  /-- Then its accepted characters are left, in their order. They are a canonical text, and
  cleaning that again changes nothing. -/
  cleaned : ∀ cleaned, clean text = .ok cleaned →
    cleaned.toList = text.toList.filter isAccepted ∧ isCanonical cleaned = true ∧
      clean cleaned = .ok cleaned
  /-- The pattern for canonical texts and the one for the runs to be replaced describe these
  characters and these texts. -/
  patterns : ∃ whole other, Pattern.ofText? Pattern.canonicalText = some whole ∧
    Pattern.ofText? Pattern.otherText = some other ∧ whole.occursIn text = isCanonical text ∧
      other.occursIn text = text.toList.any fun character => !isAccepted character

theorem replacement_of_runs (text replacement : String) : Replacement text replacement where
  falls := exists_fallsInto text.toList
  replaced runs falls := by rw [replace_eq, falls.replaceRuns_eq]
  settled plain result success := by
    rw [replace_eq] at success
    split at success
    · cases success
    · rename_i something
      rw [← Except.ok.inj success, replace_eq, String.toList_ofList, plain.replaceRuns_replaceRuns,
        if_neg something]
  canonical := ⟨clean_of_isCanonical, isCanonical_of_clean⟩
  cleans := by
    rw [← List.any_eq_true]
    constructor
    · rintro ⟨cleaned, success⟩
      exact hasAccepted_iff.mpr (clean_eq_ok_iff.mp success).1
    · exact fun accepted => ⟨_, clean_of_hasAccepted accepted⟩
  cleaned cleaned success := by
    have canonical := isCanonical_of_clean success
    refine ⟨?_, canonical, clean_of_isCanonical canonical⟩
    rw [(clean_eq_ok_iff.mp success).2, String.toList_ofList]
  patterns := ⟨_, _, Pattern.ofText?_canonicalText, Pattern.ofText?_otherText,
    Pattern.occursIn_canonicalText text, Pattern.occursIn_otherText text⟩

/-- A replacement of both kinds grows when it is replaced itself. -/
example :
    (replace "a b" "-!").toOption = some "a-!b" ∧
      (replace "a-!b" "-!").toOption = some "a--!b" := by
  decide +kernel

end Telemetry
