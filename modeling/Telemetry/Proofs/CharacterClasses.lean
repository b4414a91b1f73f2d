/-
This file ties the accepted characters to the two patterns that describe them.

One pattern matches the texts that are canonical, the other one finds characters that are not
accepted; both name the letters and the decimal digits by their categories. The table of letters is
one table, while a pattern asks for five categories, so it is shown first that they hold the same
code points. A table is read as a number for that, with one bit for each code point: two tables hold
the same when the two numbers are equal, which is found out by a single computation.
-/

import Mathlib.Data.List.Chain
import Telemetry.Pattern.Reader
import Telemetry.Proofs.Cleaning

namespace Telemetry

/-! ### Tables as numbers -/

namespace Span

/-- A number with one bit for each of some code points. -/
def bitsOfCodes (codes : List Nat) : Nat := codes.foldr (fun code bits => 1 <<< code ||| bits) 0

/-- A number with one bit for each code point of a span. A span without gaps is a row of bits. -/
def bits (span : Span) : Nat :=
  if span.step = 1 then (1 <<< (span.last + 1 - span.first) - 1) <<< span.first
  else bitsOfCodes ((List.range' span.first (span.last + 1 - span.first)).filter span.contains)

/-- A number with one bit for each code point of a table. -/
def bitsOf (table : List Span) : Nat := table.foldr (fun span bits => span.bits ||| bits) 0

theorem testBit_bitsOfCodes (codes : List Nat) (code : Nat) :
    (bitsOfCodes codes).testBit code = decide (code ∈ codes) := by
  induction codes with
  | nil => simp [bitsOfCodes]
  | cons one rest inductionHypothesis =>
    show (1 <<< one ||| bitsOfCodes rest).testBit code = _
    rw [Nat.testBit_or, inductionHypothesis, Nat.one_shiftLeft, Nat.testBit_two_pow]
    simp [eq_comm]

theorem testBit_bits (span : Span) (code : Nat) : span.bits.testBit code = span.contains code := by
  have inside : span.contains code = true → span.first ≤ code ∧ code ≤ span.last := by
    simp only [contains, Bool.and_eq_true, decide_eq_true_eq]
    exact fun both => both.1
  by_cases row : span.step = 1
  · rw [bits, if_pos row, Nat.testBit_shiftLeft, Nat.one_shiftLeft, Nat.testBit_two_pow_sub_one,
      contains, row, Nat.mod_one]
    by_cases after : span.first ≤ code
    · simp only [after, decide_true, Bool.true_and, beq_self_eq_true, Bool.and_true,
        decide_eq_decide]
      omega
    · simp [after]
  · rw [bits, if_neg row, testBit_bitsOfCodes]
    cases found : span.contains code with
    | false => simp [found]
    | true =>
      obtain ⟨first, last⟩ := inside found
      simp only [List.mem_filter, List.mem_range'_1, found, and_true, decide_eq_true_eq]
      omega

theorem testBit_bitsOf (table : List Span) (code : Nat) :
    (bitsOf table).testBit code = table.any fun span => span.contains code := by
  induction table with
  | nil => simp [bitsOf]
  | cons span rest inductionHypothesis =>
    show (span.bits ||| bitsOf rest).testBit code = _
    rw [Nat.testBit_or, testBit_bits, inductionHypothesis, List.any_cons]

/-- In an ascending table the search misses no span. -/
theorem listed_eq_any {table : List Span} (ascending : (table.map Span.first).IsChain (· ≤ ·))
    (code : Nat) : listed table code = table.any fun span => span.contains code := by
  have sorted := List.pairwise_map.mp (List.isChain_iff_pairwise.mp ascending)
  clear ascending
  induction table with
  | nil => rfl
  | cons span rest inductionHypothesis =>
    obtain ⟨least, later⟩ := List.pairwise_cons.mp sorted
    by_cases before : code < span.first
    · rw [listed_cons_of_lt before]
      refine (List.any_eq_false.mpr fun other member => ?_).symm
      have first : span.first ≤ other.first := by
        rcases List.mem_cons.mp member with rfl | there
        · exact Nat.le_refl _
        · exact least other there
      simp only [contains, Bool.and_eq_true, decide_eq_true_eq]
      omega
    · rw [listed, if_neg before, inductionHypothesis later, List.any_cons]

end Span

/-- The letters are the code points of five categories. -/
theorem listed_letterSpans (code : Nat) :
    Span.listed letterSpans code =
      (categoriesOf 'l').any fun table => Span.listed table code := by
  have same : Span.bitsOf letterSpans = Span.bitsOf (categoriesOf 'l').flatten := by
    decide +kernel
  have whole : (letterSpans.map Span.first).IsChain (· ≤ ·) := by decide +kernel
  have each : ∀ table ∈ categoriesOf 'l', (table.map Span.first).IsChain (· ≤ ·) := by
    decide +kernel
  rw [Span.listed_eq_any whole, ← Span.testBit_bitsOf, same, Span.testBit_bitsOf, List.any_flatten,
    Bool.eq_iff_iff, List.any_eq_true, List.any_eq_true]
  refine exists_congr fun table => and_congr_right fun member => ?_
  rw [Span.listed_eq_any (each table member)]

namespace CharSet

theorem contains_empty (code : Nat) : empty.contains .exact code = false := by
  rw [empty, contains, Bool.eq_false_iff]
  simp only [Folding.variants, List.any_cons, List.any_nil, Bool.or_false, ne_eq, Bool.and_eq_true,
    decide_eq_true_eq]
  omega

/-- A set that is made of tables holds what one of them lists. -/
theorem contains_ofTables (tables : List (List Span)) (code : Nat) :
    (ofTables tables).contains .exact code = tables.any fun table => Span.listed table code := by
  have added (set : CharSet) :
      (tables.foldl (fun set spans => CharSet.union set (.table spans)) set).contains .exact code =
        (set.contains .exact code || tables.any fun table => Span.listed table code) := by
    induction tables generalizing set with
    | nil => simp
    | cons table rest inductionHypothesis =>
      rw [List.foldl_cons, inductionHypothesis, contains_union, List.any_cons, Bool.or_assoc]
      simp [contains, Folding.variants]
  rw [ofTables, added, contains_empty, Bool.false_or]

theorem contains_single (given character : Char) :
    (single given).contains .exact character.toNat = (character == given) := by
  rw [single, contains, Bool.eq_iff_iff, beq_iff_eq]
  simp only [Folding.variants, List.any_cons, List.any_nil, Bool.or_false, Bool.and_eq_true,
    decide_eq_true_eq]
  exact ⟨fun between => Char.toNat_inj.mp (Nat.le_antisymm between.2 between.1),
    fun same => same ▸ ⟨Nat.le_refl _, Nat.le_refl _⟩⟩

/-- The accepted characters, as a class in brackets lists them. The latest item comes first. -/
def accepted : CharSet :=
  let marks := ['/', '.', '_', '-'].foldl (fun set mark => .union set (single mark)) empty
  .union (.union marks (ofTables [decimalDigitSpans])) (ofTables (categoriesOf 'l'))

theorem contains_accepted (character : Char) :
    accepted.contains .exact character.toNat = isAccepted character := by
  simp only [accepted, List.foldl_cons, List.foldl_nil, contains_union, contains_single,
    contains_ofTables, ← listed_letterSpans, contains_empty, List.any_cons, List.any_nil,
    Bool.or_false, Bool.false_or, isAccepted, isLetter, isDecimalDigit]
  cases Span.listed letterSpans character.toNat <;>
    cases Span.listed decimalDigitSpans character.toNat <;>
      cases character == '-' <;> cases character == '_' <;> cases character == '.' <;>
        cases character == '/' <;> rfl

end CharSet

/-! ### The two patterns -/

namespace Pattern

/-- The pattern of the texts that are canonical. -/
def canonicalText : String := "^[\\p\x7bL\x7d\\p\x7bNd\x7d\\-_./]+$"

/-- The pattern of the runs that replacing looks for. -/
def otherText : String := "[^\\p\x7bL\x7d\\p\x7bNd\x7d\\-_./]+"

/-- One or more characters of a set. -/
def oneOrMore (set : CharSet) : Pattern := .repeated (.one set .exact) 1 none

/-- Any number of characters of a set. -/
def anyNumber (set : CharSet) : Pattern := .repeated (.one set .exact) 0 none

/-- A whole text of one or more characters of a set. -/
def wholly (set : CharSet) : Pattern :=
  .sequence (.assert .textStart) (.sequence (oneOrMore set) (.assert .textEnd))

theorem ofText?_canonicalText : ofText? canonicalText = some (wholly .accepted) := by
  decide +kernel

theorem ofText?_otherText : ofText? otherText = some (oneOrMore (.complement .accepted)) := by
  decide +kernel

variable (set : CharSet) (before after : Option Char) (character : Char) (text : List Char)

theorem advance_oneOrMore :
    (oneOrMore set).advance before character =
      if set.contains .exact character.toNat then [anyNumber set] else [] := by
  rw [oneOrMore, advance, if_neg (by simp), advance]
  split <;> rfl

theorem advance_anyNumber :
    (anyNumber set).advance before character =
      if set.contains .exact character.toNat then [anyNumber set] else [] := by
  rw [anyNumber, advance, if_neg (by simp), advance]
  split <;> rfl

/-- One or more characters of a set occur where one of them does. -/
theorem run_oneOrMore :
    (oneOrMore set).run before [] text =
      text.any fun character => set.contains .exact character.toNat := by
  induction text generalizing before with
  | nil => rfl
  | cons character rest inductionHypothesis =>
    have none : (oneOrMore set).nullable before (some character) = false := rfl
    rw [run, List.any_cons, none, List.flatMap_cons, advance_oneOrMore, List.any_cons]
    cases here : set.contains .exact character.toNat with
    | true =>
      -- From here on any number of further characters match, so none need follow.
      cases rest <;> rfl
    | false => exact inductionHypothesis (some character)

/-- A match of a whole text that has begun. -/
def begun (set : CharSet) : Pattern := .sequence (anyNumber set) (.assert .textEnd)

theorem advance_begun :
    (begun set).advance before character =
      if set.contains .exact character.toNat then [begun set] else [] := by
  rw [begun, advance, advance_anyNumber]
  cases set.contains .exact character.toNat <;> rfl

theorem advance_wholly :
    (wholly set).advance none character =
      if set.contains .exact character.toNat then [begun set] else [] := by
  have first : (oneOrMore set).nullable none (some character) = false := rfl
  show [] ++ (((oneOrMore set).advance none character).map (·.andThen (.assert .textEnd)) ++
    if (oneOrMore set).nullable none (some character) then _ else []) = _
  rw [first, advance_oneOrMore]
  cases set.contains .exact character.toNat <;> rfl

/-- Behind the start of a text no match begins. -/
theorem run_wholly_later (previous : Char) : (wholly set).run (some previous) [] text = false := by
  induction text generalizing previous with
  | nil => rfl
  | cons character rest inductionHypothesis => exact inductionHypothesis character

/-- A match that has begun goes on to the end of the text while there are characters of the set. -/
theorem run_begun (previous : Char) :
    (wholly set).run (some previous) [begun set] text =
      text.all fun character => set.contains .exact character.toNat := by
  induction text generalizing previous with
  | nil => rfl
  | cons character rest inductionHypothesis =>
    have closed : (wholly set).advance (some previous) character = [] := rfl
    rw [run, List.all_cons, List.flatMap_cons, closed, List.flatMap_cons, advance_begun]
    cases set.contains .exact character.toNat with
    | true => exact inductionHypothesis character
    | false => exact run_wholly_later set rest character

/-- A text matches as a whole when it is not empty and all its characters are of the set. -/
theorem run_wholly :
    (wholly set).run none [] text =
      (!text.isEmpty && text.all fun character => set.contains .exact character.toNat) := by
  cases text with
  | nil => rfl
  | cons character rest =>
    rw [run, List.all_cons, List.flatMap_cons, advance_wholly]
    cases set.contains .exact character.toNat with
    | true => exact run_begun set rest character
    | false => exact run_wholly_later set rest character

/-- The one pattern matches the texts that are canonical. -/
theorem occursIn_canonicalText (text : String) :
    (wholly .accepted).occursIn text = isCanonical text := by
  rw [occursIn, run_wholly, isCanonical]
  simp only [CharSet.contains_accepted]

/-- The other pattern finds the characters that are not accepted. -/
theorem occursIn_otherText (text : String) :
    (oneOrMore (.complement .accepted)).occursIn text =
      text.toList.any fun character => !isAccepted character := by
  rw [occursIn, run_oneOrMore]
  simp only [CharSet.contains_complement, CharSet.contains_accepted]

end Pattern

end Telemetry
