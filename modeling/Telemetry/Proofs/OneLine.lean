/-
This file says that the JSON of a point is a single line.

A line feed in a string is escaped, and nothing is escaped by one. Numbers have digits, signs, a
point or an exponent, and the text around them has none either. So whatever a point holds, there is
no line feed in what is written for it.
-/

import Telemetry.Proofs.JsonText

namespace Telemetry

/-- There is no line feed in a text. -/
def IsOneLine (text : String) : Prop := '\n' ∉ text.toList

instance (text : String) : Decidable (IsOneLine text) :=
  inferInstanceAs (Decidable ('\n' ∉ text.toList))

theorem IsOneLine.append {first second : String} (before : IsOneLine first)
    (after : IsOneLine second) : IsOneLine (first ++ second) := by
  rw [IsOneLine, String.toList_append, List.mem_append]
  exact fun member => member.elim before after

theorem isOneLine_ofList {characters : List Char} (free : '\n' ∉ characters) :
    IsOneLine (String.ofList characters) := by
  rwa [IsOneLine, String.toList_ofList]

theorem lineFeed_not_mem_digits (number : Nat) : '\n' ∉ Nat.toDigits 10 number :=
  fun member => absurd (isDigit_of_mem_toDigits member) (by decide)

theorem isOneLine_signedDecimal (number : Int) : IsOneLine (signedDecimal number) :=
  Json.not_mem_signedDecimal (by decide) (by decide) number

namespace Binary64

theorem lineFeed_not_mem_positional (text : Digits) : '\n' ∉ text.positional := by
  have digits := lineFeed_not_mem_digits text.digits
  unfold Digits.positional
  dsimp only
  split
  · simp [digits]
  · split
    · simp only [List.mem_append, List.mem_cons]
      rintro (before | point | behind)
      · exact digits (List.mem_of_mem_take before)
      · exact absurd point (by decide)
      · exact digits (List.mem_of_mem_drop behind)
    · simp [digits]

theorem lineFeed_not_mem_scientific (text : Digits) : '\n' ∉ text.scientific := by
  have digits := lineFeed_not_mem_digits text.digits
  unfold Digits.scientific
  generalize Nat.toDigits 10 text.digits = written at digits ⊢
  simp only [List.mem_append, List.mem_cons]
  rintro (mantissa | mark | sign | exponent)
  · split at mantissa
    · cases mantissa
    · exact digits mantissa
    · simp only [List.mem_cons, not_or] at digits mantissa
      rcases mantissa with first | point | behind
      · exact digits.1 first
      · exact absurd point (by decide)
      · exact digits.2 behind
  · exact absurd mark (by decide)
  · split at sign <;> exact absurd sign (by decide)
  · exact lineFeed_not_mem_digits _ exponent

/-- A number in JSON is one line. -/
theorem isOneLine_json (number : Binary64) : IsOneLine number.json := by
  have sign : IsOneLine (if number.isNegative then "-" else "") := by
    split <;> decide
  unfold json
  dsimp only
  split
  · decide
  · split
    · exact sign.append (by decide)
    · split
      · refine (sign.append (isOneLine_ofList (lineFeed_not_mem_positional _))).append ?_
        split <;> decide
      · exact sign.append (isOneLine_ofList (lineFeed_not_mem_scientific _))

end Binary64

theorem Value.isOneLine_json : (value : Value) → IsOneLine value.json
  | .integer number => isOneLine_signedDecimal number.toInt
  | .real number => number.isOneLine_json

namespace Json

theorem lineFeed_ne_digitChar : ∀ digit < 16, '\n' ≠ Nat.digitChar digit := by decide

theorem lineFeed_not_mem_hexPair (number : Nat) : '\n' ∉ hexPair number := by
  have high := lineFeed_ne_digitChar (number / 16 % 16) (Nat.mod_lt _ (by decide))
  have low := lineFeed_ne_digitChar (number % 16) (Nat.mod_lt _ (by decide))
  simp [hexPair, high, low]

/-- A line feed is escaped, and nothing is escaped by one. -/
theorem lineFeed_not_mem_escaped (character : Char) : '\n' ∉ escaped character := by
  fun_cases escaped character with
  | case8 =>
    rw [List.mem_append]
    exact fun member => member.elim (by decide) (lineFeed_not_mem_hexPair _)
  | case9 _ _ _ _ _ notLineFeed =>
    rw [List.mem_singleton]
    exact fun same => notLineFeed same.symm
  | _ => decide

theorem isOneLine_string (text : String) : IsOneLine (string text) := by
  rw [IsOneLine, toList_string, List.mem_append, List.mem_cons, List.mem_flatMap]
  rintro ((quote | ⟨character, _, inside⟩) | quote)
  · exact absurd quote (by decide)
  · exact lineFeed_not_mem_escaped character inside
  · exact absurd quote (by decide)

theorem isOneLine_member (key : String) {value : String} (free : IsOneLine value) :
    IsOneLine (member key value) :=
  ((isOneLine_string key).append (by decide)).append free

theorem isOneLine_object {members : List String} (free : ∀ member ∈ members, IsOneLine member) :
    IsOneLine (object members) := by
  cases members with
  | nil => decide
  | cons first others =>
    rw [IsOneLine, toList_object_cons, List.mem_append, List.mem_append, List.mem_cons,
      List.mem_flatMap]
    rintro (((brace | here) | ⟨other, listed, behind⟩) | brace)
    · exact absurd brace (by decide)
    · exact free first List.mem_cons_self here
    · rcases List.mem_cons.mp behind with comma | inside
      · exact absurd comma (by decide)
      · exact free other (List.mem_cons_of_mem _ listed) inside
    · exact absurd brace (by decide)

end Json

namespace Point

/-- The JSON of a point is one line. -/
theorem isOneLine_json (point : Point) : IsOneLine point.json := by
  rw [json_eq]
  refine Json.isOneLine_object fun member listed => ?_
  simp only [List.mem_cons, List.not_mem_nil, or_false] at listed
  rcases listed with rfl | rfl | rfl | rfl
  · exact Json.isOneLine_member _ (Json.isOneLine_string _)
  · exact Json.isOneLine_member _ (isOneLine_signedDecimal _)
  · exact Json.isOneLine_member _ point.value.isOneLine_json
  · refine Json.isOneLine_member _ (Json.isOneLine_object fun member listed => ?_)
    obtain ⟨pair, _, rfl⟩ := List.mem_map.mp listed
    exact Json.isOneLine_member _ (Json.isOneLine_string _)

end Point

end Telemetry
