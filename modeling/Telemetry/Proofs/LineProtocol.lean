/-
This file says that a line of text and a call give the same point.

The words of a line are its fields, whatever the blanks between and around them are. The timestamp
and the value are read back as the numbers that were written, and the tags one after the other as
the pairs that they give, so in the end the same call is made. Lines whose tags have different keys
may give them in any order.
-/

import Telemetry.Proofs.Numerals
import Telemetry.Proofs.RewrittenKeys
import Telemetry.Proofs.TagTokens

namespace Telemetry

/-! ### Fields -/

/-- A digit is no blank. -/
theorem isBlank_of_isDigit {character : Char} (digit : character.isDigit = true) :
    isBlank character = false := by
  have table : ∀ code ∈ List.range' 48 10, Span.listed blankSpans code = false := by
    decide
  have bounds : 48 ≤ character.toNat ∧ character.toNat ≤ 57 := Char.isDigit_iff_toNat.mp digit
  refine table character.toNat ?_
  rw [List.mem_range'_1]
  omega

/-- The digits of a number are a single field. -/
theorem solid_toDigits (number : Nat) :
    Nat.toDigits 10 number ≠ [] ∧
      ∀ character ∈ Nat.toDigits 10 number, isBlank character = false :=
  ⟨Nat.toDigits_ne_nil, fun _ member => isBlank_of_isDigit (isDigit_of_mem_toDigits member)⟩

/-- A number in decimal is a single field. -/
theorem solid_signedDecimal (number : Int) :
    (signedDecimal number).toList ≠ [] ∧
      ∀ character ∈ (signedDecimal number).toList, isBlank character = false := by
  obtain ⟨nonempty, free⟩ := solid_toDigits number.natAbs
  unfold signedDecimal
  by_cases negative : number < 0
  · rw [if_pos negative, String.toList_append, toList_decimal]
    refine ⟨List.append_ne_nil_of_right_ne_nil _ nonempty, ?_⟩
    intro character member
    rcases List.mem_append.mp member with sign | digit
    · rw [List.mem_singleton.mp sign]
      decide
    · exact free character digit
  · rw [if_neg negative, toList_decimal]
    exact ⟨nonempty, free⟩

namespace Layout

variable (layout : Layout)

/-- Every field behind the metric is a text without blanks. -/
theorem solid_of_mem_fields {field : Gap × String} (member : field ∈ layout.fields) :
    field.2.toList ≠ [] ∧ ∀ character ∈ field.2.toList, isBlank character = false := by
  rcases List.mem_cons.mp member with rfl | member
  · exact solid_signedDecimal layout.timestamp.toInt
  rcases List.mem_cons.mp member with rfl | member
  · exact solid_signedDecimal layout.value.toInt
  obtain ⟨token, _, rfl⟩ := List.mem_map.mp member
  exact solid_text token.2

end Layout

/-- The words of a text with fields behind it are the words of the text and the fields. -/
theorem wordsOf_append_flatMap (text : List Char) (fields : List (Gap × String))
    (solid : ∀ field ∈ fields, field.2.toList ≠ [] ∧
      ∀ character ∈ field.2.toList, isBlank character = false) :
    wordsOf (text ++ fields.flatMap fun field => field.1.characters ++ field.2.toList) =
      wordsOf text ++ fields.map fun field => field.2.toList := by
  -- The first field goes over to the text before the others, so the text is any.
  induction fields generalizing text with
  | nil => rw [List.flatMap_nil, List.append_nil, List.map_nil, List.append_nil]
  | cons field rest inductionHypothesis =>
    obtain ⟨nonempty, free⟩ := solid field List.mem_cons_self
    have later := fun other member => solid other (List.mem_cons_of_mem _ member)
    calc wordsOf (text ++ (field :: rest).flatMap fun field =>
            field.1.characters ++ field.2.toList)
        = wordsOf ((text ++ (field.1.characters ++ field.2.toList)) ++ rest.flatMap fun field =>
            field.1.characters ++ field.2.toList) := by
          rw [List.flatMap_cons, ← List.append_assoc]
      _ = wordsOf text ++ [field.2.toList] ++ rest.map fun field => field.2.toList := by
          rw [inductionHypothesis _ later,
            wordsOf_append_blanks_append field.1.blank field.1.nonempty,
            wordsOf_of_free nonempty free]
      _ = wordsOf text ++ (field :: rest).map fun field => field.2.toList := by
          rw [List.append_assoc, List.map_cons, List.singleton_append]

/-- The words of a line are its fields. -/
theorem Layout.words_text (layout : Layout) :
    words layout.text = layout.metric.text :: layout.fields.map (·.2) := by
  rw [words, text, String.toList_ofList, wordsOf_append_blanks layout.after.blank,
    wordsOf_blanks_append layout.before.blank,
    wordsOf_append_flatMap _ _ fun _ member => layout.solid_of_mem_fields member,
    wordsOf_of_free layout.metric.nonempty layout.metric.solid]
  simp

/-- A whole number is read as itself. -/
theorem ofText_signedDecimal (number : Int64) :
    Value.ofText (signedDecimal number.toInt) = .ok (.integer number) := by
  rw [Value.ofText, int64?_signedDecimal]

/-! ### Lines -/

/-- Fields that can all be read are a call. -/
theorem Line.readFields_eq_ofCall {timestamp value : String} {seconds : Int64} {number : Value}
    {tokens : List String} {tags : TagSet} (time : int64? timestamp = some seconds)
    (finite : Value.ofText value = .ok number) (read : readTokens ∅ tokens = (tags, none))
    (context : Context) (line metric : String) :
    readFields context line (metric :: timestamp :: value :: tokens) =
      ofCall (context.canonicalize metric seconds number tags) := by
  rw [readFields, time]
  dsimp only
  rw [finite]
  dsimp only
  rw [read]
  dsimp only
  cases context.canonicalize metric seconds number tags <;> rfl

/-- Reading a line is making the call that it says. -/
theorem Layout.read_text (context : Context) (layout : Layout) :
    Line.read context layout.text = Line.ofCall (layout.call context) := by
  have fields : layout.fields.map (·.2) = signedDecimal layout.timestamp.toInt ::
      signedDecimal layout.value.toInt :: layout.tags.map TagToken.text := by
    rw [fields, List.map_cons, List.map_cons, List.map_map, tags, List.map_map]
    rfl
  rw [Line.read, words_trim, words_text, fields]
  exact Line.readFields_eq_ofCall (int64?_signedDecimal layout.timestamp)
    (ofText_signedDecimal layout.value) (readTokens_text ∅ layout.tags) _ _ _

/-- The order of tags with different keys changes nothing about the call. -/
theorem Layout.Reorders.call_eq {layout other : Layout} (same : layout.Reorders other)
    (distinct : layout.HasDistinctKeys) (context : Context) :
    layout.call context = other.call context := by
  rw [call, call, same.metric, same.timestamp, same.value, tagsOf_perm same.tags distinct]

/-- A line gives what the call gives that it says: the same point, without a report about its tags,
or the same refusal. Neither the blanks on the line nor the order of tags with different keys
matters. -/
theorem Line.read_eq_ofCall (context : Context) (layout : Layout) :
    Line.read context layout.text =
        Line.ofCall (context.canonicalize layout.metric.text layout.timestamp
          (.integer layout.value) (TagToken.tagsOf layout.tags)) ∧
      ∀ other : Layout, layout.Reorders other → layout.HasDistinctKeys →
        Line.read context other.text = Line.read context layout.text := by
  refine ⟨layout.read_text context, ?_⟩
  intro other same distinct
  rw [layout.read_text, other.read_text, same.call_eq distinct]

/-- A single space. -/
def Gap.space : Gap := ⟨⟨[' '], List.all_eq_true.mp (by decide)⟩, List.cons_ne_nil _ _⟩

/-- A line about a disk, with a tab and a line feed among its blanks. -/
def Layout.ofDisk (before : Blanks) (tokens : List (Gap × TagToken)) : Layout where
  before := before
  metric := ⟨"disk.used", by decide, solid_of_isCanonical (by decide +kernel)⟩
  toTimestamp := ⟨⟨['\t', ' '], List.all_eq_true.mp (by decide)⟩, List.cons_ne_nil _ _⟩
  timestamp := -60
  toValue := .space
  value := 7
  tokens := tokens
  after := ⟨['\n'], List.all_eq_true.mp (by decide)⟩

/-- Two lines that leave out the host and give the environment, in either order. -/
theorem Line.read_disk :
    let environment : TagToken := .tag "env" "staging" (by decide +kernel) (by decide +kernel)
    let first := Layout.ofDisk ⟨[], nofun⟩ [(.space, environment), (.space, .hostless)]
    let second := Layout.ofDisk Gap.space.toBlanks [(.space, .hostless), (.space, environment)]
    first.text = "disk.used\t -60 7 env=staging host=\n" ∧
      second.text = " disk.used\t -60 7 host= env=staging\n" ∧
      first.Reorders second ∧ first.HasDistinctKeys ∧
      Line.read Context.production second.text = Line.read Context.production first.text ∧
      Line.read Context.production first.text = .ok ⟨⟨"disk.used", -60, .integer 7,
        Table.ofList [("env", "staging"), ("site", "north")]⟩, none⟩ := by
  intro environment first second
  obtain ⟨read, reordered⟩ := read_eq_ofCall Context.production first
  have same : first.Reorders second := ⟨rfl, rfl, rfl, List.Perm.swap _ _ _⟩
  have distinct : first.HasDistinctKeys := by
    unfold Layout.HasDistinctKeys
    decide
  refine ⟨by decide +kernel, by decide +kernel, same, distinct, reordered second same distinct, ?_⟩
  have made : (first.call Context.production).toOption = some ⟨"disk.used", -60, .integer 7,
      Table.ofList [("env", "staging"), ("site", "north")]⟩ := by
    decide +kernel
  rw [read]
  exact congrArg Line.ofCall (eq_ok_of_toOption made)

end Telemetry
