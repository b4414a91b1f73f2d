/-
This file says that the JSON of a point can be read back, and that it is a single line.

A character of a string is told from what is written for it and from nothing else: what begins with
a backslash says by its next character what it stands for, and what begins with a quote is the end
of the string. So a string ends where it ends, whatever follows, and its characters come out as they
went in. A number ends at the first comma. An object is read member by member, and then two objects
that look alike have the same members.

No line feed is written for any character, and there is none in a number.
-/

import Telemetry.Point.Basic
import Telemetry.Proofs.Numerals
import Telemetry.Proofs.Splitting

namespace Telemetry

namespace Json

/-! ### The characters of a string -/

/-- The character that four hexadecimal digits stand for, with what follows them. -/
def readCode : List Char → Option (Char × List Char)
  | first :: second :: third :: fourth :: rest =>
    ((numberIn? 16 [first, second, third, fourth]).bind characterOf?).map fun read => (read, rest)
  | _ => none

/-- The character that was escaped, read from what stands behind its backslash. -/
def readEscaped : List Char → Option (Char × List Char)
  | [] => none
  | '"' :: rest => some ('"', rest)
  | '\\' :: rest => some ('\\', rest)
  | 'b' :: rest => some ('\x08', rest)
  | 't' :: rest => some ('\t', rest)
  | 'n' :: rest => some ('\n', rest)
  | 'f' :: rest => some ('\x0c', rest)
  | 'r' :: rest => some ('\r', rest)
  | 'u' :: rest => readCode rest
  | _ => none

/-- Reads one character of a string. There is none at the end of the string. -/
def readCharacter : List Char → Option (Char × List Char)
  | [] => none
  | character :: rest =>
    if character = '"' then none
    else if character = '\\' then readEscaped rest
    else some (character, rest)

theorem numberIn?_hexPair : ∀ number < 32,
    numberIn? 16 ('0' :: '0' :: hexPair number) = some number := by decide

theorem characterOf?_toNat (character : Char) :
    characterOf? character.toNat = some character := by
  have valid : character.toNat.isValidChar := character.valid
  rw [characterOf?, dif_pos valid]
  rfl

/-- A character is read back from what is written for it. -/
theorem readCharacter_escaped_append (character : Char) (rest : List Char) :
    readCharacter (escaped character ++ rest) = some (character, rest) := by
  fun_cases escaped character with
  | case8 _ _ _ _ _ _ _ _ control =>
    show readCode ('0' :: '0' :: hexPair character.toNat ++ rest) = some (character, rest)
    have code := numberIn?_hexPair character.toNat control
    rw [hexPair] at code ⊢
    show ((numberIn? 16 _).bind characterOf?).map _ = _
    rw [code, Option.bind_some, characterOf?_toNat]
    rfl
  | case9 _ quote backslash =>
    rw [List.singleton_append, readCharacter, if_neg quote, if_neg backslash]
  | _ => rfl

/-- A string ends at its own quote, whatever follows. -/
theorem eq_of_flatMap_escaped {first second rest others : List Char}
    (same : first.flatMap escaped ++ '"' :: rest = second.flatMap escaped ++ '"' :: others) :
    first = second ∧ rest = others := by
  induction first generalizing second with
  | nil =>
    cases second with
    | nil => exact ⟨rfl, (List.cons.inj same).2⟩
    | cons character more =>
      have read := congrArg readCharacter same
      rw [List.flatMap_cons, List.append_assoc, readCharacter_escaped_append] at read
      cases read
  | cons character more inductionHypothesis =>
    have read := congrArg readCharacter same
    rw [List.flatMap_cons, List.append_assoc, readCharacter_escaped_append] at read
    cases second with
    | nil => cases read
    | cons character others =>
      rw [List.flatMap_cons, List.append_assoc, readCharacter_escaped_append] at read
      obtain ⟨rfl, later⟩ := Prod.mk.inj (Option.some.inj read)
      obtain ⟨rfl, after⟩ := inductionHypothesis later
      exact ⟨rfl, after⟩

theorem toList_string (text : String) :
    (string text).toList = '"' :: text.toList.flatMap escaped ++ ['"'] := String.toList_ofList

/-- Two strings in JSON that what follows makes alike are the same. -/
theorem eq_of_string_append {first second : String} {rest others : List Char}
    (same : (string first).toList ++ rest = (string second).toList ++ others) :
    first = second ∧ rest = others := by
  rw [toList_string, toList_string, List.append_assoc, List.append_assoc] at same
  obtain ⟨characters, after⟩ := eq_of_flatMap_escaped (List.cons.inj same).2
  exact ⟨String.toList_inj.mp characters, after⟩

/-! ### Numbers -/

/-- A number has a sign and digits, and nothing else. -/
theorem not_mem_signedDecimal {character : Char} (noDigit : character.isDigit = false)
    (noSign : character ≠ '-') (number : Int) : character ∉ (signedDecimal number).toList := by
  have digits : character ∉ (decimal number.natAbs).toList := by
    rw [toList_decimal]
    intro member
    exact absurd (isDigit_of_mem_toDigits member) (Bool.eq_false_iff.mp noDigit)
  unfold signedDecimal
  split
  · rw [String.toList_append, List.mem_append]
    exact fun member => member.elim (fun sign => noSign (List.mem_singleton.mp sign)) digits
  · exact digits

/-- A number ends at the comma behind it. -/
theorem eq_of_signedDecimal_append {first second : Int64} {rest others : List Char}
    (same : (signedDecimal first.toInt).toList ++ ',' :: rest =
      (signedDecimal second.toInt).toList ++ ',' :: others) : first = second ∧ rest = others := by
  have free : ∀ number : Int64, ',' ∉ (signedDecimal number.toInt).toList :=
    fun number => not_mem_signedDecimal (by decide) (by decide) number.toInt
  have cut := congrArg (splitAtFirst ',') same
  rw [splitAtFirst_append_cons (free first), splitAtFirst_append_cons (free second)] at cut
  obtain ⟨digits, after⟩ := Prod.mk.inj (Option.some.inj cut)
  have read := congrArg int64? (String.toList_inj.mp digits)
  rw [int64?_signedDecimal, int64?_signedDecimal] at read
  exact ⟨Option.some.inj read, after⟩

/-! ### Objects -/

theorem toList_member (key value : String) :
    (member key value).toList = (string key).toList ++ ':' :: value.toList := by
  rw [member, String.toList_append, String.toList_append, List.append_assoc]
  rfl

/-- Behind the same key the values follow. -/
theorem eq_of_member_append {key first second : String} {rest others : List Char}
    (same : (member key first).toList ++ rest = (member key second).toList ++ others) :
    first.toList ++ rest = second.toList ++ others := by
  rw [toList_member, toList_member, List.append_assoc, List.append_assoc] at same
  exact (List.cons.inj (eq_of_string_append same).2).2

/-- Behind the first member of an object every other one follows a comma. -/
theorem toList_object_cons (first : String) (others : List String) :
    (object (first :: others)).toList =
      '\x7b' :: first.toList ++ others.flatMap (fun other => ',' :: other.toList) ++ ['\x7d'] := by
  have behind : (String.intercalate "," (first :: others)).toList =
      first.toList ++ others.flatMap fun other => ',' :: other.toList := by
    rw [String.toList_intercalate, List.map_cons]
    induction others generalizing first with
    | nil => rw [List.map_nil, List.intercalate_singleton, List.flatMap_nil, List.append_nil]
    | cons second more inductionHypothesis =>
      rw [List.map_cons, List.intercalate_cons_cons, inductionHypothesis second, List.flatMap_cons,
        List.append_assoc]
      rfl
  rw [object, String.toList_append, String.toList_append, behind]
  rfl

/-- The members of an object with the texts of a list of pairs. -/
def textMember (pair : String × String) : String := member pair.1 (string pair.2)

theorem eq_of_textMember_append {first second : String × String} {rest others : List Char}
    (same : (textMember first).toList ++ rest = (textMember second).toList ++ others) :
    first = second ∧ rest = others := by
  rw [textMember, textMember, toList_member, toList_member, List.append_assoc,
    List.append_assoc] at same
  obtain ⟨keys, values⟩ := eq_of_string_append same
  obtain ⟨texts, after⟩ := eq_of_string_append (List.cons.inj values).2
  exact ⟨Prod.ext keys texts, after⟩

/-- Two lists of members that follow a first one are the same when they look alike. -/
theorem eq_of_textMembers_behind {first second : List (String × String)} {rest others : List Char}
    (same : first.flatMap (fun pair => ',' :: (textMember pair).toList) ++ '\x7d' :: rest =
      second.flatMap (fun pair => ',' :: (textMember pair).toList) ++ '\x7d' :: others) :
    first = second ∧ rest = others := by
  induction first generalizing second with
  | nil =>
    cases second with
    | nil => exact ⟨rfl, (List.cons.inj same).2⟩
    | cons pair more => exact absurd (List.cons.inj same).1 (by decide)
  | cons pair more inductionHypothesis =>
    cases second with
    | nil => exact absurd (List.cons.inj same).1 (by decide)
    | cons other further =>
      rw [List.flatMap_cons, List.flatMap_cons, List.append_assoc, List.append_assoc] at same
      obtain ⟨rfl, later⟩ := eq_of_textMember_append (List.cons.inj same).2
      obtain ⟨rfl, after⟩ := inductionHypothesis later
      exact ⟨rfl, after⟩

/-- An object without members ends where the first member of another one begins. -/
theorem textObject_nil_ne_cons (pair : String × String) (more : List (String × String)) :
    object [] ≠ object ((pair :: more).map textMember) := by
  intro same
  have characters := congrArg String.toList same
  rw [List.map_cons, toList_object_cons, textMember, toList_member, toList_string] at characters
  exact absurd (List.cons.inj (List.cons.inj characters).2).1 (by decide)

/-- Two objects of texts that look alike have the same members. -/
theorem eq_of_textObject {first second : List (String × String)}
    (same : object (first.map textMember) = object (second.map textMember)) : first = second := by
  cases first with
  | nil =>
    cases second with
    | nil => rfl
    | cons pair more => exact absurd same (textObject_nil_ne_cons pair more)
  | cons pair more =>
    cases second with
    | nil => exact absurd same.symm (textObject_nil_ne_cons pair more)
    | cons other further =>
      have characters := congrArg String.toList same
      rw [List.map_cons, List.map_cons, toList_object_cons, toList_object_cons, List.cons_append,
        List.cons_append, List.append_assoc, List.append_assoc, List.flatMap_map,
        List.flatMap_map] at characters
      obtain ⟨rfl, later⟩ := eq_of_textMember_append (List.cons.inj characters).2
      rw [(eq_of_textMembers_behind later).1]

end Json

/-! ### Points -/

theorem Point.json_eq (point : Point) : point.json = Json.object
    [Json.textMember ("metric", point.metric),
     Json.member "timestamp" (signedDecimal point.timestamp.toInt),
     Json.member "value" point.value.json,
     Json.member "tags" (Json.object (point.tags.entries.map Json.textMember))] := rfl

/-- The JSON of a point whose value is a whole number tells the point. -/
theorem Point.eq_of_json {first second : Point} {number other : Int64}
    (whole : first.value = .integer number) (alsoWhole : second.value = .integer other)
    (same : first.json = second.json) : first = second := by
  have characters := congrArg String.toList same
  rw [json_eq, json_eq, Json.toList_object_cons, Json.toList_object_cons, List.cons_append,
    List.cons_append, List.append_assoc, List.append_assoc] at characters
  obtain ⟨metric, behindMetric⟩ := Json.eq_of_textMember_append (List.cons.inj characters).2
  simp only [List.flatMap_cons, List.flatMap_nil, List.append_nil, List.append_assoc,
    List.cons_append] at behindMetric
  obtain ⟨timestamp, behindTimestamp⟩ := Json.eq_of_signedDecimal_append
    (Json.eq_of_member_append (List.cons.inj behindMetric).2)
  rw [whole, alsoWhole] at behindTimestamp
  obtain ⟨value, behindValue⟩ := Json.eq_of_signedDecimal_append
    (Json.eq_of_member_append behindTimestamp)
  have tags := List.append_cancel_right (Json.eq_of_member_append behindValue)
  have entries := Json.eq_of_textObject (String.toList_inj.mp tags)
  obtain ⟨_, _, _, _⟩ := first
  obtain ⟨_, _, _, _⟩ := second
  cases whole
  cases alsoWhole
  rw [Point.mk.injEq]
  exact ⟨(Prod.mk.inj metric).2, timestamp, congrArg Value.integer value,
    Table.eq_of_entries entries⟩

end Telemetry
