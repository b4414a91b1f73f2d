/-
This file says how a text becomes bytes.

The bytes of a text are those of its characters in order, and no two texts have the same bytes. A
character below 128 is its own byte and every byte of another character is 128 or more, so a line
feed among the bytes is one of the text.
-/

import Telemetry.Text.Utf8

namespace Telemetry

/-- The bytes listed from an index on follow those listed before. -/
theorem byteArray_loop_eq (bytes : ByteArray) (index : Nat) (listed : List UInt8) :
    ByteArray.toList.loop bytes index listed =
      listed.reverse ++ bytes.data.toList.drop index := by
  fun_induction ByteArray.toList.loop bytes index listed with
  | case1 index listed inside inductionHypothesis =>
    have bound : index < bytes.data.toList.length := inside
    have here : bytes.get! index = bytes.data.toList[index] := by
      show bytes.data[index]! = _
      rw [getElem!_pos bytes.data index inside, Array.getElem_toList]
    rw [inductionHypothesis, List.drop_eq_getElem_cons bound, List.reverse_cons, List.append_assoc,
      here]
    rfl
  | case2 index listed outside =>
    rw [List.drop_eq_nil_of_le (Nat.le_of_not_lt outside), List.append_nil]

theorem byteArray_toList_eq (bytes : ByteArray) : bytes.toList = bytes.data.toList := by
  rw [ByteArray.toList, byteArray_loop_eq]
  rfl

/-- The bytes of a text are those of its characters. -/
theorem bytesOf_ofList (characters : List Char) :
    bytesOf (String.ofList characters) = characters.flatMap String.utf8EncodeChar := by
  rw [bytesOf, String.toUTF8_eq_toByteArray, String.toByteArray_ofList, byteArray_toList_eq,
    List.utf8Encode, List.data_toByteArray]

theorem bytesOf_eq (text : String) :
    bytesOf text = text.toList.flatMap String.utf8EncodeChar := by
  rw [← bytesOf_ofList, String.ofList_toList]

theorem bytesOf_append (first second : String) :
    bytesOf (first ++ second) = bytesOf first ++ bytesOf second := by
  rw [bytesOf_eq, bytesOf_eq, bytesOf_eq, String.toList_append, List.flatMap_append]

/-- Two texts with the same bytes are the same. -/
theorem bytesOf_inj {first second : String} (same : bytesOf first = bytesOf second) :
    first = second := by
  rw [bytesOf, bytesOf, byteArray_toList_eq, byteArray_toList_eq, Array.toList_inj] at same
  exact String.toByteArray_inj.mp (ByteArray.ext same)

theorem eq_of_lineFeed_eq_ofNat {number : Nat} (byte : number < 256)
    (same : 10 = UInt8.ofNat number) : number = 10 := by
  have small : (UInt8.ofNat number).toNat = 10 := by rw [← same]; rfl
  rwa [UInt8.toNat_ofNat_of_lt' byte] at small

theorem ofNat_ne_lineFeed {number : Nat} (least : 128 ≤ number) (byte : number < 256) :
    10 ≠ UInt8.ofNat number := by
  intro same
  have small := eq_of_lineFeed_eq_ofNat byte same
  omega

/-- The byte of a line feed belongs to no other character. -/
theorem lineFeed_mem_utf8EncodeChar {character : Char} :
    10 ∈ String.utf8EncodeChar character ↔ character = '\n' := by
  constructor
  · fun_cases String.utf8EncodeChar character with
    | case1 code single =>
      intro member
      have here : code = 10 := eq_of_lineFeed_eq_ofNat (by omega) (List.mem_singleton.mp member)
      exact Char.ext (UInt32.toNat_inj.mp here)
    | case2 code =>
      simp only [List.mem_cons, List.not_mem_nil, or_false]
      rintro (same | same) <;> exact absurd same (ofNat_ne_lineFeed (by omega) (by omega))
    | case3 code =>
      simp only [List.mem_cons, List.not_mem_nil, or_false]
      rintro (same | same | same) <;> exact absurd same (ofNat_ne_lineFeed (by omega) (by omega))
    | case4 code =>
      simp only [List.mem_cons, List.not_mem_nil, or_false]
      rintro (same | same | same | same) <;>
        exact absurd same (ofNat_ne_lineFeed (by omega) (by omega))
  · rintro rfl
    decide

/-- A text without line feeds has none among its bytes. -/
theorem lineFeed_mem_bytesOf {text : String} : 10 ∈ bytesOf text ↔ '\n' ∈ text.toList := by
  rw [bytesOf_eq, List.mem_flatMap]
  constructor
  · rintro ⟨character, member, byte⟩
    rwa [← lineFeed_mem_utf8EncodeChar.mp byte]
  · intro member
    exact ⟨'\n', member, lineFeed_mem_utf8EncodeChar.mpr rfl⟩

end Telemetry
