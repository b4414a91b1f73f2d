/-
This file says that a command line is decoded argument by argument.

A zero byte is a character of its own: it neither follows the first byte of a longer character nor
comes out of one. So a character that breaks off before a zero byte is a fault of the argument in
which it stands, and what follows the zero byte is decoded as if it stood alone. Decoding the whole
and cutting it afterwards is therefore the same as cutting it and decoding the pieces.
-/

import Telemetry.Proofs.Splitting
import Telemetry.Watch.RunningProcess

namespace Telemetry

namespace Utf8

/-! ### Before a zero byte -/

theorem isContinuation_zero : isContinuation 0 = false := rfl

theorem secondOfThree_zero (first : UInt8) : secondOfThree first 0 = false := by
  unfold secondOfThree
  repeat' split
  all_goals rfl

theorem secondOfFour_zero (first : UInt8) : secondOfFour first 0 = false := by
  unfold secondOfFour
  repeat' split
  all_goals rfl

variable (first : UInt8) (rest more : Bytes)

theorem takeTwo_append_zero :
    takeTwo first (rest ++ 0 :: more) =
      ((takeTwo first rest).1, (takeTwo first rest).2 ++ 0 :: more) := by
  cases rest with
  | nil => rfl
  | cons second others =>
    rw [List.cons_append, takeTwo, takeTwo]
    split <;> rfl

theorem takeThree_append_zero :
    takeThree first (rest ++ 0 :: more) =
      ((takeThree first rest).1, (takeThree first rest).2 ++ 0 :: more) := by
  match rest with
  | [] => cases more <;> simp [takeThree, secondOfThree_zero]
  | [second] =>
    simp only [takeThree, List.cons_append, List.nil_append, isContinuation_zero]
    split <;> rfl
  | second :: third :: others =>
    simp only [takeThree, List.cons_append]
    repeat' split
    all_goals rfl

theorem takeFour_append_zero :
    takeFour first (rest ++ 0 :: more) =
      ((takeFour first rest).1, (takeFour first rest).2 ++ 0 :: more) := by
  match rest with
  | [] => rcases more with _ | ⟨_, _ | _⟩ <;> simp [takeFour, secondOfFour_zero]
  | [second] => cases more <;> simp [takeFour, isContinuation_zero] <;> split <;> rfl
  | [second, third] =>
    simp only [takeFour, List.cons_append, List.nil_append, isContinuation_zero]
    repeat' split
    all_goals rfl
  | second :: third :: fourth :: others =>
    simp only [takeFour, List.cons_append]
    repeat' split
    all_goals rfl

/-- Reading a character never goes beyond a zero byte that follows. -/
theorem takeOne_append_zero :
    takeOne first (rest ++ 0 :: more) =
      ((takeOne first rest).1, (takeOne first rest).2 ++ 0 :: more) := by
  unfold takeOne
  repeat' split
  · rfl
  · exact takeTwo_append_zero first rest more
  · exact takeThree_append_zero first rest more
  · exact takeFour_append_zero first rest more
  · rfl

theorem takeOne_zero : takeOne 0 rest = (some '\x00', rest) := rfl

/-- What stands before a zero byte and what stands behind it are decoded each for itself. -/
theorem decode_append_zero (front : Bytes) :
    decode (front ++ 0 :: rest) = decode front ++ some '\x00' :: decode rest := by
  fun_induction decode front with
  | case1 => rw [List.nil_append, decode_cons, takeOne_zero, List.nil_append]
  | case2 first others inductionHypothesis =>
    rw [List.cons_append, decode_cons, takeOne_append_zero, List.cons_append, inductionHypothesis]

/-! ### No zero character without a zero byte -/

/-- Among the numbers of characters only zero stands for the zero character. -/
theorem ofNat_ne_zero {number : Nat} (positive : 0 < number) (valid : number.isValidChar) :
    Char.ofNat number ≠ '\x00' := by
  intro same
  have zero : (Char.ofNat number).toNat = 0 := by rw [same]; rfl
  rw [Char.ofNat, dif_pos valid] at zero
  exact absurd zero (Nat.ne_of_gt positive)

variable {first : UInt8} {rest : Bytes}

theorem payload_lt (byte : UInt8) : payload byte < 64 := Nat.mod_lt _ (by decide)

theorem takeTwo_ne_zero (least : 0xC2 ≤ first.toNat) (most : first.toNat ≤ 0xDF) :
    (takeTwo first rest).1 ≠ some '\x00' := by
  cases rest with
  | nil => exact nofun
  | cons second others =>
    rw [takeTwo]
    split
    · have small := payload_lt second
      have valid : (first.toNat % 32 * 64 + payload second).isValidChar := .inl (by omega)
      exact fun same => ofNat_ne_zero (by omega) valid (Option.some.inj same)
    · exact nofun

/-- A byte within limits is one whose number is. -/
theorem toNat_of_within {least most byte : UInt8}
    (within : (decide (least ≤ byte) && decide (byte ≤ most)) = true) :
    least.toNat ≤ byte.toNat ∧ byte.toNat ≤ most.toNat := by
  simpa only [Bool.and_eq_true, decide_eq_true_eq, UInt8.le_iff_toNat_le] using within

theorem toNat_eq_of_beq {byte other : UInt8} (same : (byte == other) = true) :
    byte.toNat = other.toNat := congrArg UInt8.toNat (eq_of_beq same)

theorem toNat_ne_of_not_beq {byte other : UInt8} (different : ¬(byte == other) = true) :
    byte.toNat ≠ other.toNat := fun same => different (beq_iff_eq.mpr (UInt8.toNat_inj.mp same))

/-- The first two bytes of a character of three exclude zero and the surrogates. -/
theorem secondOfThree_bounds {second : UInt8} (least : 0xE0 ≤ first.toNat)
    (most : first.toNat ≤ 0xEF) (follows : secondOfThree first second = true) :
    0 < first.toNat % 16 * 64 + payload second ∧
      (first.toNat % 16 * 64 + payload second < 0x360 ∨
        0x37F < first.toNat % 16 * 64 + payload second) := by
  have small := payload_lt second
  unfold secondOfThree at follows
  split at follows
  · rename_i lowest
    have here : first.toNat = 0xE0 := toNat_eq_of_beq lowest
    have bounds : 0xA0 ≤ second.toNat ∧ second.toNat ≤ 0xBF := toNat_of_within follows
    rw [here, payload]
    omega
  · rename_i notLowest
    have higher : first.toNat ≠ 0xE0 := toNat_ne_of_not_beq notLowest
    split at follows
    · rename_i surrogates
      have here : first.toNat = 0xED := toNat_eq_of_beq surrogates
      have bounds : 0x80 ≤ second.toNat ∧ second.toNat ≤ 0x9F := toNat_of_within follows
      rw [here, payload]
      omega
    · rename_i others
      have here : first.toNat ≠ 0xED := toNat_ne_of_not_beq others
      omega

/-- The first two bytes of a character of four exclude zero and what is no code point. -/
theorem secondOfFour_bounds {second : UInt8} (least : 0xF0 ≤ first.toNat)
    (most : first.toNat ≤ 0xF4) (follows : secondOfFour first second = true) :
    0x10 ≤ first.toNat % 8 * 64 + payload second ∧
      first.toNat % 8 * 64 + payload second < 0x110 := by
  have small := payload_lt second
  unfold secondOfFour at follows
  split at follows
  · rename_i lowest
    have here : first.toNat = 0xF0 := toNat_eq_of_beq lowest
    have bounds : 0x90 ≤ second.toNat ∧ second.toNat ≤ 0xBF := toNat_of_within follows
    rw [here, payload]
    omega
  · rename_i notLowest
    have higher : first.toNat ≠ 0xF0 := toNat_ne_of_not_beq notLowest
    split at follows
    · rename_i greatest
      have here : first.toNat = 0xF4 := toNat_eq_of_beq greatest
      have bounds : 0x80 ≤ second.toNat ∧ second.toNat ≤ 0x8F := toNat_of_within follows
      rw [here, payload]
      omega
    · rename_i others
      have here : first.toNat ≠ 0xF4 := toNat_ne_of_not_beq others
      omega

theorem takeThree_ne_zero (least : 0xE0 ≤ first.toNat) (most : first.toNat ≤ 0xEF) :
    (takeThree first rest).1 ≠ some '\x00' := by
  match rest with
  | [] => exact nofun
  | [second] =>
    rw [takeThree]
    split <;> exact nofun
  | second :: third :: others =>
    rw [takeThree]
    split
    · rename_i follows
      split
      · have small := payload_lt third
        have bounds := secondOfThree_bounds least most follows
        have valid : ((first.toNat % 16 * 64 + payload second) * 64 + payload third).isValidChar :=
          bounds.2.imp (by omega) (by have := payload_lt second; omega)
        exact fun same => ofNat_ne_zero (by omega) valid (Option.some.inj same)
      · exact nofun
    · exact nofun

theorem takeFour_ne_zero (least : 0xF0 ≤ first.toNat) (most : first.toNat ≤ 0xF4) :
    (takeFour first rest).1 ≠ some '\x00' := by
  match rest with
  | [] => exact nofun
  | [second] =>
    rw [takeFour]
    split <;> exact nofun
  | [second, third] =>
    rw [takeFour]
    repeat' split
    all_goals exact nofun
  | second :: third :: fourth :: others =>
    rw [takeFour]
    split
    · rename_i follows
      split
      · split
        · have small := payload_lt third
          have last := payload_lt fourth
          have bounds := secondOfFour_bounds least most follows
          have valid : (((first.toNat % 8 * 64 + payload second) * 64 + payload third) * 64
              + payload fourth).isValidChar := .inr (by omega)
          exact fun same => ofNat_ne_zero (by omega) valid (Option.some.inj same)
        · exact nofun
      · exact nofun
    · exact nofun

/-- A zero character that is read is a zero byte. -/
theorem eq_zero_of_takeOne (read : (takeOne first rest).1 = some '\x00') : first = 0 := by
  unfold takeOne at read
  split at read
  · rename_i single
    have small : first.toNat < 0x80 := UInt8.lt_iff_toNat_lt.mp single
    refine Decidable.byContradiction fun other => ?_
    have positive : 0 < first.toNat :=
      Nat.pos_of_ne_zero fun same => other (UInt8.toNat_inj.mp same)
    exact ofNat_ne_zero positive (.inl (by omega)) (Option.some.inj read)
  · split at read
    · rename_i two
      have bounds := toNat_of_within two
      exact absurd read (takeTwo_ne_zero bounds.1 bounds.2)
    · split at read
      · rename_i three
        have bounds := toNat_of_within three
        exact absurd read (takeThree_ne_zero bounds.1 bounds.2)
      · split at read
        · rename_i four
          have bounds := toNat_of_within four
          exact absurd read (takeFour_ne_zero bounds.1 bounds.2)
        · cases read

/-- Bytes that are left behind a character are among those that followed its first one. -/
theorem mem_of_mem_takeOne {byte : UInt8} (left : byte ∈ (takeOne first rest).2) : byte ∈ rest := by
  have suffix : (takeOne first rest).2 <:+ rest := by
    unfold takeOne takeTwo takeThree takeFour
    repeat' split
    all_goals simp [List.suffix_cons_iff]
  exact suffix.mem left

/-- The zero character is read from bytes without a zero byte nowhere. -/
theorem zero_not_mem_decode {bytes : Bytes} (free : 0 ∉ bytes) : some '\x00' ∉ decode bytes := by
  fun_induction decode bytes with
  | case1 => exact List.not_mem_nil
  | case2 first rest inductionHypothesis =>
    obtain ⟨here, later⟩ : 0 ≠ first ∧ 0 ∉ rest := by simpa using free
    rw [List.mem_cons, not_or]
    exact ⟨fun read => here (eq_zero_of_takeOne read.symm).symm,
      inductionHypothesis fun left => later (mem_of_mem_takeOne left)⟩

/-! ### Pieces -/

/-- No text of bytes without a zero byte has a zero character. -/
theorem zero_not_mem_lossy {bytes : Bytes} (free : 0 ∉ bytes) : '\x00' ∉ (lossy bytes).toList := by
  rw [lossy, String.toList_ofList, lossyCharacters, List.mem_map]
  rintro ⟨read, member, same⟩
  cases read with
  | none => exact absurd same (by decide)
  | some character =>
    rw [Option.getD_some] at same
    exact zero_not_mem_decode free (same ▸ member)

theorem lossy_append_zero (front rest : Bytes) :
    lossy (front ++ 0 :: rest) = lossy front ++ "\x00" ++ lossy rest := by
  rw [← String.toList_inj]
  simp only [lossy, lossyCharacters, decode_append_zero, String.toList_append, String.toList_ofList,
    List.map_append, List.map_cons, Option.getD_some, List.append_assoc]
  rfl

/-- Cutting the text of bytes is cutting the bytes and decoding the pieces. -/
theorem pieces_lossy (bytes : Bytes) :
    pieces '\x00' (lossy bytes) = (bytes.splitOn 0).map lossy := by
  by_cases member : 0 ∈ bytes
  · obtain ⟨front, rest, rfl, free⟩ := List.eq_append_cons_of_mem member
    have mark : "\x00".toList = ['\x00'] := rfl
    calc pieces '\x00' (lossy (front ++ 0 :: rest))
        = pieces '\x00' (lossy front) ++ pieces '\x00' (lossy rest) := by
          rw [lossy_append_zero, pieces_append "\x00" mark]
      _ = lossy front :: (rest.splitOn 0).map lossy := by
          rw [pieces_of_not_mem (zero_not_mem_lossy free), pieces_lossy rest]
          rfl
      _ = ((front ++ 0 :: rest).splitOn 0).map lossy := by
          rw [List.splitOn_append_cons_self_of_not_mem free, List.map_cons]
  · rw [pieces_of_not_mem (zero_not_mem_lossy member), List.splitOn_eq_singleton member]
    rfl
  termination_by bytes.length

/-- The text of bytes is empty only where there are none. -/
theorem lossy_eq_empty_iff {bytes : Bytes} : lossy bytes = "" ↔ bytes = [] := by
  cases bytes with
  | nil => simp [lossy, lossyCharacters]
  | cons first rest => simp [lossy, lossyCharacters, decode_cons, ← String.toList_inj]

end Utf8

/-- The first piece of bytes is what stands before the first zero byte. -/
theorem exists_splitOn_eq (bytes : Bytes) :
    ∃ others, bytes.splitOn 0 = bytes.takeWhile (· ≠ 0) :: others := by
  have kept {front : Bytes} (free : 0 ∉ front) : ∀ byte ∈ front, decide (byte ≠ 0) = true :=
    fun byte member => decide_eq_true fun same => free (same ▸ member)
  by_cases member : 0 ∈ bytes
  · obtain ⟨front, rest, rfl, free⟩ := List.eq_append_cons_of_mem member
    refine ⟨rest.splitOn 0, ?_⟩
    rw [List.splitOn_append_cons_self_of_not_mem free, List.takeWhile_append_of_pos (kept free),
      List.takeWhile_cons_of_neg (by decide), List.append_nil]
  · refine ⟨[], ?_⟩
    rw [List.splitOn_eq_singleton member, List.takeWhile_eq_self_iff.mpr (kept member)]

namespace RunningProcess

/-- What is to be said of the process with a command line. -/
structure DecodesArguments (pid : Nat) (bytes : Bytes) : Prop where
  /-- There is none exactly where nothing stands before the first zero byte. -/
  none_iff : ofCommandLine pid bytes = none ↔ bytes.takeWhile (· ≠ 0) = []
  /-- Otherwise its command are the bytes before the first zero byte, and its arguments the pieces
  behind, each decoded for itself. -/
  process : bytes.takeWhile (· ≠ 0) ≠ [] → ofCommandLine pid bytes =
    some ⟨pid, Utf8.lossy (bytes.takeWhile (· ≠ 0)),
      String.join ((bytes.splitOn 0).tail.map Utf8.lossy)⟩
  /-- What breaks off before a zero byte takes neither that nor a byte behind it. -/
  boundary : ∀ argument rest, bytes = argument ++ 0 :: rest →
    Utf8.decode bytes = Utf8.decode argument ++ some '\x00' :: Utf8.decode rest

/-- A command line is decoded argument by argument, whatever its bytes are. -/
theorem decodesArguments (pid : Nat) (bytes : Bytes) : DecodesArguments pid bytes := by
  obtain ⟨others, cut⟩ := exists_splitOn_eq bytes
  have read : ofCommandLine pid bytes =
      if bytes.takeWhile (· ≠ 0) = [] then none
      else some ⟨pid, Utf8.lossy (bytes.takeWhile (· ≠ 0)),
        String.join ((bytes.splitOn 0).tail.map Utf8.lossy)⟩ := by
    rw [ofCommandLine, Utf8.pieces_lossy, cut, List.map_cons]
    simp only [Utf8.lossy_eq_empty_iff, List.tail_cons]
  refine ⟨?_, fun nonempty => by rw [read, if_neg nonempty], ?_⟩
  · rw [read]
    split <;> simp_all
  · rintro argument rest rfl
    exact Utf8.decode_append_zero rest argument

/-- The first two bytes of a character of three are the end of an argument. -/
example : ofCommandLine 7 [0x61, 0, 0xE2, 0x82, 0, 0xAC] =
    some ⟨7, "a", "\uFFFD\uFFFD"⟩ := by
  decide +kernel

end RunningProcess

end Telemetry
