/-
This file reads bytes as UTF-8.

Reading takes one character at a time. Where the bytes do not start a character, the longest run
of bytes that could have started one is a single fault, and reading goes on behind it. Lossy
decoding writes the replacement character for every fault; strict decoding refuses the bytes when
there is one.
-/

namespace Telemetry

/-- The bytes a program wrote or a file holds. -/
abbrev Bytes := List UInt8

namespace Utf8

/-- Whether a byte may follow the first byte of a character of several bytes. -/
def isContinuation (byte : UInt8) : Bool := 0x80 ≤ byte && byte ≤ 0xBF

/-- The six payload bits of a continuation byte. -/
def payload (byte : UInt8) : Nat := byte.toNat % 64

/-- The second bytes that may follow the first byte of a character of three bytes. The limits
exclude the forms that are too long and the surrogates. -/
def secondOfThree (first second : UInt8) : Bool :=
  if first == 0xE0 then 0xA0 ≤ second && second ≤ 0xBF
  else if first == 0xED then 0x80 ≤ second && second ≤ 0x9F
  else isContinuation second

/-- The second bytes that may follow the first byte of a character of four bytes. The limits
exclude the forms that are too long and the numbers that are no code points. -/
def secondOfFour (first second : UInt8) : Bool :=
  if first == 0xF0 then 0x90 ≤ second && second ≤ 0xBF
  else if first == 0xF4 then 0x80 ≤ second && second ≤ 0x8F
  else isContinuation second

/-- Reads a character of two bytes whose first byte is given. -/
def takeTwo (first : UInt8) : Bytes → Option Char × Bytes
  | second :: rest =>
    if isContinuation second then
      (some (Char.ofNat (first.toNat % 32 * 64 + payload second)), rest)
    else (none, second :: rest)
  | [] => (none, [])

/-- Reads a character of three bytes whose first byte is given. -/
def takeThree (first : UInt8) : Bytes → Option Char × Bytes
  | second :: third :: rest =>
    if secondOfThree first second then
      if isContinuation third then
        (some (Char.ofNat ((first.toNat % 16 * 64 + payload second) * 64 + payload third)), rest)
      else (none, third :: rest)
    else (none, second :: third :: rest)
  | [second] => if secondOfThree first second then (none, []) else (none, [second])
  | [] => (none, [])

/-- Reads a character of four bytes whose first byte is given. -/
def takeFour (first : UInt8) : Bytes → Option Char × Bytes
  | second :: third :: fourth :: rest =>
    if secondOfFour first second then
      if isContinuation third then
        if isContinuation fourth then
          (some (Char.ofNat
            (((first.toNat % 8 * 64 + payload second) * 64 + payload third) * 64
              + payload fourth)), rest)
        else (none, fourth :: rest)
      else (none, third :: fourth :: rest)
    else (none, second :: third :: fourth :: rest)
  | [second, third] =>
    if secondOfFour first second then
      if isContinuation third then (none, []) else (none, [third])
    else (none, [second, third])
  | [second] => if secondOfFour first second then (none, []) else (none, [second])
  | [] => (none, [])

/-- Reads one character, or one fault, behind whose bytes the result goes on. -/
def takeOne (first : UInt8) (rest : Bytes) : Option Char × Bytes :=
  if first < 0x80 then (some (Char.ofNat first.toNat), rest)
  else if 0xC2 ≤ first && first ≤ 0xDF then takeTwo first rest
  else if 0xE0 ≤ first && first ≤ 0xEF then takeThree first rest
  else if 0xF0 ≤ first && first ≤ 0xF4 then takeFour first rest
  else (none, rest)

theorem takeTwo_length_le (first : UInt8) (rest : Bytes) :
    (takeTwo first rest).2.length ≤ rest.length := by
  unfold takeTwo
  split
  · split <;> simp
  · simp

theorem takeThree_length_le (first : UInt8) (rest : Bytes) :
    (takeThree first rest).2.length ≤ rest.length := by
  unfold takeThree
  repeat' split
  all_goals simp
  all_goals omega

theorem takeFour_length_le (first : UInt8) (rest : Bytes) :
    (takeFour first rest).2.length ≤ rest.length := by
  unfold takeFour
  repeat' split
  all_goals simp
  all_goals omega

/-- Reading one character never leaves more bytes than followed the first one. -/
theorem takeOne_length_le (first : UInt8) (rest : Bytes) :
    (takeOne first rest).2.length ≤ rest.length := by
  unfold takeOne
  repeat' split
  · simp
  · exact takeTwo_length_le first rest
  · exact takeThree_length_le first rest
  · exact takeFour_length_le first rest
  · simp

/-- The characters and faults of a sequence of bytes, in order. -/
def decode : Bytes → List (Option Char)
  | [] => []
  | first :: rest => (takeOne first rest).1 :: decode (takeOne first rest).2
  termination_by bytes => bytes.length
  decreasing_by exact Nat.lt_succ_of_le (takeOne_length_le first rest)

@[simp] theorem decode_nil : decode [] = [] := by simp [decode]

theorem decode_cons (first : UInt8) (rest : Bytes) :
    decode (first :: rest) = (takeOne first rest).1 :: decode (takeOne first rest).2 := by
  rw [decode]

/-- The characters of a sequence of bytes, with the replacement character for every fault. -/
def lossyCharacters (bytes : Bytes) : List Char :=
  (decode bytes).map fun read => read.getD '\uFFFD'

/-- The text of a sequence of bytes, with the replacement character for every fault. -/
def lossy (bytes : Bytes) : String := String.ofList (lossyCharacters bytes)

/-- The text of a sequence of bytes that is UTF-8 throughout. -/
def text? (bytes : Bytes) : Option String :=
  ((decode bytes).mapM id).map String.ofList

end Utf8

/-- The bytes of a text in UTF-8. -/
def bytesOf (text : String) : Bytes := text.toUTF8.toList

end Telemetry
