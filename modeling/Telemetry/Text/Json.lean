/-
This file writes text and objects in JSON.

A string is put in double quotes. Quotes, backslashes and the control characters are escaped, five
of the latter by a letter and the others by their code point; every other character stands for
itself. So the encoded text never holds a line feed.
-/

namespace Telemetry

namespace Json

/-- The lower-case hexadecimal digits of a number below 256, always two of them. -/
def hexPair (number : Nat) : List Char :=
  [Nat.digitChar (number / 16 % 16), Nat.digitChar (number % 16)]

/-- What is written for one character of a string. -/
def escaped (character : Char) : List Char :=
  match character with
  | '"' => ['\\', '"']
  | '\\' => ['\\', '\\']
  | '\x08' => ['\\', 'b']
  | '\t' => ['\\', 't']
  | '\n' => ['\\', 'n']
  | '\x0c' => ['\\', 'f']
  | '\r' => ['\\', 'r']
  | other =>
    if other.toNat < 32 then ['\\', 'u', '0', '0'] ++ hexPair other.toNat else [other]

/-- A string in JSON. -/
def string (text : String) : String :=
  String.ofList ('"' :: text.toList.flatMap escaped ++ ['"'])

/-- One member of an object whose value is written already. -/
def member (key value : String) : String := string key ++ ":" ++ value

/-- An object of members that are written already. -/
def object (members : List String) : String := "\x7b" ++ String.intercalate "," members ++ "\x7d"

end Json

end Telemetry
