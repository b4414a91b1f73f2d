/-
This file holds the characters of a YAML stream together with their places.

The layout of YAML speaks of lines and columns, so every character carries them. The ways in which
a line may end become one here, the line feed; only the separators of lines and paragraphs stay
what they are, because they also stay in the text of a scalar. A stream with a character that does
not print is refused.
-/

import Telemetry.Text.Integer

namespace Telemetry

namespace Yaml

/-- A character and its place: its line, its column, and how many characters are before it. -/
structure Glyph where
  character : Char
  line : Nat
  column : Nat
  index : Nat
  deriving DecidableEq, Repr

/-- Whether a character may stand in a stream. -/
def isPrintable (character : Char) : Bool :=
  character == '\t' || character == '\n' || character == '\r' ||
    (' ' ≤ character && character ≤ '~') || character == '\u0085' ||
    ('\u00a0' ≤ character && character ≤ '\ufffd') || 0x10000 ≤ character.toNat

/-- What ends a line as a character of the text, if a character ends a line. -/
def lineEnd? (character : Char) : Option Char :=
  if character = '\n' || character = '\r' || character = '\u0085' then some '\n'
  else if character = '\u2028' || character = '\u2029' then some character
  else none

namespace Glyph

/-- A space or a tabulator. -/
def isBlank (glyph : Glyph) : Bool := glyph.character == ' ' || glyph.character == '\t'

/-- The end of a line. -/
def isBreak (glyph : Glyph) : Bool := (lineEnd? glyph.character).isSome

/-- Whether the character is one of some. -/
def isOneOf (glyph : Glyph) (characters : String) : Bool :=
  characters.toList.contains glyph.character

/-- The characters from a place on, with their places. A carriage return before a line feed ends
the line together with it. -/
def place (line column index : Nat) : List Char → List Glyph
  | [] => []
  | '\r' :: '\n' :: rest => ⟨'\n', line, column, index⟩ :: place (line + 1) 0 (index + 2) rest
  | character :: rest =>
    match lineEnd? character with
    | some ending => ⟨ending, line, column, index⟩ :: place (line + 1) 0 (index + 1) rest
    | none => ⟨character, line, column, index⟩ :: place line (column + 1) (index + 1) rest

/-- The characters of a stream. A mark of the byte order at its start does not belong to it. -/
def ofText? (text : String) : Option (List Glyph) :=
  let characters := match text.toList with
    | '\ufeff' :: rest => rest
    | whole => whole
  if characters.all isPrintable then some (place 0 0 0 characters) else none

end Glyph

/-- Whether a word ends here: before a blank, at the end of a line, or at the end of the stream. -/
def endsWord : List Glyph → Bool
  | [] => true
  | glyph :: _ => glyph.isBlank || glyph.isBreak

/-- Whether three times the given character stand at the beginning of a line, as a word. -/
def isMarkOf (character : Char) : List Glyph → Bool
  | first :: second :: third :: rest =>
    first.column == 0 && first.character == character && second.character == character &&
      third.character == character && endsWord rest
  | _ => false

/-- Whether a document begins or ends here. -/
def isDocumentMark (text : List Glyph) : Bool := isMarkOf '-' text || isMarkOf '.' text

end Yaml

end Telemetry
