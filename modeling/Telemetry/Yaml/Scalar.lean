/-
This file reads the scalars of YAML: plain ones, quoted ones, and blocks.

A plain or a quoted scalar may go over several lines. Between two of its words a gap without a line
end is kept as it is, and the blanks beside line ends are dropped: a single line end becomes a
space, and of several ones the first is dropped. Blocks keep their lines or fold them, but lines
that begin with a blank are not folded.
-/

import Telemetry.Yaml.Glyph

namespace Telemetry

namespace Yaml

/-! ### Gaps between words -/

/-- What was read between two words: blanks alone, or line ends with blanks beside them. The first
line end is missing when it was escaped. -/
inductive Gap where
  | blanks (kept : List Char)
  | breaks (first : Option Char) (others : List Char)
  deriving DecidableEq, Repr

namespace Gap

/-- No gap. -/
def empty : Gap := .blanks []

/-- A gap extended by a blank or a line end. -/
def add (gap : Gap) (glyph : Glyph) : Gap :=
  match gap with
  | .blanks kept =>
    if glyph.isBreak then .breaks (some glyph.character) []
    else .blanks (kept ++ [glyph.character])
  | .breaks first others =>
    if glyph.isBreak then .breaks first (others ++ [glyph.character]) else gap

/-- Whether a line ends in the gap. -/
def hasBreak : Gap → Bool
  | .blanks _ => false
  | .breaks _ _ => true

/-- What stands in the scalar for the gap. -/
def text : Gap → List Char
  | .blanks kept => kept
  | .breaks (some '\n') [] => [' ']
  | .breaks (some '\n') others => others
  | .breaks first others => first.toList ++ others

end Gap

/-- Text, and what follows after it was read. -/
abbrev Read := List Char × List Glyph

/-- A text with some text before it. -/
def Read.after (before : List Char) (read : Read) : Read := (before ++ read.1, read.2)

/-! ### Plain scalars -/

/-- A plain scalar, whether a line ended after its last word, and what follows. -/
structure PlainRead where
  text : List Char
  endsLine : Bool
  rest : List Glyph
  deriving DecidableEq, Repr

/-- Whether a plain scalar ends before a character that follows a gap, where its lines have to be
indented to the column `least` at least. -/
def endsPlainAfterGap (inFlow : Bool) (least : Nat) (glyph : Glyph) (rest : List Glyph) : Bool :=
  (!inFlow && glyph.column < least) || isDocumentMark (glyph :: rest) || glyph.character == '#'

/-- Whether a plain scalar ends before a character wherever that stands. -/
def endsPlain (inFlow : Bool) (glyph : Glyph) (rest : List Glyph) : Bool :=
  (glyph.character == ':' && endsWord rest) || (inFlow && glyph.isOneOf ",[]\x7b\x7d")

/-- Whether a colon that a plain scalar in a flow collection must not have stands here. -/
def isStrayColon (inFlow : Bool) (glyph : Glyph) (rest : List Glyph) : Bool :=
  match rest with
  | [] => false
  | next :: _ => inFlow && glyph.character == ':' && next.isOneOf ",?[]\x7b\x7d"

/-- Reads on in a plain scalar after a gap. A tabulator may not stand in the indentation. -/
def plainFrom (inFlow : Bool) (least : Nat) (gap : Gap) : List Glyph → Option PlainRead
  | [] => some ⟨[], gap.hasBreak, []⟩
  | glyph :: rest =>
    if glyph.isBreak then plainFrom inFlow least (gap.add glyph) rest
    else if glyph.isBlank then
      if gap.hasBreak && glyph.column < least && glyph.character == '\t' then none
      else plainFrom inFlow least (gap.add glyph) rest
    else if gap ≠ .empty ∧ endsPlainAfterGap inFlow least glyph rest then
      some ⟨[], gap.hasBreak, glyph :: rest⟩
    else if isStrayColon inFlow glyph rest then none
    else if endsPlain inFlow glyph rest then some ⟨[], gap.hasBreak, glyph :: rest⟩
    else
      (plainFrom inFlow least .empty rest).map fun read =>
        { read with text := gap.text ++ glyph.character :: read.text }

/-- Reads a plain scalar. -/
def plain? (inFlow : Bool) (least : Nat) (text : List Glyph) : Option PlainRead :=
  plainFrom inFlow least .empty text

/-! ### Quoted scalars -/

/-- What a character after a backslash means: a character, or one that is given by a count of
hexadecimal digits. -/
inductive EscapeForm where
  | character (character : Char)
  | digits (count : Nat)
  deriving DecidableEq, Repr

/-- The meaning of a character after a backslash. -/
def escapeForm? : Char → Option EscapeForm
  | '0' => some (.character '\x00')
  | 'a' => some (.character '\x07')
  | 'b' => some (.character '\x08')
  | 't' => some (.character '\t')
  | '\t' => some (.character '\t')
  | 'n' => some (.character '\n')
  | 'v' => some (.character '\x0b')
  | 'f' => some (.character '\x0c')
  | 'r' => some (.character '\r')
  | 'e' => some (.character '\x1b')
  | ' ' => some (.character ' ')
  | '"' => some (.character '"')
  | '/' => some (.character '/')
  | '\\' => some (.character '\\')
  | 'N' => some (.character '\u0085')
  | '_' => some (.character '\u00a0')
  | 'L' => some (.character '\u2028')
  | 'P' => some (.character '\u2029')
  | 'x' => some (.digits 2)
  | 'u' => some (.digits 4)
  | 'U' => some (.digits 8)
  | _ => none

/-- The character that is given by so many digits at the beginning of the text. -/
def codeAt? (count : Nat) (text : List Glyph) : Option Char := do
  let digits := (text.take count).map Glyph.character
  if digits.length = count then characterOf? (← numberIn? 16 digits) else none

/-- Reads on in a scalar in single quotes after a gap. A quote is written twice. -/
def singleQuotedFrom (gap : Gap) : List Glyph → Option Read
  | [] => none
  | glyph :: rest =>
    if isDocumentMark (glyph :: rest) then none
    else if glyph.isBreak || glyph.isBlank then singleQuotedFrom (gap.add glyph) rest
    else if glyph.character == '\'' then
      match rest with
      | [] => some (gap.text, [])
      | next :: after =>
        if next.character == '\'' then
          (singleQuotedFrom .empty after).map (Read.after (gap.text ++ ['\'']))
        else some (gap.text, next :: after)
    else (singleQuotedFrom .empty rest).map (Read.after (gap.text ++ [glyph.character]))

/-- Reads on in a scalar in double quotes after a gap. A backslash at the end of a line keeps the
blanks before it and drops the end of the line. -/
def doubleQuotedFrom (gap : Gap) : List Glyph → Option Read
  | [] => none
  | glyph :: rest =>
    if isDocumentMark (glyph :: rest) then none
    else if glyph.isBreak || glyph.isBlank then doubleQuotedFrom (gap.add glyph) rest
    else if glyph.character == '"' then some (gap.text, rest)
    else if glyph.character == '\\' then
      match rest with
      | [] => none
      | next :: after =>
        if next.isBreak then (doubleQuotedFrom (.breaks none []) after).map (Read.after gap.text)
        else
          match escapeForm? next.character with
          | none => none
          | some (.character character) =>
            (doubleQuotedFrom .empty after).map (Read.after (gap.text ++ [character]))
          | some (.digits count) =>
            match codeAt? count after with
            | none => none
            | some character =>
              (doubleQuotedFrom .empty (after.drop count)).map
                (Read.after (gap.text ++ [character]))
    else (doubleQuotedFrom .empty rest).map (Read.after (gap.text ++ [glyph.character]))
  termination_by text => text.length
  decreasing_by all_goals simp_all; try omega

/-- Reads a scalar whose opening quote was read. -/
def quoted? (double : Bool) (text : List Glyph) : Option Read :=
  if double then doubleQuotedFrom .empty text else singleQuotedFrom .empty text

/-! ### Blocks -/

/-- What becomes of the line ends at the end of a block. -/
inductive Chomping where
  /-- None is kept. -/
  | strip
  /-- One is kept. -/
  | clip
  | keep
  deriving DecidableEq, Repr

/-- The first line of a block: its chomping, and its indentation if that is given. -/
structure BlockHeader where
  chomping : Chomping
  increment : Option Nat
  deriving DecidableEq, Repr

/-- The chomping that a character asks for. -/
def chomping? : Char → Option Chomping
  | '+' => some .keep
  | '-' => some .strip
  | _ => none

/-- Reads the two indicators of a header, which may come in both orders. An indentation of zero is
refused. -/
def blockIndicators (text : List Glyph) : Option (BlockHeader × List Glyph) :=
  match text with
  | [] => some (⟨.clip, none⟩, [])
  | first :: rest =>
    match chomping? first.character, digitValue? first.character with
    | some chomping, _ =>
      match rest with
      | [] => some (⟨chomping, none⟩, [])
      | second :: after =>
        match digitValue? second.character with
        | none => some (⟨chomping, none⟩, rest)
        | some 0 => none
        | some digit => some (⟨chomping, some digit⟩, after)
    | none, some 0 => none
    | none, some digit =>
      match rest with
      | [] => some (⟨.clip, some digit⟩, [])
      | second :: after =>
        match chomping? second.character with
        | none => some (⟨.clip, some digit⟩, rest)
        | some chomping => some (⟨chomping, some digit⟩, after)
    | none, none => some (⟨.clip, none⟩, text)

/-- Reads the rest of a line on which only blanks and a comment may follow. -/
def endOfLine? (text : List Glyph) : Option (List Glyph) :=
  match text.dropWhile Glyph.isBlank with
  | [] => some []
  | glyph :: rest =>
    if glyph.isBreak then some rest
    else if glyph.character == '#' then
      some ((rest.dropWhile fun other => !other.isBreak).drop 1)
    else none

/-- The line ends of empty lines, the deepest column that their spaces reach, and what follows. -/
structure EmptyLines where
  ends : List Char
  deepest : Nat
  rest : List Glyph
  deriving DecidableEq, Repr

/-- Reads empty lines and the indentation of the line after them. A given indentation limits how
many spaces belong to it. A tabulator may not stand in it. -/
def emptyLines (indentation : Option Nat) : List Glyph → Option EmptyLines
  | [] => some ⟨[], 0, []⟩
  | glyph :: rest =>
    let inside := indentation.all fun column => glyph.column < column
    if inside && glyph.character == ' ' then
      (emptyLines indentation rest).map fun lines =>
        { lines with deepest := max lines.deepest (glyph.column + 1) }
    else if inside && glyph.character == '\t' then none
    else if glyph.isBreak then
      (emptyLines indentation rest).map fun lines =>
        { lines with ends := glyph.character :: lines.ends }
    else some ⟨[], 0, glyph :: rest⟩

/-- Empty lines only take away from the text. -/
theorem length_emptyLines_le {indentation : Option Nat} {text : List Glyph} {lines : EmptyLines}
    (found : emptyLines indentation text = some lines) : lines.rest.length ≤ text.length := by
  induction text generalizing lines with
  | nil =>
    simp only [emptyLines, Option.some.injEq] at found
    simp [← found]
  | cons glyph rest inductionHypothesis =>
    simp only [emptyLines] at found
    split at found
    · obtain ⟨later, isLater, rfl⟩ := Option.map_eq_some_iff.mp found
      have shorter := inductionHypothesis isLater
      simp only [List.length_cons]
      omega
    · split at found
      · simp at found
      · split at found
        · obtain ⟨later, isLater, rfl⟩ := Option.map_eq_some_iff.mp found
          have shorter := inductionHypothesis isLater
          simp only [List.length_cons]
          omega
        · simp only [Option.some.injEq] at found
          simp [← found]

/-- A line of a block, with its end if it has one and the ends of the empty lines after it. -/
structure BlockLine where
  text : List Char
  ending : List Char
  emptyEnds : List Char
  deriving DecidableEq, Repr

/-- Whether a line begins with a blank. Such a line is not folded. -/
def BlockLine.startsBlank (line : BlockLine) : Bool :=
  match line.text with
  | character :: _ => character == ' ' || character == '\t'
  | [] => false

/-- Reads the lines with an indentation. -/
def blockLines (indentation : Nat) (text : List Glyph) :
    Option (List BlockLine × List Glyph) :=
  match text with
  | [] => some ([], [])
  | glyph :: rest =>
    if glyph.column ≠ indentation then some ([], glyph :: rest)
    else
      let others := rest.takeWhile fun other => !other.isBreak
      let after := rest.dropWhile fun other => !other.isBreak
      match _found : emptyLines (some indentation) (after.drop 1) with
      | none => none
      | some empties =>
        (blockLines indentation empties.rest).map fun (lines, last) =>
          (⟨(glyph :: others).map Glyph.character, (after.take 1).map Glyph.character,
            empties.ends⟩ :: lines, last)
  termination_by text.length
  decreasing_by
    have shorter := length_emptyLines_le _found
    have dropped : after.length ≤ rest.length := (List.dropWhile_sublist _).length_le
    simp only [List.length_drop, List.length_cons] at shorter ⊢
    omega

/-- What stands between two lines of a block. -/
def BlockLine.separation (folded : Bool) (line next : BlockLine) : List Char :=
  if folded && line.ending == ['\n'] && !line.startsBlank && !next.startsBlank then
    if line.emptyEnds.isEmpty then [' '] else line.emptyEnds
  else line.ending ++ line.emptyEnds

/-- The text of the lines of a block. -/
def joinLines (folded : Bool) (chomping : Chomping) : List BlockLine → List Char
  | [] => []
  | [line] =>
    match chomping with
    | .strip => line.text
    | .clip => line.text ++ line.ending
    | .keep => line.text ++ line.ending ++ line.emptyEnds
  | line :: next :: rest =>
    line.text ++ line.separation folded next ++ joinLines folded chomping (next :: rest)

/-- The text of a block, from the ends of the empty lines before its first line and its lines. -/
def blockText (folded : Bool) (chomping : Chomping) (before : List Char)
    (lines : List BlockLine) : List Char :=
  match lines with
  | [] => if chomping = .keep then before else []
  | _ => before ++ joinLines folded chomping lines

/-- Reads a block whose indicator was read, inside of something that is indented to a column.
Without a given indentation it is that of the first line that is not empty, or deeper where an
empty line has more spaces. -/
def block? (folded : Bool) (parent : Option Nat) (text : List Glyph) : Option Read := do
  let (header, text) ← blockIndicators text
  let text ← endOfLine? text
  let given := header.increment.map fun increment => parent.getD 0 + increment
  let empties ← emptyLines given text
  let indentation := given.getD (max empties.deepest (max 1 ((parent.map (· + 1)).getD 0)))
  let (lines, rest) ← blockLines indentation empties.rest
  return (blockText folded header.chomping empties.ends lines, rest)

end Yaml

end Telemetry
