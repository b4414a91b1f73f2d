/-
This file holds the tokens of YAML, and reads those that begin with an indicator of their own:
anchors and aliases, tags, and directives.

Of a tag only the handle is kept, because tags do not change what a document means here; a handle
that was not declared is nevertheless an error.
-/

import Telemetry.Yaml.Scalar

namespace Telemetry

namespace Yaml

/-- A directive before a document. -/
inductive Directive where
  | version (major minor : Nat)
  /-- A handle is declared for tags. -/
  | handle (name : String)
  deriving DecidableEq, Repr

/-- A token. The beginnings and ends of what is shown by indentation alone are tokens as well. -/
inductive Token where
  | directive (directive : Directive)
  | documentStart
  | documentEnd
  | blockSequence
  | blockMapping
  | blockEnd
  | flowSequence
  | flowSequenceEnd
  | flowMapping
  | flowMappingEnd
  /-- The hyphen before an entry of a block sequence. -/
  | entry
  /-- The comma in a flow collection. -/
  | separator
  | key
  | value
  | alias (name : String)
  | anchor (name : String)
  | tag (handle : String)
  | scalar (isPlain : Bool) (text : String)
  deriving DecidableEq, Repr

/-! ### Names -/

/-- Whether a character may stand in the name of an anchor, a directive or a handle. -/
def isNameCharacter (character : Char) : Bool :=
  ('a' ≤ character && character ≤ 'z') || ('A' ≤ character && character ≤ 'Z') ||
    ('0' ≤ character && character ≤ '9') || character == '_' || character == '-'

/-- The longest beginning whose characters satisfy a condition, and what follows. -/
def takeText (accepts : Char → Bool) (text : List Glyph) : Read :=
  ((text.takeWhile fun glyph => accepts glyph.character).map Glyph.character,
    text.dropWhile fun glyph => accepts glyph.character)

/-- Reads the name of an anchor, after which a word ends or an indicator follows. -/
def anchorName? (text : List Glyph) : Option (String × List Glyph) :=
  let (name, rest) := takeText isNameCharacter text
  let ends := match rest with
    | [] => true
    | glyph :: _ => endsWord rest || glyph.isOneOf "?:,]\x7d%@\x60"
  if name.isEmpty || !ends then none else some (String.ofList name, rest)

/-! ### Tags -/

/-- Whether a character may stand in a tag. In one between angle brackets there are some more. -/
def isTagCharacter (bracketed : Bool) (character : Char) : Bool :=
  isNameCharacter character || ";/?:@&=+$.!~*'()".toList.contains character ||
    (bracketed && ",[]".toList.contains character)

/-- Reads the characters of a tag, among them bytes in hexadecimal after a percent sign. -/
def tagText (bracketed : Bool) : List Glyph → Option Read
  | [] => some ([], [])
  | glyph :: rest =>
    if isTagCharacter bracketed glyph.character then
      (tagText bracketed rest).map (Read.after [glyph.character])
    else if glyph.character == '%' then
      match rest with
      | first :: second :: after =>
        match hexValue? first.character, hexValue? second.character with
        | some _, some _ =>
          (tagText bracketed after).map
            (Read.after ['%', first.character, second.character])
        | _, _ => none
      | _ => none
    else some ([], glyph :: rest)

/-- Reads a handle after its exclamation mark, up to a second one if there is one. -/
def handle (text : List Glyph) : Read :=
  let (name, rest) := takeText isNameCharacter text
  match rest with
  | [] => ('!' :: name, [])
  | glyph :: after =>
    if glyph.character == '!' then ('!' :: name ++ ['!'], after) else ('!' :: name, rest)

/-- Whether a handle has its second exclamation mark. -/
def isFullHandle (name : List Char) : Bool := 1 < name.length && name.getLast? == some '!'

/-- Reads a tag after its exclamation mark, down to its handle. A tag between angle brackets has the
empty one, and so has the exclamation mark alone. -/
def tagHandle? (inFlow : Bool) (text : List Glyph) : Option (String × List Glyph) := do
  let (name, rest) ← (match text with
    | [] => some (['!'], [])
    | glyph :: after =>
      if glyph.character == '<' then do
        let (words, rest) ← tagText true after
        match words, rest with
        | _ :: _, closing :: rest => if closing.character == '>' then some ([], rest) else none
        | _, _ => none
      else do
        let (name, rest) := handle text
        let (suffix, rest) ← tagText false rest
        if isFullHandle name then if suffix.isEmpty then none else some (name, rest)
        else if name.length = 1 && suffix.isEmpty then some ([], rest)
        else some (['!'], rest) : Option Read)
  let ends := match rest with
    | [] => true
    | glyph :: _ => endsWord rest || (inFlow && glyph.character == ',')
  if ends then some (String.ofList name, rest) else none

/-! ### Directives -/

/-- Reads a number of at most nine digits. -/
def versionNumber? (text : List Glyph) : Option (Nat × List Glyph) := do
  let (digits, rest) := takeText (fun character => (digitValue? character).isSome) text
  if digits.length ≤ 9 then return (← naturalOf? digits, rest) else none

/-- Reads what a directive with a known name says. -/
def directiveBody? (name : String) (text : List Glyph) : Option (Directive × List Glyph) := do
  let text := text.dropWhile Glyph.isBlank
  match name with
  | "YAML" =>
    let (major, text) ← versionNumber? text
    match text with
    | [] => none
    | point :: text =>
      let (minor, text) ← versionNumber? text
      if point.character == '.' then some (.version major minor, text) else none
  | "TAG" =>
    match text with
    | [] => none
    | mark :: text =>
      let (name, rest) := handle text
      let blanks := rest.takeWhile Glyph.isBlank
      let (words, rest) ← tagText true (rest.dropWhile Glyph.isBlank)
      if mark.character == '!' && (name == ['!'] || isFullHandle name) && !blanks.isEmpty &&
          !words.isEmpty && endsWord rest then
        some (.handle (String.ofList name), rest)
      else none
  | _ => none

/-- Reads a directive after its percent sign, with the rest of its line. -/
def directive? (text : List Glyph) : Option (Directive × List Glyph) := do
  let (name, rest) := takeText isNameCharacter text
  if name.isEmpty || !endsWord rest then none
  else
    let (directive, rest) ← directiveBody? (String.ofList name) rest
    return (directive, ← endOfLine? rest)

end Yaml

end Telemetry
