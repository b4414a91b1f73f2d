/-
This file reads patterns.

A pattern is read part by part. The parts of the present alternative, the alternatives of the
present group and the groups around it are kept on a stack; flags that are set inside a group end
with it. A pattern that cannot be read is refused without a reason, since none is ever reported.
Refused are also a pattern that is nested too deeply and one whose automaton would take too much
room.
-/

import Telemetry.Pattern.Class
import Telemetry.Text.Integer

namespace Telemetry

namespace Pattern

/-! ### Tokens -/

/-- One part of a pattern's text. -/
inductive Token where
  | piece (pattern : Pattern) (height : Nat)
  /-- Opens a group, whose flags may differ from those around it. -/
  | opening (flags : Flags) (name : Option String)
  | closing
  | bar
  | repetition (least : Nat) (most : Option Nat)
  /-- Flags for the rest of the group. -/
  | setting (flags : Flags)
  deriving DecidableEq

/-- One character of a set. -/
def Token.ofSet (flags : Flags) (set : CharSet) : Token := .piece (.one set flags.folding) 0

/-- A character that stands for itself. Where patterns are over bytes, one beyond ASCII has no
case and cannot be given as a byte. -/
def literalToken (flags : Flags) (character : Char) (asByte : Bool) : Option Token :=
  if flags.unicode || character.toNat < 128 then some (Token.ofSet flags (.single character))
  else if asByte || flags.insensitive then none
  else some (.piece (.one (.single character) .exact) 0)

/-- What an escape stands for outside a class. -/
def escapeToken (flags : Flags) : Escape → Option Token
  | .literal character asByte => literalToken flags character asByte
  | .assert assertion => some (.piece (.assert assertion) 0)
  | .set set =>
    if flags.unicode || set.isAscii .exact then some (Token.ofSet flags set) else none

/-- The dot: any character but those that end a line. -/
def dotToken (flags : Flags) : Option Token :=
  if !flags.unicode then none
  else if flags.dotAll then some (.piece (.one .all .exact) 0)
  else if flags.crlf then
    some (.piece (.one (.complement (.union (.single '\r') (.single '\n'))) .exact) 0)
  else some (.piece (.one (.complement (.single '\n')) .exact) 0)

/-- The assertion at the start of a line, or of the text. -/
def startAssertion (flags : Flags) : Assertion :=
  if flags.multiLine then .lineStart flags.crlf else .textStart

/-- The assertion at the end of a line, or of the text. -/
def endAssertion (flags : Flags) : Assertion :=
  if flags.multiLine then .lineEnd flags.crlf else .textEnd

/-! ### Groups -/

/-- Whether a character may begin the name of a group. -/
def beginsName (character : Char) : Bool :=
  character == '_' || alphabeticTables.any fun spans => Span.listed spans character.toNat

/-- Whether a character may continue the name of a group. -/
def continuesName (character : Char) : Bool :=
  beginsName character || character == '.' || character == '[' || character == ']' ||
    (categoriesOf 'n').any fun spans => Span.listed spans character.toNat

/-- Reads the name of a group, up to the bracket that closes it. -/
def readName (text : List Char) : Option (String × List Char) :=
  match splitAtFirst '>' text with
  | none => none
  | some (name, rest) =>
    match name with
    | [] => none
    | first :: others =>
      if beginsName first && others.all continuesName then some (String.ofList name, rest)
      else none

/-- The flags with one of them switched. -/
def Flags.switch (flags : Flags) (on : Bool) : Char → Option Flags
  | 'i' => some { flags with insensitive := on }
  | 'm' => some { flags with multiLine := on }
  | 's' => some { flags with dotAll := on }
  | 'R' => some { flags with crlf := on }
  | 'u' => some { flags with unicode := on }
  | 'x' => some { flags with expanded := on }
  | 'U' => some flags
  | _ => none

/-- Reads flags up to the colon or the bracket that ends them. Each may be given once, and so may
the minus sign, behind which flags are switched off and at least one must stand. -/
def readFlags (flags : Flags) (seen : List Char) : List Char → Option (Flags × Char × List Char)
  | [] => none
  | character :: rest =>
    if character == ':' || character == ')' then
      if seen.head? = some '-' || (character == ')' && seen.isEmpty) then none
      else some (flags, character, rest)
    else if seen.contains character then none
    else if character == '-' then readFlags flags ('-' :: seen) rest
    else
      match flags.switch (!seen.contains '-') character with
      | none => none
      | some switched => readFlags switched (character :: seen) rest

/-- Reads the beginning of a group, from behind its bracket: flags for the rest of the group around
it, or a group with a name, with flags, or with neither. Groups that look around are refused, since
what follows their question mark is no flag. -/
def readOpening (flags : Flags) (text : List Char) : Option (Token × List Char) :=
  match flags.skip text with
  | '?' :: 'P' :: '<' :: rest =>
    (readName rest).map fun (name, rest) => (.opening flags (some name), rest)
  | '?' :: '<' :: rest =>
    (readName rest).map fun (name, rest) => (.opening flags (some name), rest)
  | '?' :: rest =>
    match readFlags flags [] rest with
    | none => none
    | some (changed, ')', rest) => some (.setting changed, rest)
    | some (changed, _, rest) => some (.opening changed none, rest)
  | rest => some (.opening flags none, rest)

/-! ### Repetitions -/

/-- Reads a number, with blanks around it that do not count. It must fit into 32 bits. -/
def readCount (flags : Flags) (text : List Char) : Option (Nat × List Char) :=
  let text := text.dropWhile isBlank
  let counted := if flags.expanded then text.filter fun character => !isBlank character else text
  match naturalOf? (counted.takeWhile Char.isDigit) with
  | none => none
  | some number =>
    if number < UInt32.size then
      some (number, (text.dropWhile fun character =>
        character.isDigit || (flags.expanded && isBlank character)).dropWhile isBlank)
    else none

/-- Reads what follows the number of a count in braces. -/
def readLimit (flags : Flags) (least : Nat) (text : List Char) : Option (Token × List Char) :=
  match text with
  | '\x7d' :: rest => some (.repetition least (some least), rest)
  | ',' :: rest =>
    match flags.skip rest with
    | '\x7d' :: rest => some (.repetition least none, rest)
    | rest =>
      match readCount flags rest with
      | some (most, '\x7d' :: rest) =>
        if least ≤ most then some (.repetition least (some most), rest) else none
      | _ => none
  | _ => none

/-- A repetition with the question mark that may follow it. Which match is preferred plays no
part. -/
def withoutPreference (token : Token) : List Char → Token × List Char
  | '?' :: rest => (token, rest)
  | rest => (token, rest)

/-- Reads a count in braces, from behind the opening one. -/
def readBraces (flags : Flags) (text : List Char) : Option (Token × List Char) :=
  match readCount flags (flags.skip text) with
  | none => none
  | some (least, rest) =>
    (readLimit flags least rest).map fun (token, rest) => withoutPreference token (flags.skip rest)

/-- Reads one token of a text that is not empty. -/
def readToken (flags : Flags) (character : Char) (rest : List Char) : Option (Token × List Char) :=
  match character with
  | '(' => readOpening flags rest
  | ')' => some (.closing, rest)
  | '|' => some (.bar, rest)
  | '[' =>
    (readBrackets flags rest).map fun (nested, rest) =>
      (.piece (.one nested.set flags.folding) nested.height, rest)
  | '?' => some (withoutPreference (.repetition 0 (some 1)) rest)
  | '*' => some (withoutPreference (.repetition 0 none) rest)
  | '+' => some (withoutPreference (.repetition 1 none) rest)
  | '\x7b' => readBraces flags rest
  | '.' => (dotToken flags).map (·, rest)
  | '^' => some (.piece (.assert (startAssertion flags)) 0, rest)
  | '$' => some (.piece (.assert (endAssertion flags)) 0, rest)
  | '\\' => do
    let (escape, rest) ← readEscape flags rest
    pure (← escapeToken flags escape, rest)
  | other => (literalToken flags other false).map (·, rest)

/-! ### Parts -/

/-- A part of an alternative. -/
structure Part where
  pattern : Pattern
  /-- How deep the part is nested in itself. -/
  height : Nat
  /-- A setting of flags, and an alternative without parts, cannot be repeated. -/
  repeatable : Bool

/-- The parts of an alternative as one part. The latest part comes first. -/
def joined : List Part → Part
  | [] => ⟨.empty, 0, false⟩
  | [part] => part
  | parts =>
    ⟨parts.foldl (fun behind part => part.pattern.andThen behind) .empty,
      parts.foldl (fun height part => max height part.height) 0 + 1, true⟩

/-- Alternatives as one part. The latest one comes first. -/
def chosen : List Part → Part
  | [] => ⟨.empty, 0, false⟩
  | [part] => part
  | last :: parts =>
    ⟨parts.foldl (fun others part => .either part.pattern others) last.pattern,
      parts.foldl (fun height part => max height part.height) last.height + 1, true⟩

/-- A group that is not closed yet. -/
structure OpenGroup where
  /-- The flags in force. -/
  flags : Flags
  /-- The alternatives that are complete, latest first. -/
  alternatives : List Part
  /-- The parts of the present alternative, latest first. -/
  parts : List Part

/-- All that was read of a group. -/
def OpenGroup.total (group : OpenGroup) : Part :=
  chosen (joined group.parts :: group.alternatives)

/-- How far a pattern is read: the innermost group, the groups around it, and the names given to
groups. -/
structure Progress where
  group : OpenGroup
  outer : List OpenGroup
  names : List String

namespace Progress

/-- The state before the first token. -/
def start : Progress := ⟨⟨Flags.initial, [], []⟩, [], []⟩

/-- One more part of the present alternative. -/
def addPart (progress : Progress) (part : Part) : Progress :=
  { progress with group := { progress.group with parts := part :: progress.group.parts } }

/-- Takes one token. -/
def take (progress : Progress) : Token → Option Progress
  | .piece pattern height => some (progress.addPart ⟨pattern, height, true⟩)
  | .opening flags name =>
    let opened (names : List String) : Progress :=
      ⟨⟨flags, [], []⟩, progress.group :: progress.outer, names⟩
    match name with
    | none => some (opened progress.names)
    | some name =>
      if progress.names.contains name then none else some (opened (name :: progress.names))
  | .closing =>
    match progress.outer with
    | [] => none
    | next :: outer =>
      let part := progress.group.total
      some (({ progress with group := next, outer := outer } : Progress).addPart
        ⟨part.pattern, part.height + 1, true⟩)
  | .bar =>
    let group := progress.group
    some { progress with group :=
      { group with alternatives := joined group.parts :: group.alternatives, parts := [] } }
  | .repetition least most =>
    match progress.group.parts with
    | [] => none
    | part :: parts =>
      if part.repeatable then
        some { progress with group := { progress.group with
          parts := ⟨.repeated part.pattern least most, part.height + 1, true⟩ :: parts } }
      else none
  | .setting flags =>
    some { progress with group := { progress.group with
      flags := flags, parts := ⟨.empty, 0, false⟩ :: progress.group.parts } }

/-- Reads tokens to the end of the text. Every token takes a character, so as many steps as there
are characters are enough. -/
def readAll : Nat → Progress → List Char → Option Progress
  | 0, _, _ => none
  | steps + 1, progress, text =>
    match progress.group.flags.skip text with
    | [] => some progress
    | character :: rest =>
      match readToken progress.group.flags character rest with
      | none => none
      | some (token, rest) =>
        match progress.take token with
        | none => none
        | some progress => readAll steps progress rest

end Progress

/-- How deep a pattern may be nested. -/
def heightLimit : Nat := 250

/-- How heavy a pattern may be: ten mebibytes in units of thirty-two bytes. -/
def weightLimit : Nat := 327680

/-- Reads a pattern. -/
def ofText? (text : String) : Option Pattern :=
  match Progress.readAll (text.length + 1) Progress.start text.toList with
  | none => none
  | some progress =>
    let part := progress.group.total
    if progress.outer.isEmpty && part.height ≤ heightLimit && part.pattern.weight ≤ weightLimit then
      some part.pattern
    else none

end Pattern

end Telemetry
