/-
This file reads what follows a backslash in a pattern: a character by its code point or by a letter,
a class of characters, or an assertion.

A backslash before an ASCII character that is neither a letter nor a digit stands for that
character, the two angle brackets apart. A digit would refer back to what a group matched, which
patterns cannot do, so it is refused, and so is every letter without a meaning.
-/

import Telemetry.Pattern.Basic
import Telemetry.Text.Integer

namespace Telemetry

namespace Pattern

/-- What the flags in force mean for the reading of a pattern. -/
structure Flags where
  /-- Case does not matter. -/
  insensitive : Bool
  /-- The line assertions hold at every line of the text. -/
  multiLine : Bool
  /-- The dot takes line feeds as well. -/
  dotAll : Bool
  /-- Lines may end in a carriage return. -/
  crlf : Bool
  /-- Characters are those of Unicode, else of ASCII. -/
  unicode : Bool
  /-- Blanks and comments between the parts of a pattern do not count. -/
  expanded : Bool
  deriving DecidableEq, Repr

/-- The flags at the start of a pattern. -/
def Flags.initial : Flags := ⟨false, false, false, false, true, false⟩

/-- The folding of the sets that are read under these flags. -/
def Flags.folding (flags : Flags) : Folding :=
  if flags.insensitive then (if flags.unicode then .unicode else .ascii) else .exact

/-- A pattern behind blanks and comments. A comment goes from a hash sign to the end of the line. -/
def withoutBlanks (inComment : Bool) : List Char → List Char
  | [] => []
  | character :: rest =>
    if inComment then withoutBlanks (character != '\n') rest
    else if isBlank character then withoutBlanks false rest
    else if character == '#' then withoutBlanks true rest
    else character :: rest

/-- A pattern behind the blanks and comments that do not count. -/
def Flags.skip (flags : Flags) (rest : List Char) : List Char :=
  if flags.expanded then withoutBlanks false rest else rest

/-- What an escape stands for. -/
inductive Escape where
  /-- One character. It may be given as a byte, by two hexadecimal digits. -/
  | literal (character : Char) (asByte : Bool)
  | set (set : CharSet)
  | assert (assertion : Assertion)
  deriving DecidableEq, Repr

/-! ### Code points -/

/-- Reads exactly `count` hexadecimal digits. -/
def readDigits (flags : Flags) (value : Nat) : Nat → List Char → Option (Nat × List Char)
  | 0, rest => some (value, rest)
  | _ + 1, [] => none
  | count + 1, character :: rest =>
    match hexValue? character with
    | none => none
    | some digit => readDigits flags (16 * value + digit) count (flags.skip rest)

/-- The value of hexadecimal digits, of which there must be one. Blanks between them do not count
in an expanded pattern. -/
def digitsValue? (flags : Flags) (digits : List Char) : Option Nat :=
  let kept := if flags.expanded then digits.filter fun digit => !isBlank digit else digits
  if kept.isEmpty then none
  else kept.foldlM (fun value digit => (hexValue? digit).map (16 * value + ·)) 0

/-- Reads a character by its code point: in braces, or with `count` digits. -/
def readCodePoint (flags : Flags) (count : Nat) (text : List Char) :
    Option (Escape × List Char) :=
  match flags.skip text with
  | '\x7b' :: rest => do
    let (digits, after) ← splitAtFirst '\x7d' rest
    let character ← characterOf? (← digitsValue? flags digits)
    pure (.literal character false, after)
  | rest => do
    let (code, after) ← readDigits flags 0 count rest
    let character ← characterOf? code
    pure (.literal character (count == 2), after)

/-! ### Classes -/

/-- The set of a general category, or of a group of them. -/
def categorySet? (name : String) : Option CharSet :=
  match name with
  | "any" => some .all
  | "assigned" => some (CharSet.ofTables assignedTables)
  | "ascii" => some (.span 0 127)
  | "cn" | "unassigned" => some (.complement (CharSet.ofTables assignedTables))
  | "c" | "other" =>
    some (.union (CharSet.ofTables (categoriesOf 'c'))
      (.complement (CharSet.ofTables assignedTables)))
  | _ => (categoryTables? name).map CharSet.ofTables

/-- The set of a script. -/
def scriptSet? (name : String) : Option CharSet := (scriptSpans? name).map .table

/-- The set that a name alone stands for. -/
def propertySet? (name : String) : Option CharSet :=
  ((binaryProperty? name).map CharSet.ofTables).or ((categorySet? name).or (scriptSet? name))

/-- The set of the characters whose property has a value. -/
def propertyValueSet? (property value : String) : Option CharSet :=
  match propertyName property with
  | "generalcategory" | "gc" => categorySet? (propertyName value)
  | "script" | "sc" => scriptSet? (propertyName value)
  | _ => none

/-- The text before and after the first occurrence of a block. -/
def splitAtBlock (block : List Char) : List Char → Option (List Char × List Char)
  | [] => none
  | character :: rest =>
    if block.isPrefixOf (character :: rest) then some ([], (character :: rest).drop block.length)
    else (splitAtBlock block rest).map fun (before, after) => (character :: before, after)

/-- The set that the text in the braces of a class stands for. -/
def classSet? (query : List Char) : Option CharSet :=
  let valued (parts : List Char × List Char) : Option CharSet :=
    propertyValueSet? (String.ofList parts.1) (String.ofList parts.2)
  match splitAtBlock ['!', '='] query with
  | some parts => (valued parts).map .complement
  | none =>
    match (splitAtFirst ':' query).or (splitAtFirst '=' query) with
    | some parts => valued parts
    | none => propertySet? (propertyName (String.ofList query))

/-- Reads a class by the name of a property: one letter, or a name in braces. -/
def readClass (flags : Flags) (negated : Bool) (text : List Char) : Option (Escape × List Char) :=
  if !flags.unicode then none
  else
    match flags.skip text with
    | [] => none
    | '\x7b' :: rest => do
      let (query, after) ← splitAtFirst '\x7d' rest
      let shown :=
        if flags.expanded then query.filter fun character => !isBlank character else query
      pure (.set (CharSet.negateIf negated (← classSet? shown)), after)
    | letter :: rest => do
      let set ← propertySet? (propertyName letter.toString)
      pure (.set (CharSet.negateIf negated set), rest)

/-- The decimal digits. -/
def digitSet (unicode : Bool) : CharSet :=
  if unicode then .table decimalDigitSpans else .table [⟨48, 57, 1⟩]

/-- The blanks. -/
def spaceSet (unicode : Bool) : CharSet :=
  if unicode then .table blankSpans else .table [⟨9, 13, 1⟩, ⟨32, 32, 1⟩]

/-! ### Assertions -/

/-- The assertion that a name in braces makes of a word boundary. -/
def namedBoundary? (unicode : Bool) (name : List Char) : Option Assertion :=
  match String.ofList name with
  | "start" => some (.wordStart unicode)
  | "end" => some (.wordEnd unicode)
  | "start-half" => some (.wordStartHalf unicode)
  | "end-half" => some (.wordEndHalf unicode)
  | _ => none

/-- A character of the names of boundaries. -/
def isBoundaryName (character : Char) : Bool := character.isAlpha || character == '-'

/-- Reads what follows the escape of a word boundary. A brace before a letter begins a name, any
other brace a count. -/
def readBoundary (flags : Flags) (text : List Char) : Option (Escape × List Char) :=
  match text with
  | '\x7b' :: rest =>
    match flags.skip rest with
    | [] => none
    | first :: _ =>
      if isBoundaryName first then do
        let (name, after) ← splitAtFirst '\x7d' rest
        let shown :=
          if flags.expanded then name.filter fun character => !isBlank character else name
        pure (.assert (← namedBoundary? flags.unicode shown), after)
      else some (.assert (.wordBoundary flags.unicode), text)
  | _ => some (.assert (.wordBoundary flags.unicode), text)

/-! ### All escapes -/

/-- Whether a backslash before a character stands for the character itself. -/
def isEscapable (character : Char) : Bool :=
  character.toNat < 128 && !character.isAlphanum && character != '<' && character != '>'

/-- Reads what follows a backslash. -/
def readEscape (flags : Flags) : List Char → Option (Escape × List Char)
  | [] => none
  | character :: rest =>
    let literal (code : Nat) : Option (Escape × List Char) :=
      some (.literal (Char.ofNat code) false, rest)
    let set (negated : Bool) (set : CharSet) : Option (Escape × List Char) :=
      some (.set (CharSet.negateIf negated set), rest)
    let assert (assertion : Assertion) : Option (Escape × List Char) :=
      some (.assert assertion, rest)
    match character with
    | 'x' => readCodePoint flags 2 rest
    | 'u' => readCodePoint flags 4 rest
    | 'U' => readCodePoint flags 8 rest
    | 'p' => readClass flags false rest
    | 'P' => readClass flags true rest
    | 'd' => set false (digitSet flags.unicode)
    | 'D' => set true (digitSet flags.unicode)
    | 's' => set false (spaceSet flags.unicode)
    | 'S' => set true (spaceSet flags.unicode)
    | 'w' => set false (wordSet flags.unicode)
    | 'W' => set true (wordSet flags.unicode)
    | 'a' => literal 7
    | 't' => literal 9
    | 'n' => literal 10
    | 'v' => literal 11
    | 'f' => literal 12
    | 'r' => literal 13
    | 'A' => assert .textStart
    | 'z' => assert .textEnd
    | 'b' => readBoundary flags rest
    | 'B' => assert (.notWordBoundary flags.unicode)
    | '<' => assert (.wordStart flags.unicode)
    | '>' => assert (.wordEnd flags.unicode)
    | other => if isEscapable other then some (.literal other false, rest) else none

end Pattern

end Telemetry
