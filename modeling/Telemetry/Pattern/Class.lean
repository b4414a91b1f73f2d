/-
This file reads classes in square brackets.

A class lists characters, ranges, escapes and further classes. Between such lists stand the
operations of sets, all of one rank, from left to right. A hyphen is a character at the beginning
and at the end of a class, a closing bracket is one at the very beginning. The names between
colons are those of ASCII classes; a name that is not known is an ordinary class of its letters.
-/

import Telemetry.Pattern.Escape

namespace Telemetry

namespace Pattern

/-- The operations between the lists of a class. -/
inductive SetOperation where
  | intersection
  | difference
  | symmetricDifference
  deriving DecidableEq, Repr

/-- What an operation makes of two sets. -/
def SetOperation.apply : SetOperation → CharSet → CharSet → CharSet
  | .intersection, left, right => .intersection left right
  | .difference, left, right => CharSet.difference left right
  | .symmetricDifference, left, right => CharSet.symmetricDifference left right

/-- A set, and how deep the parts of a pattern are nested in it. -/
structure NestedSet where
  set : CharSet
  height : Nat
  deriving DecidableEq

/-- A class that is not closed yet. -/
structure OpenClass where
  negated : Bool
  /-- What stands before the last operation, and the operation. -/
  left : Option (NestedSet × SetOperation)
  /-- What was listed after it, latest first. -/
  items : List NestedSet
  deriving DecidableEq

namespace OpenClass

/-- One more item of the present list. -/
def add (level : OpenClass) (item : NestedSet) : OpenClass :=
  { level with items := item :: level.items }

/-- The union of the present list. -/
def listed (level : OpenClass) : NestedSet :=
  match level.items with
  | [] => ⟨.empty, 0⟩
  | [item] => item
  | items =>
    ⟨items.foldl (fun set item => .union set item.set) .empty,
      items.foldl (fun height item => max height item.height) 0 + 1⟩

/-- All that was read of a class, with its operations. -/
def total (level : OpenClass) : NestedSet :=
  match level.left with
  | none => level.listed
  | some (left, operation) =>
    ⟨operation.apply left.set level.listed.set, max left.height level.listed.height + 1⟩

/-- Begins the list after an operation. -/
def operate (level : OpenClass) (operation : SetOperation) : OpenClass :=
  { level with left := some (level.total, operation), items := [] }

/-- The set of a class that is closed. -/
def closed (level : OpenClass) : NestedSet :=
  ⟨CharSet.negateIf level.negated level.total.set, level.total.height + 1⟩

end OpenClass

/-! ### ASCII classes by name -/

/-- The spans of an ASCII class. -/
def asciiClass? (name : List Char) : Option (List Span) :=
  match String.ofList name with
  | "alnum" => some [⟨48, 57, 1⟩, ⟨65, 90, 1⟩, ⟨97, 122, 1⟩]
  | "alpha" => some [⟨65, 90, 1⟩, ⟨97, 122, 1⟩]
  | "ascii" => some [⟨0, 127, 1⟩]
  | "blank" => some [⟨9, 9, 1⟩, ⟨32, 32, 1⟩]
  | "cntrl" => some [⟨0, 31, 1⟩, ⟨127, 127, 1⟩]
  | "digit" => some [⟨48, 57, 1⟩]
  | "graph" => some [⟨33, 126, 1⟩]
  | "lower" => some [⟨97, 122, 1⟩]
  | "print" => some [⟨32, 126, 1⟩]
  | "punct" => some [⟨33, 47, 1⟩, ⟨58, 64, 1⟩, ⟨91, 96, 1⟩, ⟨123, 126, 1⟩]
  | "space" => some [⟨9, 13, 1⟩, ⟨32, 32, 1⟩]
  | "upper" => some [⟨65, 90, 1⟩]
  | "word" => some asciiWordSpans
  | "xdigit" => some [⟨48, 57, 1⟩, ⟨65, 70, 1⟩, ⟨97, 102, 1⟩]
  | _ => none

/-- Reads an ASCII class by name, from behind its opening bracket. -/
def readAsciiClass? : List Char → Option (CharSet × List Char)
  | ':' :: text =>
    let (negated, text) := match text with
      | '^' :: rest => (true, rest)
      | _ => (false, text)
    match splitAtFirst ':' text with
    | some (name, ']' :: rest) =>
      (asciiClass? name).map fun spans => (CharSet.negateIf negated (.table spans), rest)
    | _ => none
  | _ => none

/-! ### Items -/

/-- One character, or one escape. -/
def readAtom (flags : Flags) : List Char → Option (Escape × List Char)
  | [] => none
  | '\\' :: rest => readEscape flags rest
  | character :: rest => some (.literal character false, rest)

/-- The code point of a character in a class. Where sets are sets of bytes, a character beyond
ASCII cannot be in them, though a byte can. -/
def codeOf (flags : Flags) (character : Char) (asByte : Bool) : Option Nat :=
  if flags.unicode || character.toNat < 128 || asByte then some character.toNat else none

/-- The set of an item that is no range. -/
def itemSet (flags : Flags) : Escape → Option CharSet
  | .literal character asByte =>
    (codeOf flags character asByte).map fun code => .span code code
  | .set set => some set
  | .assert _ => none

/-- The code point at the end of a range. -/
def rangeEnd (flags : Flags) : Escape → Option Nat
  | .literal character asByte => codeOf flags character asByte
  | _ => none

/-- Whether the text, which begins with a hyphen, is more than this hyphen at the end of a class or
the operation of two hyphens. -/
def hyphenJoins (flags : Flags) (rest : List Char) : Bool :=
  match flags.skip rest with
  | ']' :: _ => false
  | '-' :: _ => false
  | _ => true

/-- Reads an item: a character, an escape, or a range of characters. -/
def readItem (flags : Flags) (text : List Char) : Option (CharSet × List Char) := do
  let (first, rest) ← readAtom flags text
  match flags.skip rest with
  | [] => none
  | '-' :: behind =>
    if hyphenJoins flags behind then
      let (last, rest) ← readAtom flags (flags.skip behind)
      let low ← rangeEnd flags first
      let high ← rangeEnd flags last
      if low ≤ high then pure (.span low high, rest) else none
    else pure (← itemSet flags first, '-' :: behind)
  | rest => pure (← itemSet flags first, rest)

/-! ### Classes -/

/-- Takes the hyphens at the beginning of a class. -/
def takeHyphens (flags : Flags) (level : OpenClass) : List Char → OpenClass × List Char
  | '-' :: rest => takeHyphens flags (level.add ⟨.single '-', 0⟩) rest
  | ' ' :: rest => if flags.expanded then takeHyphens flags level rest else (level, ' ' :: rest)
  | rest => (level, flags.skip rest)

/-- Reads the beginning of a class, from behind its opening bracket. -/
def openClass (flags : Flags) (text : List Char) : OpenClass × List Char :=
  let (negated, text) := match flags.skip text with
    | '^' :: rest => (true, flags.skip rest)
    | rest => (false, rest)
  match takeHyphens flags ⟨negated, none, []⟩ text with
  | (⟨negated, left, []⟩, ']' :: rest) => (⟨negated, left, [⟨.single ']', 0⟩]⟩, flags.skip rest)
  | (level, rest) => (level, rest)

/-- Reads on in nested classes, innermost first. Every step takes a character, so as many steps as
there are characters are enough. -/
def readLevels (flags : Flags) : Nat → OpenClass → List OpenClass → List Char →
    Option (NestedSet × List Char)
  | 0, _, _, _ => none
  | steps + 1, level, outer, text =>
    match flags.skip text with
    | [] => none
    | '[' :: rest =>
      match readAsciiClass? rest with
      | some (set, rest) => readLevels flags steps (level.add ⟨set, 0⟩) outer rest
      | none =>
        let (inner, rest) := openClass flags rest
        readLevels flags steps inner (level :: outer) rest
    | ']' :: rest =>
      match outer with
      | [] => some (level.closed, rest)
      | next :: outer => readLevels flags steps (next.add level.closed) outer rest
    | '&' :: '&' :: rest => readLevels flags steps (level.operate .intersection) outer rest
    | '-' :: '-' :: rest => readLevels flags steps (level.operate .difference) outer rest
    | '~' :: '~' :: rest => readLevels flags steps (level.operate .symmetricDifference) outer rest
    | rest =>
      match readItem flags rest with
      | none => none
      | some (set, rest) => readLevels flags steps (level.add ⟨set, 0⟩) outer rest

/-- Reads a class, from behind its opening bracket. A class of bytes must hold ASCII alone. -/
def readBrackets (flags : Flags) (text : List Char) : Option (NestedSet × List Char) :=
  let (level, rest) := openClass flags text
  match readLevels flags (text.length + 1) level [] rest with
  | none => none
  | some (nested, rest) =>
    if flags.unicode || nested.set.isAscii flags.folding then some (nested, rest) else none

end Pattern

end Telemetry
