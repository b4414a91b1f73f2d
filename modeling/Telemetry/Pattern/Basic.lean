/-
This file holds patterns over text and decides whether a text contains a match.

A pattern is matched by its partial derivatives: what may still be to match after one more
character is a set of patterns, and the text is read once. An assertion looks at the two characters
beside its place, so both functions below get them. Since nothing but the existence of a match is
asked for, it plays no part which of several matches would be preferred.
-/

import Telemetry.Pattern.CharSet

namespace Telemetry

/-- What a place in the text must be for an assertion to hold there. With `crlf` a carriage return
ends a line as well, and the pair of both characters ends it once. -/
inductive Assertion where
  | textStart
  | textEnd
  | lineStart (crlf : Bool)
  | lineEnd (crlf : Bool)
  | wordBoundary (unicode : Bool)
  | notWordBoundary (unicode : Bool)
  | wordStart (unicode : Bool)
  | wordEnd (unicode : Bool)
  /-- No character of a word stands before. -/
  | wordStartHalf (unicode : Bool)
  /-- No character of a word stands behind. -/
  | wordEndHalf (unicode : Bool)
  deriving DecidableEq, Repr

/-- The letters, digits and the underscore of ASCII. -/
def asciiWordSpans : List Span := [⟨48, 57, 1⟩, ⟨65, 90, 1⟩, ⟨95, 95, 1⟩, ⟨97, 122, 1⟩]

/-- The characters of words. -/
def wordSet (unicode : Bool) : CharSet :=
  if unicode then CharSet.ofTables wordTables else .table asciiWordSpans

/-- Whether there is a character and it is one of a word. -/
def isWord (unicode : Bool) : Option Char → Bool
  | none => false
  | some character => (wordSet unicode).contains .exact character.toNat

/-- Whether an assertion holds between two characters. There is none before the text's start and
none behind its end. -/
def Assertion.holds (before after : Option Char) : Assertion → Bool
  | .textStart => before.isNone
  | .textEnd => after.isNone
  | .lineStart false => before.isNone || before == some '\n'
  | .lineStart true =>
    before.isNone || before == some '\n' || (before == some '\r' && after != some '\n')
  | .lineEnd false => after.isNone || after == some '\n'
  | .lineEnd true =>
    after.isNone || after == some '\r' || (after == some '\n' && before != some '\r')
  | .wordBoundary unicode => isWord unicode before != isWord unicode after
  | .notWordBoundary unicode => isWord unicode before == isWord unicode after
  | .wordStart unicode => !isWord unicode before && isWord unicode after
  | .wordEnd unicode => isWord unicode before && !isWord unicode after
  | .wordStartHalf unicode => !isWord unicode before
  | .wordEndHalf unicode => !isWord unicode after

/-- A pattern over text. -/
inductive Pattern where
  /-- Matches without taking a character. -/
  | empty
  /-- Matches without taking a character where an assertion holds. -/
  | assert (assertion : Assertion)
  /-- Takes one character of a set. -/
  | one (set : CharSet) (folding : Folding)
  | sequence (first second : Pattern)
  | either (left right : Pattern)
  /-- Matches the body at least `least` times, and at most `most` times if there is such a limit. -/
  | repeated (body : Pattern) (least : Nat) (most : Option Nat)
  deriving DecidableEq, Repr

namespace Pattern

/-- Two patterns after each other. -/
def andThen : Pattern → Pattern → Pattern
  | .empty, second => second
  | first, .empty => first
  | first, second => .sequence first second

/-- What is left of a repetition once its body has begun. Where the body may match without taking a
character, the matches that are still owed may be of this kind. -/
def remaining (body : Pattern) (least : Nat) (most : Option Nat) (free : Bool) : Pattern :=
  if most = some 1 then .empty
  else .repeated body (if free then 0 else least - 1) (most.map (· - 1))

/-- Whether a pattern matches between two characters without taking one. -/
def nullable (before after : Option Char) : Pattern → Bool
  | .empty => true
  | .assert assertion => assertion.holds before after
  | .one _ _ => false
  | .sequence first second => first.nullable before after && second.nullable before after
  | .either left right => left.nullable before after || right.nullable before after
  | .repeated body least _ => least == 0 || body.nullable before after

/-- What may be left of a pattern after it has taken a character. The first argument is the
character before that one. -/
def advance (before : Option Char) (character : Char) : Pattern → List Pattern
  | .empty => []
  | .assert _ => []
  | .one set folding => if set.contains folding character.toNat then [.empty] else []
  | .sequence first second =>
    (first.advance before character).map (·.andThen second) ++
      if first.nullable before (some character) then second.advance before character else []
  | .either left right => left.advance before character ++ right.advance before character
  | .repeated body least most =>
    if most = some 0 then []
    else
      let rest := remaining body least most (body.nullable before (some character))
      (body.advance before character).map (·.andThen rest)

/-- Whether one of some started matches, or a match that starts here, ends in the text. -/
def run (pattern : Pattern) (before : Option Char) (started : List Pattern) : List Char → Bool
  | [] => (pattern :: started).any (·.nullable before none)
  | character :: rest =>
    (pattern :: started).any (·.nullable before (some character)) ||
      pattern.run (some character)
        ((pattern :: started).flatMap (·.advance before character)).eraseDups rest

/-- Whether a text contains a match of a pattern. -/
def occursIn (pattern : Pattern) (text : String) : Bool := pattern.run none [] text.toList

/-- About how much room an automaton for the pattern takes: a repetition with limits is written
out. -/
def weight : Pattern → Nat
  | .empty => 0
  | .assert _ => 1
  | .one set _ => if set.spanCount ≤ 1 then 1 else 2 * set.spanCount
  | .sequence first second => first.weight + second.weight
  | .either left right => left.weight + right.weight + 1
  | .repeated body least most =>
    match most with
    | none => (max least 1) * body.weight + 1
    | some limit => least * body.weight + (limit - least) * (body.weight + 2)

@[simp] theorem nullable_empty (before after : Option Char) : nullable before after empty = true :=
  rfl

@[simp] theorem advance_empty (before : Option Char) (character : Char) :
    advance before character empty = [] := rfl

end Pattern

end Telemetry
