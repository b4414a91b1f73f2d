/-
This file reads what is to be logged: directives that give a level to the messages of a target, of a
span or of all.

A directive alone may be a level or the name of a target; a name that is no level is a target of
which everything is logged. After an equals sign a level must follow, or nothing, which asks for
everything as well. In brackets stands a span, with fields in braces; the value of a field is a
number, a truth value or a pattern.
-/

import Telemetry.Number.Decimal
import Telemetry.Pattern.Reader
import Telemetry.Text.Integer
import Telemetry.Text.Words

namespace Telemetry

/-- How important a message must be. -/
inductive LogLevel where
  | off
  | error
  | warn
  | info
  | debug
  | trace
  deriving DecidableEq, Repr

namespace LogLevel

/-- The levels, each at the place of its number. -/
def all : List LogLevel := [.off, .error, .warn, .info, .debug, .trace]

/-- The name of a level. -/
def name : LogLevel → String
  | .off => "off"
  | .error => "error"
  | .warn => "warn"
  | .info => "info"
  | .debug => "debug"
  | .trace => "trace"

/-- Reads a level, which is given by its number or by its name in any case of the letters. -/
def ofText? (text : String) : Option LogLevel :=
  match uint64? text with
  | some number => all[number]?
  | none => all.find? fun level => level.name == String.ofList (text.toList.map Char.toLower)

end LogLevel

/-- A directive. Without a target it is about all targets, without a span about all spans. -/
structure LogDirective where
  target : Option String
  span : Option String
  fields : List String
  level : LogLevel
  deriving DecidableEq, Repr

namespace LogDirective

/-- A directive that asks for everything. -/
def everything : LogDirective := ⟨none, none, [], .trace⟩

/-- Where in a directive the reading is. The letters of the present part come latest first. -/
inductive Stage where
  | start
  /-- A level or the name of a target. -/
  | name (letters : List Char)
  | span (letters : List Char)
  | field (letters : List Char)
  /-- After the fields of a span. -/
  | fieldsClosed
  | spanClosed
  | level (letters : List Char)
  deriving DecidableEq, Repr

/-- The text of letters that come latest first. -/
def textOf (letters : List Char) : String := String.ofList letters.reverse

/-- Whether a name may begin with a character. -/
def beginsName (character : Char) : Bool :=
  character == '-' || character == ':' || character == '_' ||
    (alphabeticTables ++ [decimalDigitSpans, otherNumberSpans]).any fun spans =>
      Span.listed spans character.toNat

/-- Whether a field can be read: its name, and after an equals sign its value. -/
def isField (text : String) : Bool :=
  match pieces '=' text with
  | [] => false
  | [name] => name != ""
  | _ :: value :: _ => (Binary64.ofText? value).isSome || (Pattern.ofText? value).isSome

/-- Reads one more character. -/
def step (state : LogDirective × Stage) (character : Char) : Option (LogDirective × Stage) :=
  let (directive, stage) := state
  match stage, character with
  | .start, '[' => some (directive, .span [])
  | .start, _ => if beginsName character then some (directive, .name [character]) else none
  | .name letters, '=' => some ({ directive with target := textOf letters }, .level [])
  | .name letters, '[' => some ({ directive with target := textOf letters }, .span [])
  | .name letters, _ => some (directive, .name (character :: letters))
  | .span letters, ']' => some ({ directive with span := textOf letters }, .spanClosed)
  | .span letters, '\x7b' =>
    let span := if letters.isEmpty then none else some (textOf letters)
    some ({ directive with span := span }, .field [])
  | .span letters, _ => some (directive, .span (character :: letters))
  | .field letters, '\x7d' =>
    let field := textOf letters
    if isField field then
      some ({ directive with fields := directive.fields ++ [field] }, .fieldsClosed)
    else none
  | .field letters, _ => some (directive, .field (character :: letters))
  | .fieldsClosed, ']' => some (directive, .spanClosed)
  | .fieldsClosed, _ => none
  | .spanClosed, '=' => some (directive, .level [])
  | .spanClosed, _ => none
  | .level letters, _ => some (directive, .level (character :: letters))

/-- The directive at its end. A level after an equals sign counts only where no blanks stand around
the directive. -/
def finish (isTrimmed : Bool) : LogDirective × Stage → Option LogDirective
  | (directive, .name letters) =>
    match LogLevel.ofText? (textOf letters) with
    | some level => some { directive with level := level }
    | none => some { directive with target := textOf letters }
  | (directive, .spanClosed) => some directive
  | (directive, .level letters) =>
    if !isTrimmed then none
    else if letters.isEmpty then some directive
    else (LogLevel.ofText? (textOf letters)).map fun level => { directive with level := level }
  | _ => none

/-- Reads a directive. -/
def ofText? (text : String) : Option LogDirective := do
  let trimmed := trim text
  finish (trimmed == text) (← trimmed.toList.foldlM step (everything, .start))

end LogDirective

/-- The directives in force. -/
structure LogFilter where
  directives : List LogDirective
  deriving DecidableEq, Repr

/-- Reads directives with commas between them. Empty ones are passed over. -/
def LogFilter.ofText? (text : String) : Option LogFilter := do
  let texts := (pieces ',' text).filter fun piece => piece != ""
  return ⟨← texts.mapM LogDirective.ofText?⟩

end Telemetry
