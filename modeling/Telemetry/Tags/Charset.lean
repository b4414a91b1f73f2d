/-
This file holds the characters of which metric names and tags are made, and how any text is brought
down to them.

Letters and decimal digits of every script are accepted, and the four marks `-`, `_`, `.` and `/`.
Replacing puts one copy of a text where a run of other characters stood, so the length of the run
does not show. Cleaning is replacing with the empty text.
-/

import Telemetry.Refusal
import Telemetry.Text.Letter

namespace Telemetry

/-- The characters a metric name or a tag may hold. -/
def isAccepted (character : Char) : Bool :=
  isLetter character || isDecimalDigit character ||
    character == '-' || character == '_' || character == '.' || character == '/'

/-! ### Replacing runs of other characters -/

/-- Replaces the runs of a text, where `inRun` tells that the character before it was not accepted:
the replacement for that run has been written already. -/
def replaceRuns (replacement : List Char) (inRun : Bool) : List Char → List Char
  | [] => []
  | character :: rest =>
    if isAccepted character then character :: replaceRuns replacement false rest
    else if inRun then replaceRuns replacement true rest
    else replacement ++ replaceRuns replacement true rest

@[simp] theorem replaceRuns_nil (replacement : List Char) (inRun : Bool) :
    replaceRuns replacement inRun [] = [] := rfl

/-- An accepted character is kept and ends a run. -/
theorem replaceRuns_cons_accepted {character : Char} (accepted : isAccepted character)
    (replacement rest : List Char) (inRun : Bool) :
    replaceRuns replacement inRun (character :: rest) =
      character :: replaceRuns replacement false rest := by
  simp [replaceRuns, accepted]

/-- Another character opens a run, for which the replacement is written. -/
theorem replaceRuns_cons_other {character : Char} (other : isAccepted character = false)
    (replacement rest : List Char) :
    replaceRuns replacement false (character :: rest) =
      replacement ++ replaceRuns replacement true rest := by
  simp [replaceRuns, other]

/-- Inside a run another character is dropped. -/
theorem replaceRuns_cons_inRun {character : Char} (other : isAccepted character = false)
    (replacement rest : List Char) :
    replaceRuns replacement true (character :: rest) = replaceRuns replacement true rest := by
  simp [replaceRuns, other]

/-- A text with one copy of `replacement` for each run of characters that are not accepted. A text
of which nothing is left is refused. -/
def replace (text replacement : String) : Except Refusal String :=
  match replaceRuns replacement.toList false text.toList with
  | [] => .error .empty
  | kept => .ok (String.ofList kept)

/-- The text `replace` gives, or the empty one where it refuses. -/
def replaceOrEmpty (text replacement : String) : String :=
  match replace text replacement with
  | .ok kept => kept
  | .error _ => ""

/-- A text without the characters that are not accepted. -/
def clean (text : String) : Except Refusal String := replace text ""

/-- Whether a text is a metric name or a tag as it stands: not empty, and made of accepted
characters only. -/
def isCanonical (text : String) : Bool := !text.toList.isEmpty && text.toList.all isAccepted

end Telemetry
