/-
This file holds tag sets: the keys and values that tell the series of one metric apart.

A tag set is a table, so its text is stable and equal sets are equal values. Cleaning a set
cleans every key and every value; it either succeeds for all of them or leaves the caller with a
refusal and nothing else, so a set is never half clean.
-/

import Telemetry.Table
import Telemetry.Tags.Charset

namespace Telemetry

/-- The tags of a point, by ascending key. -/
abbrev TagSet := Table String

namespace TagSet

/-- The text of one tag. -/
def pairText (pair : String × String) : String := pair.1 ++ "=" ++ pair.2

/-- The text of a tag set without braces. -/
def text (tags : TagSet) : String := String.intercalate "," (tags.entries.map pairText)

/-- The text of a tag set in braces. -/
def bracedText (tags : TagSet) : String := "\x7b" ++ tags.text ++ "\x7d"

/-- Whether a tag set holds a tag with this value. -/
def holds (tags : TagSet) (pair : String × String) : Bool := tags.get? pair.1 = some pair.2

/-- Whether every tag of `part` is in `tags` with the same value. -/
def includes (tags part : TagSet) : Bool := part.entries.all tags.holds

/-- The tags that two sets hold with the same value. -/
def intersection (tags other : TagSet) : TagSet := tags.filter other.holds

/-- One tag with its key and its value cleaned. -/
def cleanPair (pair : String × String) : Except Refusal (String × String) :=
  match clean pair.1, clean pair.2 with
  | .error _, _ => .error (.tagKey pair.1)
  | .ok _, .error _ => .error (.tagValue pair.1 pair.2)
  | .ok key, .ok value => .ok (key, value)

/-- Cleans tags in order and adds them to those that are clean already. Two keys must not become
the same one. -/
def cleanInto (cleaned : TagSet) : List (String × String) → Except Refusal TagSet
  | [] => .ok cleaned
  | pair :: rest =>
    match cleanPair pair with
    | .error refusal => .error refusal
    | .ok (key, value) =>
      if cleaned.contains key then .error (.duplicateTag key)
      else cleanInto (cleaned.insert key value) rest

/-- A tag set with every key and every value cleaned. The first tag, by key, that cannot be cleaned
or whose cleaned key is taken gives the refusal. -/
def clean (tags : TagSet) : Except Refusal TagSet := cleanInto ∅ tags.entries

/-- What cleaning makes of a tag set where it stands: the set afterwards, and the refusal if there
is one. A refused set is left as it was. -/
def cleaned (tags : TagSet) : TagSet × Option Refusal :=
  match tags.clean with
  | .ok clean => (clean, none)
  | .error refusal => (tags, some refusal)

@[simp] theorem cleanInto_nil (cleaned : TagSet) : cleanInto cleaned [] = .ok cleaned := rfl

end TagSet

end Telemetry
