/-
This file reads tags from text and puts values into the groups of a query.

The text of tags is a list of pairs `key=value` between commas. In a query a value may be a star or
a list of alternatives between bars. A group is a pair of braces with at least one character
between them; the first closing brace ends it, so an opening brace may stand inside.
-/

import Telemetry.Tags.TagSet
import Telemetry.Text.Words

namespace Telemetry

/-! ### Reading tags -/

/-- Whether one alternative of a value may stand in a query. -/
def isAlternative (text : String) : Bool := text = "*" || isCanonical text

/-- Whether a value may stand in a query: a list of alternatives between bars. -/
def isQueryValue (text : String) : Bool := (pieces '|' text).all isAlternative

/-- Reads one pair. Blanks around the key and around the value are left out. -/
def readPair (pair : String) : Except Refusal (String × String) :=
  match splitOnce '=' pair with
  | none => .error (.badTag pair)
  | some (before, after) =>
    let key := trim before
    let value := trim after
    if !isCanonical key then .error (.invalidCharacter key)
    else if !isQueryValue value then .error (.invalidCharacter value)
    else .ok (key, value)

/-- Reads pairs in order and adds them to those read before. A key may not come twice. -/
def readPairs (tags : TagSet) : List String → Except Refusal TagSet
  | [] => .ok tags
  | pair :: rest =>
    match readPair pair with
    | .error refusal => .error refusal
    | .ok (key, value) =>
      if tags.contains key then .error (.duplicateTag pair)
      else readPairs (tags.insert key value) rest

/-- Reads a list of tags between commas. -/
def readTags (text : String) : Except Refusal TagSet := readPairs ∅ (pieces ',' text)

/-! ### Groups of a query -/

/-- The first opening brace that is followed by a group, cut out of a text: what stands before it,
what stands between the braces, and what follows them. -/
def cutGroup : List Char → Option (List Char × List Char × List Char)
  | [] => none
  | character :: rest =>
    let later := (cutGroup rest).map fun (before, inside, after) =>
      (character :: before, inside, after)
    if character = Char.ofNat 123 then
      match splitAtFirst (Char.ofNat 125) rest with
      | none => none
      | some ([], _) => later
      | some (inside, after) => some ([], inside, after)
    else later

/-- What follows a group is shorter than the text the group was cut out of. -/
theorem cutGroup_length_lt {text before inside after : List Char}
    (cut : cutGroup text = some (before, inside, after)) : after.length < text.length := by
  induction text generalizing before inside after with
  | nil => simp [cutGroup] at cut
  | cons character rest inductionHypothesis =>
    have laterShorter : ((cutGroup rest).map fun found =>
        (character :: found.1, found.2.1, found.2.2)) = some (before, inside, after) →
        after.length < (character :: rest).length := by
      intro mapped
      obtain ⟨⟨first, second, third⟩, found, equal⟩ := Option.map_eq_some_iff.mp mapped
      simp only [Prod.mk.injEq] at equal
      have shorter := inductionHypothesis found
      simp only [List.length_cons, ← equal.2.2]
      omega
    simp only [cutGroup] at cut
    split at cut
    · split at cut
      · simp at cut
      · exact laterShorter cut
      · rename_i found
        simp only [Option.some.injEq, Prod.mk.injEq] at cut
        have shorter := splitAtFirst_length_lt found
        simp only [List.length_cons, ← cut.2.2]
        omega
    · exact laterShorter cut

/-- A tag with the value the group has for its key, unless the group has none or an empty one. -/
def substituted (group : TagSet) (pair : String × String) : String :=
  match group.get? pair.1 with
  | none => pair.2
  | some value => if value = "" then pair.2 else value

/-- A tag set with the values of a group where the group has a non-empty one. -/
def TagSet.substitute (tags group : TagSet) : TagSet :=
  tags.entries.foldl (fun result pair => result.insert pair.1 (substituted group pair)) tags

/-- What is written for a group: its tags with values put in, or the group as it stands when its
inside is no list of tags. -/
def substituteGroup (group : TagSet) (inside : List Char) : List Char :=
  match readTags (String.ofList inside) with
  | .error _ => Char.ofNat 123 :: inside ++ [Char.ofNat 125]
  | .ok tags => (tags.substitute group).bracedText.toList

/-- Puts values into the groups of a text, from left to right. -/
def replaceGroups (group : TagSet) (text : List Char) : List Char :=
  match cut : cutGroup text with
  | none => text
  | some (before, inside, after) =>
    have : after.length < text.length := cutGroup_length_lt cut
    before ++ substituteGroup group inside ++ replaceGroups group after
  termination_by text.length

/-- Puts the non-empty values of a group into every braced list of tags in a text. -/
def replaceTags (text : String) (group : TagSet) : String :=
  String.ofList (replaceGroups group text.toList)

end Telemetry
