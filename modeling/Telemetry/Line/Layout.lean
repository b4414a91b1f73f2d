/-
This file holds lines as they are written.

A writer gives a metric, a timestamp and a value, and then tags one after the other. Between two
fields stand blanks, of which there may be more than one, and blanks may stand around the line as
well. Every part carries what makes it fit: a field has no blanks, a gap is not empty, and a tag is
canonical or is the one that leaves out the host.
-/

import Telemetry.Line

namespace Telemetry

/-- A run of blanks, which may be empty. -/
structure Blanks where
  characters : List Char
  blank : ∀ character ∈ characters, isBlank character = true

/-- The blanks between two fields. -/
structure Gap extends Blanks where
  nonempty : characters ≠ []

/-- A text that stands as a single field. -/
structure Word where
  text : String
  nonempty : text.toList ≠ []
  solid : ∀ character ∈ text.toList, isBlank character = false

/-- A tag on a line: the one that leaves out the host, or a key with a value. -/
inductive TagToken where
  | hostless
  | tag (key value : String) (canonicalKey : isCanonical key = true)
      (canonicalValue : isCanonical value = true)

namespace TagToken

/-- The key and the value that a tag gives. Leaving out the host is giving it the empty value. -/
def pair : TagToken → String × String
  | hostless => (hostTag, "")
  | tag key value _ _ => (key, value)

/-- The text of a tag. -/
def text (token : TagToken) : String := TagSet.pairText token.pair

/-- The tags that are given one after the other. Of two with the same key the later one counts. -/
def tagsOf (tokens : List TagToken) : TagSet := Table.ofList (tokens.map pair)

end TagToken

/-- A line as it is written, with a whole number for its value. -/
structure Layout where
  before : Blanks
  metric : Word
  toTimestamp : Gap
  timestamp : Int64
  toValue : Gap
  value : Int64
  /-- Every tag with the blanks before it. -/
  tokens : List (Gap × TagToken)
  after : Blanks

namespace Layout

/-- The fields behind the metric, each with the blanks before it. -/
def fields (layout : Layout) : List (Gap × String) :=
  (layout.toTimestamp, signedDecimal layout.timestamp.toInt) ::
    (layout.toValue, signedDecimal layout.value.toInt) ::
      layout.tokens.map fun token => (token.1, token.2.text)

/-- The text of the line. -/
def text (layout : Layout) : String :=
  String.ofList (layout.before.characters ++
    (layout.metric.text.toList ++
      layout.fields.flatMap fun field => field.1.characters ++ field.2.toList) ++
    layout.after.characters)

/-- The tags in the order in which they are written. -/
def tags (layout : Layout) : List TagToken := layout.tokens.map (·.2)

/-- No key is given twice. -/
def HasDistinctKeys (layout : Layout) : Prop := (layout.tags.map fun token => token.pair.1).Nodup

/-- Two lines that say the same but for the blanks and the order of their tags. -/
structure Reorders (layout other : Layout) : Prop where
  metric : layout.metric.text = other.metric.text
  timestamp : layout.timestamp = other.timestamp
  value : layout.value = other.value
  tags : layout.tags.Perm other.tags

/-- The point that a call gives with what the line says. -/
def call (context : Context) (layout : Layout) : Except Refusal Point :=
  context.canonicalize layout.metric.text layout.timestamp (.integer layout.value)
    (TagToken.tagsOf layout.tags)

end Layout

/-- What a call gives, as a line would give it. -/
def Line.ofCall : Except Refusal Point → Except LineError Line
  | .ok point => .ok ⟨point, none⟩
  | .error refusal => .error (.invalid refusal)

end Telemetry
