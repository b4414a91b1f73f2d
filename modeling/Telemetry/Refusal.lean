/-
This file holds the reasons for which a name, a tag, a value or a point is refused.

A refusal carries the texts it complains about, as they were before anything was cleaned. The
wording of all refusals stands in one place, `Refusal.message`.
-/

import Telemetry.Number.Decimal
import Telemetry.Text.Quoted

namespace Telemetry

/-- Why a name, a tag, a value or a point is refused. -/
inductive Refusal where
  /-- No character of the text is an accepted one. -/
  | empty
  /-- No character of the metric name is an accepted one. -/
  | metric (name : String)
  /-- No character of the tag's key is an accepted one. -/
  | tagKey (key : String)
  /-- No character of the tag's value is an accepted one. -/
  | tagValue (key value : String)
  /-- A pair without an equals sign. -/
  | badTag (pair : String)
  /-- A key or value that may not stand in a query. -/
  | invalidCharacter (text : String)
  /-- A key that is given twice, or two keys that are cleaned to the same one. -/
  | duplicateTag (tag : String)
  /-- A text that is no number. -/
  | unparseable (text : String)
  /-- An infinity, or a value that is no number. -/
  | nonFinite (name : String) (value : Binary64)
  deriving DecidableEq, Repr

/-- The wording of a refusal. -/
def Refusal.message : Refusal → String
  | .empty => "clean result is empty"
  | .metric name => "cleaning metric " ++ quoted name ++ ": clean result is empty"
  | .tagKey key => "cleaning tag key " ++ quoted key ++ ": clean result is empty"
  | .tagValue key value =>
    "cleaning value " ++ quoted value ++ " of tag " ++ quoted key ++ ": clean result is empty"
  | .badTag pair => "bad tag: " ++ pair
  | .invalidCharacter text => "invalid character in " ++ text
  | .duplicateTag tag => "duplicated tag: " ++ tag
  | .unparseable text => "unparseable number " ++ quoted text
  | .nonFinite name value => "metric " ++ quoted name ++ " has non-finite value " ++ value.plain

end Telemetry
