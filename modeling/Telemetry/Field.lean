/-
This file holds fields: readings whose value is still text.

The fields of one source are read in order, and the first one whose text is no number stops them.
The points made before it are given up together with it, but what their hints said about the
metrics stays, and so do the points that were rejected and counted.
-/

import Telemetry.Context

namespace Telemetry

/-- A reading whose value is still text. -/
structure Field where
  metric : String
  text : String
  tags : TagSet
  hint : Hint
  deriving DecidableEq

/-- A field whose text is no number, and why not. -/
structure Unreadable where
  field : Field
  refusal : Refusal
  deriving DecidableEq

/-- The reading of a field. -/
def Field.reading (field : Field) : Except Unreadable Reading :=
  match Value.ofText field.text with
  | .ok value => .ok ⟨field.metric, value, field.tags, field.hint⟩
  | .error refusal => .error ⟨field, refusal⟩

/-- Appends the points of fields to a batch, in order, up to the first one that is no number. -/
def Context.addFields (context : Context) (batch : List Point) (timestamp : Int64) :
    List Field → Context × Except Unreadable (List Point)
  | [] => (context, .ok batch)
  | field :: rest =>
    match field.reading with
    | .error unreadable => (context, .error unreadable)
    | .ok reading =>
      let (context, batch) := context.add batch timestamp reading
      context.addFields batch timestamp rest

@[simp] theorem Context.addFields_nil (context : Context) (batch : List Point)
    (timestamp : Int64) : context.addFields batch timestamp [] = (context, .ok batch) := rfl

end Telemetry
