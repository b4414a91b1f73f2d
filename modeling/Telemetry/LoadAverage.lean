/-
This file reads the system's load averages.

The text has five fields: the averages over one, five and fifteen minutes, the runnable and all
scheduling entities with a slash between them, and the newest process id. Further fields are
ignored.
-/

import Telemetry.Field
import Telemetry.Text.Words

namespace Telemetry

namespace LoadAverage

/-- The name of the collector of load averages. -/
def name : String := "loadavg"

/-- Why the text is not read. -/
inductive Failure where
  | format (text : String)
  | scheduling (entities : String)
  | number (unreadable : Unreadable)
  deriving DecidableEq

/-- The wording of a failure. -/
def Failure.message : Failure → String
  | .format text => "unexpected loadavg format: " ++ quoted text
  | .scheduling entities => "unexpected scheduling field " ++ quoted entities
  | .number unreadable =>
    "parsing " ++ unreadable.field.metric ++ ": " ++ unreadable.refusal.message

/-- A field that is reported without tags of its own. -/
def gauge (metric text : String) (measure : Measure) (description : String) : Field :=
  ⟨metric, text, ∅, Hint.gauge measure description⟩

/-- What every average is described as. -/
def averageDescription : String := "System load average over the period."

/-- The fields of the text, in the order in which they are reported. -/
def fieldsOf (text : String) : Except Failure (List Field) :=
  match words text with
  | one :: five :: fifteen :: entities :: newest :: _ =>
    match splitOnce '/' entities with
    | none => .error (.scheduling entities)
    | some (runnable, all) =>
      .ok
        [gauge "linux.loadavg_1_min" one .load averageDescription,
         gauge "linux.loadavg_5_min" five .load averageDescription,
         gauge "linux.loadavg_15_min" fifteen .load averageDescription,
         gauge "linux.loadavg_runnable" runnable .process
          "Currently runnable scheduling entities.",
         gauge "linux.loadavg_total_threads" all .process
          "Scheduling entities that exist on the system.",
         gauge "linux.loadavg_last_pid" newest .none "Most recently created pid."]
  | _ => .error (.format text)

/-- The points of the load averages. -/
def points (context : Context) (timestamp : Int64) (text : String) :
    Context × Except Failure (List Point) :=
  match fieldsOf text with
  | .error failure => (context, .error failure)
  | .ok fields =>
    let (context, outcome) := context.addFields [] timestamp fields
    (context, outcome.mapError .number)

end LoadAverage

end Telemetry
