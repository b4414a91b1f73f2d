/-
This file holds what can be seen of an external program that is read among others.

As with a collector that runs at an interval, the others change what they share with the job of the
program while it makes its steps, and the clock moves on. What is seen of the job are its turns: all
that was there before a step and after it. What a turn gives is told from the queue and the counters
on both sides of it.
-/

import Telemetry.Program.Yield
import Telemetry.Schedule.Course

namespace Telemetry

namespace ProgramJob

/-- One step of the job, with what was there before it and after it. -/
structure Turn where
  job : ProgramJob
  scene : Scene
  next : ProgramJob
  after : Shared

namespace Turn

/-- What a turn gives. -/
def yield (turn : Turn) : Yield :=
  let before := turn.scene.shared
  { points := turn.after.dispatcher.queue.drop before.dispatcher.queue.length
    unreadable := turn.after.context.health.unreadable - before.context.health.unreadable
    rejected := turn.after.context.health.rejected - before.context.health.rejected }

/-- A turn puts so many points behind those in the queue and adds so much to the counters, and that
is all that changes about them. -/
structure Gives (turn : Turn) (more : Yield) : Prop where
  queue : turn.after.dispatcher.queue = turn.scene.shared.dispatcher.queue ++ more.points
  unreadable : turn.after.context.health.unreadable =
    turn.scene.shared.context.health.unreadable + more.unreadable
  rejected : turn.after.context.health.rejected =
    turn.scene.shared.context.health.rejected + more.rejected

/-- What turns give, one after the other. -/
def yieldOf (turns : List Turn) : Yield := turns.foldl (fun sum turn => sum ++ turn.yield) ∅

end Turn

/-- The courses of a job from a start, with its turns, in which it heeds the order to stop in any
way. In between the others change what is around it; what they may do can depend on the job. -/
inductive Course (Others : ProgramJob → Scene → Scene → Prop) (start : ProgramJob)
    (origin : Scene) : List Turn → ProgramJob → Scene → Prop where
  | start : Course Others start origin [] start origin
  | others {turns : List Turn} {job : ProgramJob} {scene later : Scene} :
      Course Others start origin turns job scene → Others job scene later →
        Course Others start origin turns job later
  | step {turns : List Turn} {job next : ProgramJob} {scene : Scene} {after : Shared}
      (heed : Heed) :
      Course Others start origin turns job scene →
        job.take? heed scene.moment scene.shared = some (next, after) →
          Course Others start origin (turns ++ [⟨job, scene, next, after⟩]) next
            { scene with shared := after }

/-- The point of the last line that was read, while it waits for room. -/
def held (job : ProgramJob) : Option Point :=
  match job.phase with
  | .running _ _ held _ => held
  | _ => none

/-- Whether nothing is left of the output of the present life, and no point of it waits for room. -/
def hasRead (job : ProgramJob) : Bool :=
  match job.phase with
  | .running _ _ held rest => held.isNone && rest.isEmpty
  | _ => true

end ProgramJob

namespace Happening

/-- The turn that the job at a place made, if it made one and is a program. -/
def turn? (place : Nat) (happening : Happening) : Option ProgramJob.Turn :=
  match happening.before.jobs[place]?, happening.after.jobs[place]? with
  | some (.program job), some (.program next) =>
    if happening.action = .work place then
      some ⟨job, happening.before.scene, next, happening.after.shared⟩
    else none
  | _, _ => none

/-- The turns that the job at a place made. -/
def turnsOf (place : Nat) (past : List Happening) : List ProgramJob.Turn :=
  past.filterMap (turn? place)

end Happening

end Telemetry
