/-
This file holds what can be seen of the lives of an external program, whatever comes about.

A life begins with the turn in which the job starts the program, and it is over after the turn in
which the job leaves off reading it: because it has ended, or because the job is told to stop. Both
are told from what the job does before and after its turns. In the world around it the actions of
the clock are joined by what comes from outside, each at any moment: the order to stop, and a
consumer that does not receive for some time, or never again, though it does not go. And a job that
could find the order may heed it later than at once.
-/

import Telemetry.Schedule.ProgramCourse

namespace Telemetry

/-- A life of a program that was started: since when it lasts and, if it is over, until when. -/
structure Lifetime where
  begun : Nat
  ended : Option Nat
  deriving DecidableEq, Repr

/-- How many restarts of a program were counted. -/
def Shared.restartsOf (shared : Shared) (name : String) : Nat :=
  shared.context.health.restarts.count name

namespace ProgramJob

/-- Whether a life of the program is under way. -/
def isRunning (job : ProgramJob) : Bool :=
  match job.phase with
  | .running _ _ _ _ => true
  | _ => false

namespace Turn

/-- The program is started in this turn. -/
def begins (turn : Turn) : Bool := !turn.job.isRunning && turn.next.isRunning

/-- A life of the program is over after this turn. -/
def ends (turn : Turn) : Bool := turn.job.isRunning && !turn.next.isRunning

/-- The lives that were seen after a turn, from those that were seen before. -/
def note (lifetimes : List Lifetime) (turn : Turn) : List Lifetime :=
  let now := turn.scene.moment.now
  if turn.begins then lifetimes ++ [⟨now, none⟩]
  else if turn.ends then
    lifetimes.map fun life => { life with ended := life.ended.or (some now) }
  else lifetimes

/-- The lives that were seen in turns, in the order in which they began. -/
def lifetimesOf (turns : List Turn) : List Lifetime := turns.foldl note []

/-- The job waits for the next start, and the clock cannot show the moment a period after now. -/
def Unfit (turn : Turn) : Prop :=
  (∃ due, turn.job.phase = .waiting due ∧ due ≤ turn.scene.moment.now) ∧
    Moment.limit ≤
      turn.scene.moment.now + turn.job.program.period turn.scene.shared.context

end Turn

end ProgramJob

namespace World

/-- Something that comes about in a world. -/
inductive Event where
  | act (action : Action)
  /-- A job makes a step in which it heeds the order to stop in some way. -/
  | take (index : Nat) (heed : Heed)
  /-- The jobs are told to stop. -/
  | order
  /-- The consumer receives nothing before a moment. -/
  | hold (resumes : Nat)
  deriving DecidableEq

/-- Lets a job make a step in which it heeds the order to stop in some way, if it can. -/
def take? (world : World) (index : Nat) (heed : Heed) : Option World :=
  match world.jobs[index]? with
  | none => none
  | some job =>
    match job.take? heed world.moment world.shared with
    | none => none
    | some (job, shared) => some { world with jobs := world.jobs.set index job, shared := shared }

/-- The world after an event, if the event is possible. -/
def after? (world : World) : Event → Option World
  | .act action => world.perform? action
  | .take index heed => world.take? index heed
  | .order => some { world with cancelled := true }
  | .hold resumes => some { world with consumer := { world.consumer with resumes := resumes } }

/-- The event is a step of the job at a place. -/
def Event.IsStepOf (place : Nat) (event : Event) : Prop :=
  event = .act (.work place) ∨ ∃ heed, event = .take place heed

instance (place : Nat) (event : Event) : Decidable (event.IsStepOf place) :=
  match event with
  | .act (.work index) =>
    if same : index = place then .isTrue (.inl (same ▸ rfl))
    else .isFalse fun step => step.elim (fun other => by cases other; exact same rfl) nofun
  | .take index heed =>
    if same : index = place then .isTrue (.inr ⟨heed, same ▸ rfl⟩)
    else .isFalse fun step => step.elim nofun fun ⟨_, other⟩ => by cases other; exact same rfl
  | .act .report => .isFalse fun step => step.elim nofun nofun
  | .act .receive => .isFalse fun step => step.elim nofun nofun
  | .act .leave => .isFalse fun step => step.elim nofun nofun
  | .act .advance => .isFalse fun step => step.elim nofun nofun
  | .order => .isFalse fun step => step.elim nofun nofun
  | .hold _ => .isFalse fun step => step.elim nofun nofun

end World

/-- Something that came about in a world. -/
structure Incident where
  before : World
  event : World.Event
  after : World

namespace World

/-- The worlds that a world can come to, with all that comes about in between. -/
inductive Undergoes (start : World) : List Incident → World → Prop where
  | start : Undergoes start [] start
  | next {past : List Incident} {world after : World} (event : Event) :
      Undergoes start past world → world.after? event = some after →
        Undergoes start (past ++ [⟨world, event, after⟩]) after

/-- What comes about when events come in order, and the world after them, if they are possible. -/
def record? (world : World) : List Event → Option (List Incident × World)
  | [] => some ([], world)
  | event :: rest =>
    match world.after? event with
    | none => none
    | some after =>
      (after.record? rest).map fun (later, final) => (⟨world, event, after⟩ :: later, final)

theorem Undergoes.record {start world final : World} {past later : List Incident}
    {events : List Event} (undergoes : start.Undergoes past world)
    (recorded : world.record? events = some (later, final)) :
    start.Undergoes (past ++ later) final := by
  induction events generalizing world past later with
  | nil =>
    obtain ⟨rfl, rfl⟩ := Prod.mk.inj (Option.some.inj recorded)
    rwa [List.append_nil]
  | cons event rest inductionHypothesis =>
    rw [record?] at recorded
    split at recorded
    · cases recorded
    · rename_i after happened
      obtain ⟨⟨remaining, _⟩, further, same⟩ := Option.map_eq_some_iff.mp recorded
      obtain ⟨rfl, rfl⟩ := Prod.mk.inj same
      have undergone := inductionHypothesis (undergoes.next event happened) further
      rwa [List.append_assoc] at undergone

/-- A point of the program at a place waits for room in the queue. -/
def HoldsLine (world : World) (place : Nat) : Prop :=
  ∃ job, world.jobs[place]? = some (.program job) ∧ job.held.isSome = true

end World

namespace Incident

/-- The turn that the job at a place made, if it made one and is a program. -/
def turn? (place : Nat) (incident : Incident) : Option ProgramJob.Turn :=
  match incident.before.jobs[place]?, incident.after.jobs[place]? with
  | some (.program job), some (.program next) =>
    if incident.event.IsStepOf place then
      some ⟨job, incident.before.scene, next, incident.after.shared⟩
    else none
  | _, _ => none

/-- The turns that the program at a place made. -/
def turnsOf (place : Nat) (past : List Incident) : List ProgramJob.Turn :=
  past.filterMap (turn? place)

/-- The lives of the program at a place that were seen. -/
def lifetimesOf (place : Nat) (past : List Incident) : List Lifetime :=
  ProgramJob.Turn.lifetimesOf (turnsOf place past)

/-- The clock moves on while a point of the program at a place waits for room. -/
def Delays (place : Nat) (incident : Incident) : Prop :=
  incident.event = .act .advance ∧ incident.before.HoldsLine place

end Incident

end Telemetry
