/-
This file says that the output of a program is processed line by line.

While a life is read, what its turns have given so far is what the pieces give that are read, but
for the point of the last one while that waits for room. Every step keeps this: a line adds what it
gives, whatever the lines before it were, and its point comes into the queue as it is. So a life
that is read to its end has given what all its pieces give, and none of them touches another.
-/

import Telemetry.Proofs.Pieces
import Telemetry.Proofs.Happenings

namespace Telemetry

namespace ProgramJob

/-! ### Turns -/

namespace Turn

/-- What a turn gives is what is behind those in the queue and what the counters differ by. -/
theorem Gives.yield_eq {turn : Turn} {more : Yield} (gives : turn.Gives more) :
    turn.yield = more := by
  refine Yield.ext ?_ ?_ ?_
  · rw [yield, gives.queue, List.drop_left]
  · rw [yield, gives.unreadable, Nat.add_sub_cancel_left]
  · rw [yield, gives.rejected, Nat.add_sub_cancel_left]

theorem yieldOf_append_singleton (turns : List Turn) (turn : Turn) :
    yieldOf (turns ++ [turn]) = yieldOf turns ++ turn.yield := by
  rw [yieldOf, List.foldl_append]
  rfl

end Turn

/-! ### Steps -/

/-- The others spare the job of a program: they change no settings, they tell nobody to stop, and
the consumer does not go. -/
structure Spared (_ : ProgramJob) (scene later : Scene) : Prop where
  going : later.moment.cancelled = false
  opened : later.shared.dispatcher.receiver ≠ .dropped
  settings : later.shared.context.settings = scene.shared.context.settings

/-- How far a life is read that has given something so far. -/
inductive Reads (context : Context) (pieces : List Bytes) : Yield → ProgramPhase → Prop where
  | reading {given : Yield} {due ends : Nat} {held : Option Point} {read rest : List Bytes}
      (cut : read ++ rest = pieces)
      (soFar : given ++ Yield.ofPoints held.toList = context.yieldOf read) :
      Reads context pieces given (.running due ends held rest)
  | ended {given : Yield} {due : Nat} (whole : given = context.yieldOf pieces) :
      Reads context pieces given (.waiting due)
  | stopped {given : Yield} (whole : given = context.yieldOf pieces) :
      Reads context pieces given .stopped

namespace Reads

variable {context : Context} {pieces rest : List Bytes} {given : Yield} {due ends : Nat}
  {piece : Bytes} {point : Point}

/-- Nothing of a life is read when it begins. -/
theorem launched : Reads context pieces ∅ (.running due ends none pieces) :=
  .reading (List.nil_append pieces) rfl

/-- A line is read. What it is counted for is given at once, and its point waits. -/
theorem line (reads : Reads context pieces given (.running due ends none (piece :: rest)))
    {held : Option Point} (points : (context.yieldOf [piece]).points = held.toList) :
    Reads context pieces (given ++ { context.yieldOf [piece] with points := [] })
      (.running due ends held rest) := by
  cases reads with
  | @reading _ _ _ read _ cut soFar =>
    have further : read ++ [piece] ++ rest = pieces := by
      rw [List.append_assoc, List.singleton_append, cut]
    refine .reading further ?_
    rw [context.yieldOf_append, ← soFar]
    refine Yield.ext ?_ ?_ ?_
    · simp [points, Yield.ofPoints]
    · simp [Yield.ofPoints]
    · simp [Yield.ofPoints]

/-- A point that waits is canonical. -/
theorem clean_held (reads : Reads context pieces given (.running due ends (some point) rest)) :
    point.clean = .ok point := by
  cases reads with
  | @reading _ _ _ read _ cut soFar =>
    have member : point ∈ (context.yieldOf read).points := by
      rw [← soFar]
      exact List.mem_append_right _ List.mem_cons_self
    exact Context.clean_of_mem_yieldOf member

/-- The point that waits comes into the queue. -/
theorem queued (reads : Reads context pieces given (.running due ends (some point) rest)) :
    Reads context pieces (given ++ Yield.ofPoints [point]) (.running due ends none rest) := by
  cases reads with
  | reading cut soFar =>
    refine .reading cut ?_
    rw [← soFar]
    exact Yield.append_empty _

/-- A life that is read to its end has given all. -/
theorem all (reads : Reads context pieces given (.running due ends none [])) :
    given = context.yieldOf pieces := by
  cases reads with
  | reading cut soFar =>
    rw [← cut, List.append_nil, ← soFar]
    exact (Yield.append_empty given).symm

end Reads

/-- One more turn for a job that has come to its end. -/
def lastTurn (job : ProgramJob) : Nat := if job.phase = .stopped then 1 else 0

/-- Where a job stands that waited for a life at first: the life has not begun or never begins, it
is read or over, or there was another start after it. -/
inductive Stands (context : Context) (start : ProgramJob) (pieces : List Bytes) :
    List Turn → ProgramJob → Prop where
  | before {job : ProgramJob} {due : Nat} (starts : job.starts = start.starts)
      (waiting : job.phase = .waiting due) : Stands context start pieces [] job
  | never {turns : List Turn} {job : ProgramJob} (starts : job.starts = start.starts)
      (stopped : job.phase = .stopped) : Stands context start pieces turns job
  | during {turns : List Turn} {job : ProgramJob} (starts : job.starts = start.starts + 1)
      (reads : Reads context pieces (Turn.yieldOf turns) job.phase)
      (gives : ∀ turn ∈ turns, turn.Gives turn.yield)
      (few : turns.length + job.pending ≤ 2 * pieces.length + 2 + job.lastTurn) :
      Stands context start pieces turns job
  | behind {turns : List Turn} {job : ProgramJob} (starts : start.starts + 1 < job.starts) :
      Stands context start pieces turns job

/-- A job has come somewhere from a start with some settings. -/
structure Follows (context : Context) (start : ProgramJob) (pieces : List Bytes)
    (turns : List Turn) (job : ProgramJob) (scene : Scene) : Prop where
  going : scene.moment.cancelled = false
  opened : scene.shared.dispatcher.receiver ≠ .dropped
  settings : scene.shared.context.settings = context.settings
  lives : job.lives = start.lives
  stands : Stands context start pieces turns job

variable {context : Context} {start job next : ProgramJob} {pieces : List Bytes} {output : Bytes}
  {turns : List Turn} {scene later : Scene} {after : Shared}

theorem Follows.others (follows : Follows context start pieces turns job scene)
    (spared : job.Spared scene later) : Follows context start pieces turns job later where
  going := spared.going
  opened := spared.opened
  settings := spared.settings.trans follows.settings
  lives := follows.lives
  stands := follows.stands

/-- A turn while a life is read adds what it gives to what was given before. -/
theorem Stands.turn (stands : Stands context start pieces turns job) {due ends : Nat}
    {held : Option Point} {rest : List Bytes} (running : job.phase = .running due ends held rest)
    (more : Yield) (gives : Turn.Gives ⟨job, scene, next, after⟩ more)
    (starts : next.starts = job.starts)
    (reads : Reads context pieces (Turn.yieldOf turns) (.running due ends held rest) →
      Reads context pieces (Turn.yieldOf turns ++ more) next.phase)
    (fewer : next.pending < job.pending) :
    Stands context start pieces (turns ++ [⟨job, scene, next, after⟩]) next := by
  have same := gives.yield_eq
  cases stands with
  | before _ waiting => cases running.symm.trans waiting
  | never _ stopped => cases running.symm.trans stopped
  | during begun soFar earlier few =>
    have none : job.lastTurn = 0 := by simp [lastTurn, running]
    rw [running] at soFar
    refine .during (starts.trans begun) ?_ ?_ ?_
    · rw [Turn.yieldOf_append_singleton, same]
      exact reads soFar
    · intro turn member
      rcases List.mem_append.mp member with old | new
      · exact earlier turn old
      · rw [List.mem_singleton.mp new, same]
        exact gives
    · rw [List.length_append, List.length_singleton]
      omega
  | behind begun =>
    rw [← starts] at begun
    exact .behind begun

/-- The count of a start gives nothing. -/
theorem Counted.givesNothing (counted : Counted scene.shared after) :
    Turn.Gives ⟨job, scene, next, after⟩ ∅ :=
  ⟨by rw [counted.dispatcher]; exact (List.append_nil _).symm, counted.unreadable,
    counted.rejected⟩

/-- A job that ends instead of a start has read the life before it. -/
theorem Stands.unfit (stands : Stands context start pieces turns job) {due : Nat}
    (waiting : job.phase = .waiting due) (counted : Counted scene.shared after) :
    Stands context start pieces
      (turns ++ [⟨job, scene, { job with phase := .stopped }, after⟩])
      { job with phase := .stopped } := by
  cases stands with
  | before starts => exact .never starts rfl
  | never starts => exact .never starts rfl
  | during begun soFar earlier few =>
    have nothing : Turn.Gives ⟨job, scene, { job with phase := .stopped }, after⟩ ∅ :=
      counted.givesNothing
    rw [waiting] at soFar
    have one : ({ job with phase := .stopped } : ProgramJob).lastTurn = 1 := rfl
    have none : job.lastTurn = 0 := by simp [lastTurn, waiting]
    have rest : job.pending = 0 := by simp [pending, waiting]
    refine .during begun ?_ ?_ ?_
    · rw [Turn.yieldOf_append_singleton, nothing.yield_eq, Yield.append_empty]
      cases soFar with
      | ended whole => exact .stopped whole
    · intro turn member
      rcases List.mem_append.mp member with old | new
      · exact earlier turn old
      · rw [List.mem_singleton.mp new, nothing.yield_eq]
        exact nothing
    · show (turns ++ [_]).length + 0 ≤ _
      rw [List.length_append, List.length_singleton]
      omega
  | behind begun => exact .behind begun

/-- A start begins the life that was waited for, or one behind it. -/
theorem Stands.launch (stands : Stands context start (Program.linesOf output) turns job)
    {due : Nat} (waiting : job.phase = .waiting due) (lives : job.lives = start.lives)
    (prints : (start.lives start.starts).output = some output)
    (launched : job.Launched scene.shared next after) :
    Stands context start (Program.linesOf output) (turns ++ [⟨job, scene, next, after⟩]) next := by
  cases stands with
  | before starts =>
    obtain ⟨due, ends, phase⟩ := launched.phase
    rw [lives, starts, prints, Option.getD_some] at phase
    have gives : Turn.Gives ⟨job, scene, next, after⟩ ∅ := launched.counted.givesNothing
    refine .during (launched.starts.trans (congrArg (· + 1) starts)) ?_ ?_ ?_
    · rw [Turn.yieldOf_append_singleton, gives.yield_eq, phase]
      exact .launched
    · intro turn member
      rw [List.mem_singleton.mp member, gives.yield_eq]
      exact gives
    · rw [pending, phase]
      show 1 + (2 * (Program.linesOf output).length + 1) ≤ _
      omega
  | never _ stopped => cases waiting.symm.trans stopped
  | during starts =>
    refine .behind ?_
    rw [launched.starts, starts]
    exact Nat.lt_succ_self _
  | behind starts =>
    refine .behind ?_
    rw [launched.starts]
    exact Nat.lt_succ_of_lt starts

theorem Follows.step
    (follows : Follows context start (Program.linesOf output) turns job scene)
    (prints : (start.lives start.starts).output = some output)
    (move : Move job scene next after) :
    Follows context start (Program.linesOf output) (turns ++ [⟨job, scene, next, after⟩]) next
      { scene with shared := after } := by
  have receiver := receiver_of_move move
  have stands := follows.stands
  refine
    { going := follows.going
      opened := fun gone => follows.opened (receiver.symm.trans gone)
      settings := (ProgramJob.spares_of_move move).2.settings.trans follows.settings
      lives := (lives_of_move move).trans follows.lives
      stands := ?_ }
  cases move with
  | told cancelled => cases follows.going.symm.trans cancelled
  | launch waiting reached fits launched =>
    exact stands.launch waiting follows.lives prints (launched_of_launch fits launched)
  | unfit waiting reached beyond => exact stands.unfit waiting (counted_countStart job _)
  | turnedBack _ _ cancelled => cases follows.going.symm.trans cancelled
  | @line due ends piece rest running =>
    obtain ⟨points, unreadable, rejected⟩ := scene.shared.context.takes_takeLine piece
    rw [Context.yieldOf_congr follows.settings] at points unreadable rejected
    -- The counters move now, and the point that the piece gives waits for the next turn.
    refine stands.turn running { context.yieldOf [piece] with points := [] }
      ⟨(List.append_nil _).symm, unreadable, rejected⟩ rfl ?_ ?_
    · intro reads
      exact reads.line points
    · simp only [pending, running, List.length_cons]
      cases (scene.shared.context.takeLine piece).2 with
      | none =>
        show 2 * rest.length + 1 < 2 * (rest.length + 1) + 1
        omega
      | some point =>
        show 2 * rest.length + 2 < 2 * (rest.length + 1) + 1
        omega
  | rejected running refused =>
    -- A point that waits is canonical, so this does not happen while the life is read.
    refine stands.turn running ⟨[], 0, 1⟩ ⟨(List.append_nil _).symm, rfl, rfl⟩ rfl ?_ ?_
    · intro reads
      rw [reads.clean_held] at refused
      cases refused
    · simp [pending, running]
  | @queued _ _ _ point clean _ running cleaned =>
    refine stands.turn running (Yield.ofPoints [clean]) ⟨rfl, rfl, rfl⟩ rfl ?_ ?_
    · intro reads
      rw [reads.clean_held] at cleaned
      rw [← Except.ok.inj cleaned]
      exact reads.queued
    · simp [pending, running]
  | closed running gone => exact absurd gone follows.opened
  | finished running reached gone => exact absurd gone follows.opened
  | ended running reached here =>
    refine stands.turn running ∅ ⟨(List.append_nil _).symm, rfl, rfl⟩ rfl ?_ ?_
    · intro reads
      rw [Yield.append_empty]
      exact .ended reads.all
    · simp [pending, running]

/-- Among others that spare it a job follows. -/
theorem Course.follows {origin : Scene} (course : Course Spared start origin turns job scene)
    (prints : (start.lives start.starts).output = some output)
    (begins : Follows context start (Program.linesOf output) [] start origin) :
    Follows context start (Program.linesOf output) turns job scene := by
  induction course with
  | start => exact begins
  | others _ spared inductionHypothesis => exact inductionHypothesis.others spared
  | step _ _ step inductionHypothesis =>
    exact inductionHypothesis.step prints (move_of_take step)

/-! ### Whole lives -/

/-- What is to be said of the output of a life that has begun, at any moment until the next one
begins. -/
structure ReadsOutput (context : Context) (output : Bytes) (turns : List Turn) (job : ProgramJob)
    (scene : Scene) : Prop where
  /-- The output is cut behind every line feed, and that can be done in one way. -/
  cut : ∀ pieces, Program.Cut output pieces ↔ pieces = Program.linesOf output
  /-- What a turn gives is put behind the points in the queue and added to the counters. -/
  gives : ∀ turn ∈ turns, turn.Gives turn.yield
  /-- Together the turns have given what the first pieces give, but for the point that waits. -/
  soFar : ∃ read rest, read ++ rest = Program.linesOf output ∧
    Turn.yieldOf turns ++ Yield.ofPoints job.held.toList = context.yieldOf read
  /-- When the output is read, they have given what all its pieces give. -/
  whole : job.hasRead = true → Turn.yieldOf turns = context.yieldOf (Program.linesOf output)
  /-- No point of an output is rejected when it is put into the queue. -/
  accepted : ∀ point ∈ (context.yieldOf (Program.linesOf output)).points, point.clean = .ok point
  /-- Until the output is read the job goes on as soon as there is room in the queue. -/
  goesOn : job.hasRead = false → scene.shared.dispatcher.hasRoom = true →
    (job.step? scene.moment scene.shared).isSome = true
  /-- And it takes so many turns at most, and one more where the job ends instead of the next
  start. -/
  few : turns.length ≤ 2 * (Program.linesOf output).length + 2 + job.lastTurn
  /-- Where the output can be divided between two lines, what it gives is what its two parts give,
  each for itself. -/
  parts : ∀ first second, output = first ++ second → Program.IsEnded first →
    context.yieldOf (Program.linesOf output) =
      context.yieldOf (Program.linesOf first) ++ context.yieldOf (Program.linesOf second)

theorem Reads.soFar {given : Yield} (reads : Reads context pieces given job.phase) :
    ∃ read rest, read ++ rest = pieces ∧
      given ++ Yield.ofPoints job.held.toList = context.yieldOf read := by
  unfold held
  generalize job.phase = phase at reads
  cases reads with
  | @reading _ _ _ read rest cut soFar => exact ⟨read, rest, cut, soFar⟩
  | ended whole => exact ⟨pieces, [], List.append_nil _, (Yield.append_empty _).trans whole⟩
  | stopped whole => exact ⟨pieces, [], List.append_nil _, (Yield.append_empty _).trans whole⟩

theorem Reads.whole {given : Yield} (reads : Reads context pieces given job.phase)
    (all : job.hasRead = true) : given = context.yieldOf pieces := by
  cases phase : job.phase with
  | running due ends held rest =>
    rw [hasRead, phase, Bool.and_eq_true, Option.isNone_iff_eq_none, List.isEmpty_iff] at all
    rw [phase] at reads
    obtain ⟨rfl, rfl⟩ := all
    exact reads.all
  | waiting due =>
    rw [phase] at reads
    cases reads with
    | ended whole => exact whole
  | stopped =>
    rw [phase] at reads
    cases reads with
    | stopped whole => exact whole

/-- The output of a life is read line by line, whatever the others do that spare the job. -/
theorem readsOutput_of_course {origin : Scene} {due : Nat} (waiting : start.phase = .waiting due)
    (prints : (start.lives start.starts).output = some output)
    (going : origin.moment.cancelled = false)
    (opened : origin.shared.dispatcher.receiver ≠ .dropped)
    (course : Course Spared start origin turns job scene) (begun : job.starts = start.starts + 1) :
    ReadsOutput origin.shared.context output turns job scene := by
  have follows := course.follows prints
    ⟨going, opened, rfl, rfl, .before rfl waiting⟩
  cases follows.stands with
  | before starts =>
    rw [starts] at begun
    exact absurd begun (Nat.ne_of_lt (Nat.lt_succ_self _))
  | never starts =>
    rw [starts] at begun
    exact absurd begun (Nat.ne_of_lt (Nat.lt_succ_self _))
  | behind starts =>
    rw [begun] at starts
    exact absurd starts (Nat.lt_irrefl _)
  | during _ reads gives few =>
    refine
      { cut := fun pieces => Program.cut_iff
        gives := gives
        soFar := reads.soFar
        whole := reads.whole
        accepted := fun point member => Context.clean_of_mem_yieldOf member
        goesOn := isSome_step_of_not_hasRead
        few := Nat.le_of_add_right_le few
        parts := ?_ }
    intro first second divided ended
    rw [divided, Program.linesOf_append ended, Context.yieldOf_append]

end ProgramJob

/-! ### In a world -/

namespace World

/-- The rest of a world spares the job of a program as long as the consumer does not go. -/
theorem sparesProgram_of_perform {world after : World} {action : Action}
    (performed : world.perform? action = some after) (going : world.cancelled = false)
    (opened : after.dispatcher.receiver ≠ .dropped) (job : ProgramJob) :
    job.Spared world.scene after.scene := by
  have told : after.cancelled = false := (moment_of_perform performed).1.trans going
  cases deed_of_perform performed with
  | work _ step => exact ⟨told, opened, (Job.spares_of_step step).2.settings⟩
  | _ => exact ⟨told, opened, rfl⟩

/-- So it takes a course among others that spare it. -/
theorem Leads.programCourse_spared {start world : World} {past : List Happening}
    (leads : start.Leads past world) (going : start.cancelled = false)
    (opened : ∀ happening ∈ past, happening.after.dispatcher.receiver ≠ .dropped) {place : Nat}
    {job : ProgramJob} (found : start.jobs[place]? = some (.program job)) :
    ∃ next, world.jobs[place]? = some (.program next) ∧
      ProgramJob.Course ProgramJob.Spared job start.scene (Happening.turnsOf place past) next
        world.scene := by
  refine leads.programCourse ProgramJob.Spared found ?_
  intro happening member other job here
  have kept := leads.keeps (fun world => world.cancelled = false)
    (fun _ _ _ told performed => (moment_of_perform performed).1.trans told) going
  obtain ⟨told, performed⟩ := kept.2 happening member
  exact sparesProgram_of_perform performed told (opened happening member) job

end World

namespace ProgramJob

/-- Lines with a point, with a byte that is no text, with nothing, with a metric that cannot be
cleaned, and without a line feed, but with something that is no tag. -/
def probeOutput : Bytes :=
  bytesOf "cpu 1 5 env=dev\n" ++ [0xFF, 10, 10] ++ bytesOf "? 2 6\n" ++ bytesOf "mem 3 7 x"

/-- A world with a program that prints them, and room for a single point. -/
def probeWorld : World :=
  World.start ⟨[.program ⟨"probe", 0⟩]⟩ (Context.new "web01") Surroundings.none
    (fun _ _ => ⟨some probeOutput, 1⟩) 1 0 (Consumer.start 0 none 0) 0 (40 * second)

/-- What happens in it until the output is read. -/
def probeActions : List Action :=
  [.work 0, .work 0, .work 0, .work 0, .work 0, .work 0, .work 0, .receive, .work 0]

/-- The job of a program at a place. -/
def at? (place : Nat) (world : World) : Option ProgramJob :=
  match world.jobs[place]? with
  | some (.program job) => some job
  | _ => none

/-- Two of the five lines give points, three are counted as unreadable and one as rejected. -/
theorem readsOutput_of_probe :
    ∃ turns job scene, ReadsOutput probeWorld.shared.context probeOutput turns job scene ∧
      job.hasRead = true ∧ (Turn.yieldOf turns).points.map (·.metric) = ["cpu", "mem"] ∧
      (Turn.yieldOf turns).unreadable = 3 ∧ (Turn.yieldOf turns).rejected = 1 := by
  have seen : (probeWorld.follow? probeActions).map (fun result =>
      (((at? 0 result.2).map fun job => (job.starts, job.hasRead)),
        (Turn.yieldOf (Happening.turnsOf 0 result.1)).points.map (·.metric),
        (Turn.yieldOf (Happening.turnsOf 0 result.1)).unreadable,
        (Turn.yieldOf (Happening.turnsOf 0 result.1)).rejected,
        decide (∀ happening ∈ result.1, happening.after.dispatcher.receiver ≠ .dropped))) =
      some (some (1, true), ["cpu", "mem"], 3, 1, true) := by
    decide +kernel
  obtain ⟨⟨past, world⟩, followed, same⟩ := Option.map_eq_some_iff.mp seen
  simp only [Prod.mk.injEq] at same
  obtain ⟨state, points, unreadable, rejected, opened⟩ := same
  have leads : probeWorld.Leads past world := World.Leads.start.follow followed
  have found : probeWorld.jobs[0]? =
      some (.program (start ⟨"probe", 0⟩ (fun _ => ⟨some probeOutput, 1⟩) 0)) := rfl
  have here : probeWorld.scene.shared.dispatcher.receiver ≠ .dropped := by decide
  obtain ⟨job, there, course⟩ :=
    leads.programCourse_spared rfl (of_decide_eq_true opened) found
  rw [at?, there, Option.map_some, Option.some.injEq, Prod.mk.injEq] at state
  exact ⟨_, _, _, readsOutput_of_course rfl rfl rfl here course state.1, state.2, points,
    unreadable, rejected⟩

end ProgramJob

end Telemetry
