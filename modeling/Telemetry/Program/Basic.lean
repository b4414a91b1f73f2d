/-
This file holds external programs and what their output means.

A program writes lines of the line protocol. What it writes is cut after every line feed, and a last
piece without one counts as a line too. A line that cannot be read is counted and skipped, and so is
one whose point is rejected; neither touches any other line.
-/

import Telemetry.Line

namespace Telemetry

/-- An external program: where it is, and the time between two of its starts. An interval of zero
stands for the common frequency. -/
structure Program where
  path : String
  interval : Nat
  deriving DecidableEq, Repr

/-- One life of a program: what it prints, unless it could not be started, and how long it lasts. -/
structure Life where
  output : Option Bytes
  duration : Nat
  deriving DecidableEq, Repr

namespace Program

/-- The name of a program is its path. -/
def name (program : Program) : String := program.path

/-- The time between two starts of a program. -/
def period (program : Program) (context : Context) : Nat :=
  if program.interval = 0 then context.frequency else program.interval

/-- The lines of an output, each with the line feed that ends it. -/
def linesOf : Bytes → List Bytes
  | [] => []
  | byte :: rest =>
    if byte = 10 then [byte] :: linesOf rest
    else
      match linesOf rest with
      | [] => [[byte]]
      | line :: others => (byte :: line) :: others

@[simp] theorem linesOf_nil : linesOf [] = [] := rfl

/-- Cutting loses nothing. -/
theorem flatten_linesOf (output : Bytes) : (linesOf output).flatten = output := by
  induction output with
  | nil => rfl
  | cons byte rest inductionHypothesis =>
    simp only [linesOf]
    split
    · simp [inductionHypothesis]
    · split
      · rename_i empty
        rw [empty] at inductionHypothesis
        simp [← inductionHypothesis]
      · rename_i line others cut
        rw [cut] at inductionHypothesis
        simp [← inductionHypothesis]

end Program

/-- What a line of a program means: its point, if it has one, and what is counted about it. -/
def Context.takeLine (context : Context) (line : Bytes) : Context × Option Point :=
  match Line.readBytes context line with
  | .error (.invalid _) => (context.reject, none)
  | .error _ => ({ context with health := context.health.countUnreadable }, none)
  | .ok read =>
    match read.tagError with
    | none => (context, some read.point)
    | some _ => ({ context with health := context.health.countUnreadable }, some read.point)

/-- The points of lines, in order. -/
def Context.takeLines (context : Context) : List Bytes → Context × List Point
  | [] => (context, [])
  | line :: rest =>
    let (context, point) := context.takeLine line
    let (context, points) := context.takeLines rest
    (context, point.toList ++ points)

end Telemetry
