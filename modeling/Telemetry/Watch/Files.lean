/-
This file reads what the system's files say about one process.

Three of them are text. The line of its state has the command in brackets, which may hold any
character, so the command ends at the last closing bracket. The counters of its input and output
stand on lines of two words, the limits on lines in columns, of which one is about open files. The
fourth is the directory of its open files, of which the count is taken.
-/

import Telemetry.Field
import Telemetry.Text.Words

namespace Telemetry

/-- What the system's files say about a process. What could not be read is missing. -/
structure ProcessFiles where
  state : Option String
  io : Option String
  limits : Option String
  openFiles : Option Nat
  deriving DecidableEq, Repr

/-- What the files say about a process when all of them could be read. -/
structure ProcessReport where
  state : String
  io : String
  limits : String
  openFiles : Nat
  deriving DecidableEq, Repr

/-- The report of files that could all be read. -/
def ProcessFiles.report? (files : ProcessFiles) : Option ProcessReport :=
  match files.state, files.io, files.limits, files.openFiles with
  | some state, some io, some limits, some openFiles => some ⟨state, io, limits, openFiles⟩
  | _, _, _, _ => none

/-- Why a report is refused. -/
inductive ReportFailure where
  | stateTooShort
  | ioTooShort
  | number (text : String) (refusal : Refusal)
  deriving DecidableEq, Repr

/-- The wording of a failure. -/
def ReportFailure.message : ReportFailure → String
  | .stateTooShort => "stat too short"
  | .ioTooShort => "io too short"
  | .number text refusal => "parsing " ++ quoted text ++ ": " ++ refusal.message

namespace ProcessReport

/-! ### The line of the state -/

/-- What stands before and after the last occurrence of a separator. -/
def splitAtLast (separator : Char) (text : List Char) : Option (List Char × List Char) :=
  (splitAtFirst separator text.reverse).map fun (after, before) => (before.reverse, after.reverse)

/-- The fields of the line: what stands before the first opening bracket, the command inside the
brackets as it is, and the words behind the last closing one. -/
def stateFields? (text : String) : Option (List String) :=
  match splitAtFirst '(' text.toList with
  | none => none
  | some (before, rest) =>
    match splitAtLast ')' rest with
    | none => none
    | some (command, after) =>
      some (String.ofList (trimmed before) :: String.ofList command ::
        (wordsOf after).map String.ofList)

/-! ### Counters and limits -/

/-- The second word of a line of two words. -/
def secondOfTwo? (line : String) : Option String :=
  match words line with
  | [_, second] => some second
  | _ => none

/-- The numbers of the counters, in the order of their lines. -/
def ioFields (text : String) : List String := (lines text).filterMap secondOfTwo?

/-- The soft and the hard limit that a line sets for open files. There is none where the soft limit
is lifted. -/
def limitsOfLine? (line : String) : Option (String × String) :=
  match words line with
  | ["Max", "open", "files", soft, hard, _] =>
    if soft = "unlimited" then none else some (soft, hard)
  | _ => none

/-- The limits for open files that the first line about them sets. -/
def openFileLimits? (text : String) : Option (String × String) :=
  (lines text).findSome? limitsOfLine?

/-! ### Readings -/

/-- Tags with one more that tells the readings of one metric apart. -/
def typed (tags : TagSet) (type : String) : TagSet := tags.insert "type" type

/-- The fields of the limits. -/
def limitFields (tags : TagSet) : Option (String × String) → List Field
  | none => []
  | some (soft, hard) =>
    [⟨"linux.proc.num_fds_slim", soft, tags,
      Hint.gauge .files "Soft limit on open file descriptors."⟩,
     ⟨"linux.proc.num_fds_hlim", hard, tags,
      Hint.gauge .files "Hard limit on open file descriptors."⟩]

/-- The fields of the state, from the field's number on the line. -/
def stateReadings (tags : TagSet) (field : Nat → String) : List Field :=
  [⟨"linux.proc.cpu", field 13, typed tags "user",
    Hint.counter .percent "Time this process has been scheduled in user mode."⟩,
   ⟨"linux.proc.cpu", field 14, typed tags "system",
    Hint.counter .percent "Time this process has been scheduled in kernel mode."⟩,
   ⟨"linux.proc.mem.fault", field 9, typed tags "minflt",
    Hint.counter .fault "Minor faults that did not require loading a page from disk."⟩,
   ⟨"linux.proc.mem.fault", field 11, typed tags "majflt",
    Hint.counter .fault "Major faults that required loading a page from disk."⟩,
   ⟨"linux.proc.mem.virtual", field 22, tags, Hint.gauge .bytes "Virtual memory size."⟩,
   ⟨"linux.proc.mem.rss", field 23, tags, Hint.gauge .page "Resident set size in pages."⟩]

/-- The fields of the counters, from the counter's number in the file. -/
def ioReadings (tags : TagSet) (field : Nat → String) : List Field :=
  [⟨"linux.proc.char_io", field 0, typed tags "read",
    Hint.counter .bytes "Bytes passed to read(2) and similar calls."⟩,
   ⟨"linux.proc.char_io", field 1, typed tags "write",
    Hint.counter .bytes "Bytes passed to write(2) and similar calls."⟩,
   ⟨"linux.proc.syscall", field 2, typed tags "read",
    Hint.counter .systemCall "Read I/O system calls."⟩,
   ⟨"linux.proc.syscall", field 3, typed tags "write",
    Hint.counter .systemCall "Write I/O system calls."⟩,
   ⟨"linux.proc.io_bytes", field 4, typed tags "read",
    Hint.counter .bytes "Bytes fetched from the storage layer."⟩,
   ⟨"linux.proc.io_bytes", field 5, typed tags "write",
    Hint.counter .bytes "Bytes sent to the storage layer."⟩]

/-- The reading of the count of open files. -/
def openFilesReading (tags : TagSet) (count : Nat) : Reading :=
  ⟨"linux.proc.num_fds", Value.ofNat count, tags, Hint.gauge .files "Open file descriptors."⟩

/-- The fields of a report in the order in which they are read, for a process with these tags. -/
def fields (report : ProcessReport) (tags : TagSet) : Except ReportFailure (List Field) :=
  match (stateFields? report.state).filter fun fields => 24 ≤ fields.length with
  | none => .error .stateTooShort
  | some state =>
    let io := ioFields report.io
    if io.length < 6 then .error .ioTooShort
    else
      .ok (limitFields tags (openFileLimits? report.limits) ++
        stateReadings tags (state.getD · "") ++ ioReadings tags (io.getD · ""))

/-- The points of a report. -/
def points (report : ProcessReport) (context : Context) (timestamp : Int64) (tags : TagSet) :
    Context × Except ReportFailure (List Point) :=
  match report.fields tags with
  | .error failure => (context, .error failure)
  | .ok fields =>
    match context.addFields [] timestamp fields with
    | (context, .error unreadable) =>
      (context, .error (.number unreadable.field.text unreadable.refusal))
    | (context, .ok batch) =>
      let (context, batch) := context.add batch timestamp (openFilesReading tags report.openFiles)
      (context, .ok batch)

end ProcessReport

end Telemetry
