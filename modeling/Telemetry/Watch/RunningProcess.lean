/-
This file holds a process as one listing of the system shows it.

The system gives a command line as bytes with a zero byte between its arguments. The bytes are
decoded as a whole, with replacement characters for what is no text, and cut afterwards. The first
piece is the command; the arguments follow each other without a separator.
-/

import Telemetry.Text.Utf8
import Telemetry.Text.Words

namespace Telemetry

/-- A process as one listing shows it. -/
structure RunningProcess where
  pid : Nat
  command : String
  arguments : String
  deriving DecidableEq, Repr

/-- The process with a command line. There is none where the command is empty, which is so for the
threads of the system itself. -/
def RunningProcess.ofCommandLine (pid : Nat) (bytes : Bytes) : Option RunningProcess :=
  match pieces '\x00' (Utf8.lossy bytes) with
  | [] => none
  | command :: arguments =>
    if command = "" then none else some ⟨pid, command, String.join arguments⟩

end Telemetry
