/-
This file reads the addresses at which the counters may be served.

An address is a host and a port with a colon between them. Without a host it means all addresses of
the machine. A service can be opened on addresses that belong to the machine: the one that stands
for all of them, and those of the loop back to itself.
-/

import Telemetry.Text.Integer
import Telemetry.Text.Words

namespace Telemetry

/-- An address: a host and a port on it. -/
structure Address where
  host : String
  port : Nat
  deriving DecidableEq, Repr

namespace Address

/-- The host that stands for all addresses of a machine. -/
def everywhere : String := "0.0.0.0"

/-- What stands before and after the last colon. -/
def splitAtLastColon (text : String) : Option (String × String) :=
  (splitAtFirst ':' text.toList.reverse).map fun (after, before) =>
    (String.ofList before.reverse, String.ofList after.reverse)

/-- Reads a port, a number of sixteen bits. -/
def port? (text : String) : Option Nat := do
  let number ← uint64? text
  if number < 65536 then some number else none

/-- Reads an address. -/
def ofText? (text : String) : Option Address := do
  let whole := if text.startsWith ":" then everywhere ++ text else text
  let (host, port) ← splitAtLastColon whole
  return ⟨host, ← port? port⟩

/-- Reads a number of eight bits in decimal, with at most three digits and no zero before others. -/
def octet? (digits : List Char) : Option Nat := do
  let number ← naturalOf? digits
  if number < 256 && digits.length ≤ 3 && (digits.length = 1 || digits.head? ≠ some '0') then
    some number
  else none

/-- Reads a host that is given by four numbers. -/
def octets? (host : String) : Option (List Nat) := do
  let octets ← (piecesWhere (· == '.') host.toList).mapM octet?
  if octets.length = 4 then some octets else none

/-- Whether a host belongs to every machine. -/
def isLocal (host : String) : Bool :=
  match octets? host with
  | some octets => octets.head? = some 127 || octets = [0, 0, 0, 0]
  | none => host ∈ ["localhost", "[::]", "[::1]"]

/-- Whether the counters can be served at an address. The empty one asks for no service. -/
def isUsable (text : String) : Bool :=
  text = "" || (ofText? text).any fun address => isLocal address.host

end Address

end Telemetry
