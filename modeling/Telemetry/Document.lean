/-
This file holds documents from which settings are read, and what values their parts may stand for.

A scalar that was written without quotes may stand for text, for a number or for a flag, as it is
asked for; it stands for text with its own spelling. Quoted text stands for text alone. A record is
written as a mapping; fields that it does not have are passed over, and a field must not come twice.
Where nothing at all was written it stands for an empty list, mapping or record.
-/

import Telemetry.Table
import Telemetry.Text.Integer

namespace Telemetry

/-- A document, or a part of one. -/
inductive Document where
  | null
  | flag (value : Bool)
  | number (value : Int)
  /-- A scalar without quotes. -/
  | plain (text : String)
  | quoted (text : String)
  /-- A list. One that is positional may stand for a record as well, by the order of the fields. -/
  | list (positional : Bool) (items : List Document)
  | mapping (entries : List (Document × Document))
  /-- What no setting can be read from: a fraction, or a reference to what it is a part of. -/
  | unusable

namespace Document

/-- A document in which nothing was written. -/
def nothing : Document := .plain ""

instance : Inhabited Document := ⟨nothing⟩

/-- Reads text. -/
def text? : Document → Option String
  | .plain text => some text
  | .quoted text => some text
  | _ => none

/-- Reads a flag. -/
def flag? : Document → Option Bool
  | .flag value => some value
  | .plain text =>
    if text ∈ ["true", "True", "TRUE"] then some true
    else if text ∈ ["false", "False", "FALSE"] then some false
    else none
  | _ => none

/-! ### Counts -/

/-- Reads a count in decimal. A decimal number of several digits does not begin with zero. -/
def decimalCount? (digits : List Char) : Option Nat :=
  match digits with
  | '0' :: _ :: _ => none
  | _ => do fittingUInt64? (← numberIn? 10 digits)

/-- Reads a count, with a plus sign or none, in decimal, hexadecimal, octal or binary. -/
def countOf? (text : String) : Option Nat :=
  let digits := match text.toList with
    | '+' :: rest => rest
    | whole => whole
  match digits with
  | '0' :: 'x' :: rest => do fittingUInt64? (← numberIn? 16 rest)
  | '0' :: 'o' :: rest => do fittingUInt64? (← numberIn? 8 rest)
  | '0' :: 'b' :: rest => do fittingUInt64? (← numberIn? 2 rest)
  | _ => decimalCount? digits

/-- Reads a count. -/
def count? : Document → Option Nat
  | .number value => if value < 0 then none else fittingUInt64? value.natAbs
  | .plain text => countOf? text
  | _ => none

/-! ### What may be missing -/

/-- Whether a scalar without quotes says that there is no value. -/
def saysNone (text : String) : Bool := text ∈ ["", "null", "Null", "NULL", "~"]

/-- Reads text that may be missing. -/
def optionalText? : Document → Option (Option String)
  | .null => some none
  | .plain text => if saysNone text then some none else some (some text)
  | document => document.text?.map some

/-! ### Lists, mappings and records -/

/-- Reads a list. -/
def list? : Document → Option (List Document)
  | .list _ items => some items
  | .plain "" => some []
  | _ => none

/-- Reads a list of texts. -/
def texts? (document : Document) : Option (List String) := do (← document.list?).mapM text?

/-- Reads a mapping. -/
def entries? : Document → Option (List (Document × Document))
  | .mapping entries => some entries
  | .plain "" => some []
  | _ => none

/-- Reads a table of texts. Of two entries with the same key the later one counts. -/
def table? (document : Document) : Option (Table String) := do
  let entries ← (← document.entries?).mapM fun (key, value) => do
    return (← key.text?, ← value.text?)
  return Table.ofList entries

/-- One more field of a record with the given names. -/
def addField (names : List String) (fields : Table Document) (entry : Document × Document) :
    Option (Table Document) := do
  let name ← entry.1.text?
  if !names.contains name then some fields
  else if fields.contains name then none
  else some (fields.insert name entry.2)

/-- Reads the fields of a record with the given names. -/
def record? (names : List String) : Document → Option (Table Document)
  | .list true items =>
    if items.length ≤ names.length then some (Table.ofList (names.zip items)) else none
  | document => do (← document.entries?).foldlM (addField names) Table.empty

/-- A field of a record, which has a default. -/
def fieldOr {α : Type} (fields : Table Document) (name : String) (read : Document → Option α)
    (default : α) : Option α :=
  match fields.get? name with
  | none => some default
  | some document => read document

/-- A field that a record must have. -/
def field? {α : Type} (fields : Table Document) (name : String) (read : Document → Option α) :
    Option α := do read (← fields.get? name)

end Document

end Telemetry
