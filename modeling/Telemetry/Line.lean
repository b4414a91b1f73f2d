/-
This file reads the line protocol of external programs.

A line is a metric, a timestamp in seconds, a value, and any number of tags, between blanks. A tag
token may hold several pairs between commas. The token `host=` asks for a point without the tag for
the host. A token that is no tag ends the reading of tags: the point keeps the tags before it, and
the line is reported.
-/

import Telemetry.Context
import Telemetry.Tags.Query
import Telemetry.Text.Utf8

namespace Telemetry

/-- Why a line, or the rest of its tags, is not read. -/
inductive LineError where
  | tooFewFields (line : String)
  | timestamp (field : String)
  | value (field : String)
  | tag (token : String) (refusal : Refusal)
  | encoding (line : String)
  | invalid (refusal : Refusal)
  deriving DecidableEq, Repr

/-- The wording of a line error. -/
def LineError.message : LineError → String
  | .tooFewFields line => "bad line: " ++ quoted line
  | .timestamp field => "bad timestamp " ++ quoted field
  | .value field => "bad value " ++ quoted field
  | .tag token refusal => "bad tag " ++ quoted token ++ ": " ++ refusal.message
  | .encoding line => "line is not valid UTF-8: " ++ quoted line
  | .invalid refusal => "invalid datapoint: " ++ refusal.message

/-- What a line says: a canonical point, and the token that ended the tags early if there is one. -/
structure Line where
  point : Point
  tagError : Option LineError
  deriving DecidableEq

namespace Line

/-- Reads one token of tags. The forms of a query, stars and alternatives, are not accepted. -/
def readToken (token : String) : Except Refusal TagSet :=
  match readTags token with
  | .error refusal => .error refusal
  | .ok tags =>
    match tags.entries.find? fun pair => !isCanonical pair.2 with
    | some pair => .error (.invalidCharacter pair.2)
    | none => .ok tags

/-- The tags of a token: those it lists, or the empty host for the token that asks for none. -/
def tagsOfToken (token : String) : Except Refusal TagSet :=
  if token = hostTag ++ "=" then .ok (Table.empty.insert hostTag "") else readToken token

/-- Reads tokens from left to right up to the first one that is no tag. A later tag replaces an
earlier one with the same key. -/
def readTokens (tags : TagSet) : List String → TagSet × Option LineError
  | [] => (tags, none)
  | token :: rest =>
    match tagsOfToken token with
    | .ok more => readTokens (tags.merge more) rest
    | .error refusal => (tags, some (.tag token refusal))

/-- Reads the fields of a line. The second argument is the line itself, for the report. -/
def readFields (context : Context) (line : String) : List String → Except LineError Line
  | metric :: timestamp :: value :: tokens =>
    match int64? timestamp with
    | none => .error (.timestamp timestamp)
    | some seconds =>
      match Value.ofText value with
      | .error _ => .error (.value value)
      | .ok number =>
        let (tags, tagError) := readTokens ∅ tokens
        match context.canonicalize metric seconds number tags with
        | .error refusal => .error (.invalid refusal)
        | .ok point => .ok ⟨point, tagError⟩
  | _ => .error (.tooFewFields line)

/-- Reads a line of text. -/
def read (context : Context) (line : String) : Except LineError Line :=
  readFields context (trim line) (words (trim line))

/-- Reads a line of bytes. -/
def readBytes (context : Context) (bytes : Bytes) : Except LineError Line :=
  match Utf8.text? bytes with
  | none => .error (.encoding (trim (Utf8.lossy bytes)))
  | some line => read context line

@[simp] theorem readTokens_nil (tags : TagSet) : readTokens tags [] = (tags, none) := rfl

end Line

end Telemetry
