/-
This file builds the document of a YAML stream from its tokens.

A stream holds one document at most; without one nothing was written. An anchor names the part of
the document that follows it, and an alias stands for the part that its name was last given to. A
part cannot be used inside of itself.
-/

import Telemetry.Document
import Telemetry.Yaml.Layout

namespace Telemetry

namespace Yaml

/-- The parts of a document that have names, latest first. A part that is not complete has no
document yet. -/
abbrev Anchors := List (String × Option Document)

/-- Gives a name to a part that begins. -/
def Anchors.begin (anchors : Anchors) : Option String → Anchors
  | none => anchors
  | some name => (name, none) :: anchors

/-- Completes the part that has begun last under a name and is not complete yet. -/
def Anchors.completeNamed (name : String) (document : Document) : Anchors → Anchors
  | [] => []
  | (other, known) :: rest =>
    if other = name && known.isNone then (name, some document) :: rest
    else (other, known) :: Anchors.completeNamed name document rest

/-- Completes a part, if it has a name. -/
def Anchors.complete (anchors : Anchors) (name : Option String) (document : Document) : Anchors :=
  match name with
  | none => anchors
  | some name => anchors.completeNamed name document

/-- What an alias stands for. -/
def Anchors.find? (anchors : Anchors) (name : String) : Option Document :=
  (anchors.lookup name).map fun document => document.getD .unusable

/-- What stands before a node: its anchor and its tag, in either order. -/
structure Properties where
  anchor : Option String
  tag : Option String
  deriving DecidableEq, Repr

/-- Reads what stands before a node. -/
def properties : List Token → Properties × List Token
  | .anchor name :: .tag handle :: rest => (⟨some name, some handle⟩, rest)
  | .tag handle :: .anchor name :: rest => (⟨some name, some handle⟩, rest)
  | .anchor name :: rest => (⟨some name, none⟩, rest)
  | .tag handle :: rest => (⟨none, some handle⟩, rest)
  | rest => (⟨none, none⟩, rest)

theorem length_properties_le (tokens : List Token) :
    (properties tokens).2.length ≤ tokens.length := by
  unfold properties
  split <;> simp only [List.length_cons] <;> omega

/-- Where a node stands, which decides what it may be: in a flow collection, in a block, or in a
block mapping, whose sequences need no deeper indentation. -/
inductive Setting where
  | flow
  | block
  | mapping
  deriving DecidableEq, Repr

/-- What was read, the named parts after it, and the tokens that are left. -/
structure Parsed (α : Type) where
  value : α
  anchors : Anchors
  rest : List Token

/-- Whether a token shows that nothing was written where a node might stand. -/
def endsBefore (stops : List Token) : List Token → Bool
  | [] => false
  | token :: _ => stops.contains token

mutual

/-- Reads a node. The handles are those that its tags may have. -/
def node (handles : List String) (setting : Setting) (anchors : Anchors) (tokens : List Token) :
    Option (Parsed Document) :=
  match tokens with
  | .alias name :: rest => (anchors.find? name).map fun document => ⟨document, anchors, rest⟩
  | text =>
    let before := (properties text).1
    if before.tag.all handles.contains then
      (content handles setting (before ≠ ⟨none, none⟩) (anchors.begin before.anchor)
        (properties text).2).map fun parsed =>
          { parsed with anchors := parsed.anchors.complete before.anchor parsed.value }
    else none
  termination_by (tokens.length, 2)
  decreasing_by
    rcases Nat.lt_or_eq_of_le (length_properties_le text) with shorter | same
    · exact Prod.Lex.left _ _ shorter
    · rw [same]
      exact Prod.Lex.right _ (by decide)

/-- Reads a node without what stands before it. Where something does, the node itself may be
missing. -/
def content (handles : List String) (setting : Setting) (mayMiss : Bool) (anchors : Anchors)
    (tokens : List Token) : Option (Parsed Document) :=
  match tokens with
  | .scalar true text :: rest => some ⟨.plain text, anchors, rest⟩
  | .scalar false text :: rest => some ⟨.quoted text, anchors, rest⟩
  | .flowSequence :: rest =>
    (flowItems handles anchors rest).map fun parsed =>
      { parsed with value := .list false parsed.value }
  | .flowMapping :: rest =>
    (flowEntries handles anchors rest).map fun parsed =>
      { parsed with value := .mapping parsed.value }
  | .blockSequence :: rest =>
    if setting = .flow then none
    else
      (blockItems handles anchors rest).map fun parsed =>
        { parsed with value := .list false parsed.value }
  | .blockMapping :: rest =>
    if setting = .flow then none
    else
      (blockEntries handles anchors rest).map fun parsed =>
        { parsed with value := .mapping parsed.value }
  | .entry :: rest =>
    if setting = .mapping then
      (bareItems handles anchors (.entry :: rest)).map fun parsed =>
        { parsed with value := .list false parsed.value }
    else if mayMiss then some ⟨.nothing, anchors, tokens⟩
    else none
  | _ => if mayMiss then some ⟨.nothing, anchors, tokens⟩ else none
  termination_by (tokens.length, 1)

/-- Reads a node that may be missing before some tokens. -/
def nodeBefore (handles : List String) (setting : Setting) (stops : List Token)
    (anchors : Anchors) (tokens : List Token) : Option (Parsed Document) :=
  if endsBefore stops tokens then some ⟨.nothing, anchors, tokens⟩
  else node handles setting anchors tokens
  termination_by (tokens.length, 3)

/-- Reads the entries of a block sequence. -/
def blockItems (handles : List String) (anchors : Anchors) (tokens : List Token) :
    Option (Parsed (List Document)) :=
  match tokens with
  | .blockEnd :: rest => some ⟨[], anchors, rest⟩
  | .entry :: rest =>
    match nodeBefore handles .block [.entry, .blockEnd] anchors rest with
    | none => none
    | some item =>
      if item.rest.length ≤ rest.length then
        (blockItems handles item.anchors item.rest).map fun parsed =>
          { parsed with value := item.value :: parsed.value }
      else none
  | _ => none
  termination_by (tokens.length, 0)

/-- Reads the entries of a block sequence that is not indented. -/
def bareItems (handles : List String) (anchors : Anchors) (tokens : List Token) :
    Option (Parsed (List Document)) :=
  match tokens with
  | .entry :: rest =>
    match nodeBefore handles .block [.entry, .key, .value, .blockEnd] anchors rest with
    | none => none
    | some item =>
      if item.rest.length ≤ rest.length then
        (bareItems handles item.anchors item.rest).map fun parsed =>
          { parsed with value := item.value :: parsed.value }
      else none
  | _ => some ⟨[], anchors, tokens⟩
  termination_by (tokens.length, 0)

/-- Reads the entries of a block mapping. -/
def blockEntries (handles : List String) (anchors : Anchors) (tokens : List Token) :
    Option (Parsed (List (Document × Document))) :=
  match tokens with
  | .blockEnd :: rest => some ⟨[], anchors, rest⟩
  | .key :: rest =>
    match nodeBefore handles .mapping [.key, .value, .blockEnd] anchors rest with
    | none => none
    | some key =>
      if key.rest.length ≤ rest.length then
        match mappedValue handles .mapping [.key, .value, .blockEnd] key.anchors key.rest with
        | none => none
        | some value =>
          if value.rest.length ≤ key.rest.length then
            (blockEntries handles value.anchors value.rest).map fun parsed =>
              { parsed with value := (key.value, value.value) :: parsed.value }
          else none
      else none
  | _ => none
  termination_by (tokens.length, 0)

/-- Reads the value of a key, which is missing where no colon follows. -/
def mappedValue (handles : List String) (setting : Setting) (stops : List Token)
    (anchors : Anchors) (tokens : List Token) : Option (Parsed Document) :=
  match tokens with
  | .value :: rest => nodeBefore handles setting stops anchors rest
  | _ => some ⟨.nothing, anchors, tokens⟩
  termination_by (tokens.length, 0)

/-- Reads the items of a flow sequence. A key in it begins a mapping of one entry. -/
def flowItems (handles : List String) (anchors : Anchors) (tokens : List Token) :
    Option (Parsed (List Document)) :=
  match tokens with
  | .flowSequenceEnd :: rest => some ⟨[], anchors, rest⟩
  | .key :: rest =>
    match pair handles anchors rest with
    | none => none
    | some item =>
      if item.rest.length ≤ rest.length then
        (moreFlowItems handles item.anchors item.rest).map fun parsed =>
          { parsed with value := .mapping [item.value] :: parsed.value }
      else none
  | text =>
    match node handles .flow anchors text with
    | none => none
    | some item =>
      if item.rest.length < text.length then
        (moreFlowItems handles item.anchors item.rest).map fun parsed =>
          { parsed with value := item.value :: parsed.value }
      else none
  termination_by (tokens.length, 3)

/-- Reads the items of a flow sequence after one of them. -/
def moreFlowItems (handles : List String) (anchors : Anchors) (tokens : List Token) :
    Option (Parsed (List Document)) :=
  match tokens with
  | .flowSequenceEnd :: rest => some ⟨[], anchors, rest⟩
  | .separator :: rest => flowItems handles anchors rest
  | _ => none
  termination_by (tokens.length, 0)

/-- Reads the one entry of a mapping in a flow sequence. -/
def pair (handles : List String) (anchors : Anchors) (tokens : List Token) :
    Option (Parsed (Document × Document)) :=
  match nodeBefore handles .flow [.value, .separator, .flowSequenceEnd] anchors tokens with
  | none => none
  | some key =>
    if _shorter : key.rest.length ≤ tokens.length then
      (mappedValue handles .flow [.separator, .flowSequenceEnd] key.anchors key.rest).map
        fun value => { value with value := (key.value, value.value) }
    else none
  termination_by (tokens.length, 4)
  decreasing_by
    · exact Prod.Lex.right _ (by decide)
    · rcases Nat.lt_or_eq_of_le _shorter with less | same
      · exact Prod.Lex.left _ _ less
      · rw [same]
        exact Prod.Lex.right _ (by decide)

/-- Reads the entries of a flow mapping. A key may stand without a value. -/
def flowEntries (handles : List String) (anchors : Anchors) (tokens : List Token) :
    Option (Parsed (List (Document × Document))) :=
  match tokens with
  | .flowMappingEnd :: rest => some ⟨[], anchors, rest⟩
  | .key :: rest =>
    match nodeBefore handles .flow [.value, .separator, .flowMappingEnd] anchors rest with
    | none => none
    | some key =>
      if key.rest.length ≤ rest.length then
        match mappedValue handles .flow [.separator, .flowMappingEnd] key.anchors key.rest with
        | none => none
        | some value =>
          if value.rest.length ≤ key.rest.length then
            (moreFlowEntries handles value.anchors value.rest).map fun parsed =>
              { parsed with value := (key.value, value.value) :: parsed.value }
          else none
      else none
  | text =>
    match node handles .flow anchors text with
    | none => none
    | some key =>
      if key.rest.length < text.length then
        (moreFlowEntries handles key.anchors key.rest).map fun parsed =>
          { parsed with value := (key.value, .nothing) :: parsed.value }
      else none
  termination_by (tokens.length, 3)

/-- Reads the entries of a flow mapping after one of them. -/
def moreFlowEntries (handles : List String) (anchors : Anchors) (tokens : List Token) :
    Option (Parsed (List (Document × Document))) :=
  match tokens with
  | .flowMappingEnd :: rest => some ⟨[], anchors, rest⟩
  | .separator :: rest => flowEntries handles anchors rest
  | _ => none
  termination_by (tokens.length, 0)

end

/-! ### Documents -/

/-- The directives before a document, and what follows. -/
def directives : List Token → List Directive × List Token
  | .directive directive :: rest =>
    let (others, after) := directives rest
    (directive :: others, after)
  | rest => ([], rest)

/-- Whether a directive states a version that can be read. -/
def isReadable : Directive → Bool
  | .version major minor => major == 1 && (minor == 1 || minor == 2)
  | .handle _ => true

/-- What a directive must not say twice. -/
def Directive.subject : Directive → Option String
  | .version _ _ => none
  | .handle name => some name

/-- The handles that are declared by directives, which must be readable and must not repeat
themselves. -/
def declared? (directives : List Directive) : Option (List String) :=
  let subjects := directives.map Directive.subject
  if directives.all isReadable && decide subjects.Nodup then
    some (subjects.filterMap id)
  else none

/-- The handles that need no declaration: that of tags in angle brackets, and the two usual ones. -/
def knownHandles : List String := ["", "!", "!!"]

/-- Reads a document and what follows it. -/
def document (tokens : List Token) : Option (Document × List Token) := do
  let (directives, rest) := directives tokens
  let handles := knownHandles ++ (← declared? directives)
  match rest with
  | .documentStart :: rest =>
    match rest with
    | [] => return (.nothing, [])
    | .directive _ :: _ => return (.nothing, rest)
    | .documentStart :: _ => return (.nothing, rest)
    | .documentEnd :: _ => return (.nothing, rest)
    | _ =>
      let parsed ← node handles .block [] rest
      return (parsed.value, parsed.rest)
  | [] => if directives.isEmpty then return (.nothing, []) else none
  | _ =>
    if directives.isEmpty then
      let parsed ← node handles .block [] rest
      return (parsed.value, parsed.rest)
    else none

/-- Reads the one document of a stream. -/
def document? (text : String) : Option Document := do
  let (document, rest) ← document (← tokens? text)
  if rest.all (· = .documentEnd) then some document else none

end Yaml

end Telemetry
