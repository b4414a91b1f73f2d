/-
This file turns a YAML stream into its tokens.

Indentation is kept as a stack of columns: a deeper one begins a block, a shallower one ends blocks.
That something is the key of a mapping shows only by the colon after it. So wherever a key may
begin a place is left open among the tokens, and the colon fills it, with the beginning of a block
where the key is deeper than what encloses it. A key has to end on its line, within 1024 characters,
and where the indentation says that a key stands its colon must come.
-/

import Telemetry.Yaml.Token

namespace Telemetry

namespace Yaml

/-- A place where a key may begin, and the slot among the tokens that is left open for it. -/
structure Candidate where
  /-- Whether it must turn out to be a key. -/
  required : Bool
  place : Glyph
  slot : Nat
  deriving DecidableEq, Repr

/-- A possible key after one more character: it is given up on the next line and beyond 1024
characters, unless it is required. -/
def Candidate.reach? (candidate : Candidate) (glyph : Glyph) : Option (Option Candidate) :=
  if candidate.place.line < glyph.line || candidate.place.index + 1024 < glyph.index then
    if candidate.required then none else some none
  else some (some candidate)

/-- What was read so far: the tokens in slots, the columns of the open blocks from the innermost
one, a possible key at each level of flow collections from the innermost one, and whether a key may
begin at the present place. -/
structure Layout where
  slots : Array (List Token)
  columns : List Nat
  innermost : Option Candidate
  outer : List (Option Candidate)
  keyAllowed : Bool

namespace Layout

/-- Nothing was read. -/
def start : Layout := ⟨#[], [], none, [], true⟩

/-- The tokens. -/
def tokens (layout : Layout) : List Token := layout.slots.toList.flatten

/-- Whether a flow collection is open. -/
def inFlow (layout : Layout) : Bool := !layout.outer.isEmpty

/-- The column from which on a scalar may continue on its next lines. -/
def least (layout : Layout) : Nat :=
  match layout.columns with
  | [] => 0
  | column :: _ => column + 1

/-- The layout with one more token. -/
def push (layout : Layout) (token : Token) : Layout :=
  { layout with slots := layout.slots.push [token] }

/-- The layout with a decision about keys. -/
def allowKey (layout : Layout) (allowed : Bool) : Layout := { layout with keyAllowed := allowed }

/-! ### Blocks -/

/-- Whether a column is deeper than that of the innermost block, outside of flow collections. -/
def isDeeper (layout : Layout) (column : Nat) : Bool :=
  !layout.inFlow && layout.columns.head?.all (· < column)

/-- Begins a block where the column is deeper. -/
def indent (layout : Layout) (column : Nat) (token : Token) : Layout :=
  if layout.isDeeper column then { layout.push token with columns := column :: layout.columns }
  else layout

/-- Ends the blocks whose columns do not satisfy a condition. -/
def endBlocks (layout : Layout) (stays : Nat → Bool) : Layout :=
  if layout.inFlow then layout
  else
    let ended := layout.columns.takeWhile fun column => !stays column
    { layout with
      slots := layout.slots.push (ended.map fun _ => .blockEnd)
      columns := layout.columns.drop ended.length }

/-- Ends the blocks that are deeper than a column. -/
def dedent (layout : Layout) (column : Nat) : Layout := layout.endBlocks fun other => other ≤ column

/-- Ends all blocks. -/
def dedentAll (layout : Layout) : Layout := layout.endBlocks fun _ => false

/-! ### Keys -/

/-- The possible keys after one more character. -/
def reach? (layout : Layout) (glyph : Glyph) : Option Layout := do
  let step (level : Option Candidate) : Option (Option Candidate) :=
    match level with
    | none => some none
    | some candidate => candidate.reach? glyph
  return { layout with innermost := ← step layout.innermost, outer := ← layout.outer.mapM step }

/-- Gives up the possible key of the innermost level. -/
def giveUp? (layout : Layout) : Option Layout :=
  match layout.innermost with
  | none => some layout
  | some candidate => if candidate.required then none else some { layout with innermost := none }

/-- Leaves a place open for a key before the next token, where a key may begin. -/
def openKey? (layout : Layout) (glyph : Glyph) : Option Layout :=
  if layout.keyAllowed then do
    let layout ← layout.giveUp?
    let required := !layout.inFlow && layout.columns.head? == some glyph.column
    return { layout with
      slots := layout.slots.push []
      innermost := some ⟨required, glyph, layout.slots.size⟩ }
  else some layout

/-- What a colon makes of the possible key before it. -/
def fillKey (layout : Layout) (candidate : Candidate) : Layout :=
  let layout := { layout with innermost := none, keyAllowed := false }
  if layout.isDeeper candidate.place.column then
    { layout with
      slots := layout.slots.setIfInBounds candidate.slot [.blockMapping, .key]
      columns := candidate.place.column :: layout.columns }
  else { layout with slots := layout.slots.setIfInBounds candidate.slot [.key] }

/-! ### Tokens -/

/-- The beginning of a flow collection. -/
def beginFlow? (layout : Layout) (glyph : Glyph) (token : Token) : Option Layout := do
  let layout ← layout.openKey? glyph
  return ({ layout with innermost := none, outer := layout.innermost :: layout.outer }.allowKey
    true).push token

/-- The end of a flow collection. -/
def endFlow? (layout : Layout) (token : Token) : Option Layout := do
  let layout ← layout.giveUp?
  let layout := match layout.outer with
    | [] => layout
    | level :: levels => { layout with innermost := level, outer := levels }
  return (layout.allowKey false).push token

/-- A comma. -/
def separate? (layout : Layout) : Option Layout := do
  return ((← layout.giveUp?).allowKey true).push .separator

/-- The hyphen before an entry. -/
def enter? (layout : Layout) (glyph : Glyph) : Option Layout :=
  if layout.inFlow || layout.keyAllowed then do
    let layout ← (layout.indent glyph.column .blockSequence).giveUp?
    return (layout.allowKey true).push .entry
  else none

/-- The question mark before a key. -/
def askKey? (layout : Layout) (glyph : Glyph) : Option Layout :=
  if layout.inFlow || layout.keyAllowed then do
    let layout ← (layout.indent glyph.column .blockMapping).giveUp?
    return (layout.allowKey !layout.inFlow).push .key
  else none

/-- The colon before a value. -/
def giveValue? (layout : Layout) (glyph : Glyph) : Option Layout :=
  match layout.innermost with
  | some candidate => some ((layout.fillKey candidate).push .value)
  | none =>
    if layout.inFlow || layout.keyAllowed then
      some (((layout.indent glyph.column .blockMapping).allowKey !layout.inFlow).push .value)
    else none

/-- The layout between documents and at the end. -/
def closeDocument? (layout : Layout) : Option Layout := do
  return (← layout.dedentAll.giveUp?).allowKey false

/-- A layout together with the text that is left. -/
abbrev Step := Option (Layout × List Glyph)

/-- Reads a quoted or plain scalar, an anchor, an alias or a tag: something that a key may be. -/
def content (layout : Layout) (glyph : Glyph) (rest : List Glyph) : Step := do
  let opened := (← layout.openKey? glyph).allowKey false
  match glyph.character with
  | '*' =>
    let (name, after) ← anchorName? rest
    return (opened.push (.alias name), after)
  | '&' =>
    let (name, after) ← anchorName? rest
    return (opened.push (.anchor name), after)
  | '!' =>
    let (name, after) ← tagHandle? layout.inFlow rest
    return (opened.push (.tag name), after)
  | '\'' =>
    let (text, after) ← quoted? false rest
    return (opened.push (.scalar false (String.ofList text)), after)
  | '"' =>
    let (text, after) ← quoted? true rest
    return (opened.push (.scalar false (String.ofList text)), after)
  | _ =>
    let read ← plain? layout.inFlow layout.least (glyph :: rest)
    let layout := opened.allowKey read.endsLine
    return (layout.push (.scalar true (String.ofList read.text)), read.rest)

/-- Reads a block scalar. -/
def block (layout : Layout) (folded : Bool) (rest : List Glyph) : Step := do
  let layout ← layout.giveUp?
  let (text, after) ← block? folded layout.columns.head? rest
  return ((layout.allowKey true).push (.scalar false (String.ofList text)), after)

/-- Whether a plain scalar may begin with a character. -/
def beginsPlain (inFlow : Bool) (glyph : Glyph) (rest : List Glyph) : Bool :=
  !(glyph.isOneOf "-?:,[]\x7b\x7d#&*!|>'\"%@\x60" || endsWord [glyph]) ||
    (glyph.character == '-' && !endsWord rest) ||
    (!inFlow && glyph.isOneOf "?:" && !endsWord rest)

/-- Reads the token that begins with a character. -/
def token (layout : Layout) (glyph : Glyph) (rest : List Glyph) : Step :=
  let text := glyph :: rest
  let flow := layout.inFlow
  if glyph.column == 0 && glyph.character == '%' then do
    let layout ← layout.closeDocument?
    let (directive, after) ← directive? rest
    return (layout.push (.directive directive), after)
  else if isMarkOf '-' text then do
    return ((← layout.closeDocument?).push .documentStart, rest.drop 2)
  else if isMarkOf '.' text then do
    return ((← layout.closeDocument?).push .documentEnd, rest.drop 2)
  else
    match glyph.character with
    | '[' => (layout.beginFlow? glyph .flowSequence).map fun layout => (layout, rest)
    | '\x7b' => (layout.beginFlow? glyph .flowMapping).map fun layout => (layout, rest)
    | ']' => (layout.endFlow? .flowSequenceEnd).map fun layout => (layout, rest)
    | '\x7d' => (layout.endFlow? .flowMappingEnd).map fun layout => (layout, rest)
    | ',' => layout.separate?.map fun layout => (layout, rest)
    | character =>
      if character == '-' && endsWord rest then
        (layout.enter? glyph).map fun layout => (layout, rest)
      else if character == '?' && (flow || endsWord rest) then
        (layout.askKey? glyph).map fun layout => (layout, rest)
      else if character == ':' && (flow || endsWord rest) then
        (layout.giveValue? glyph).map fun layout => (layout, rest)
      else if !flow && (character == '|' || character == '>') then
        layout.block (character == '>') rest
      else if glyph.isOneOf "*&!'\"" || beginsPlain flow glyph rest then
        layout.content glyph rest
      else none

/-! ### The stream -/

/-- Skips blanks, comments and line ends before a token. Outside of flow collections a key may begin
on a new line, and a tabulator may not stand where a key may begin. -/
def skip (inFlow keyAllowed inComment : Bool) : List Glyph → Bool × List Glyph
  | [] => (keyAllowed, [])
  | glyph :: rest =>
    if glyph.isBreak then skip inFlow (keyAllowed || !inFlow) false rest
    else if inComment || glyph.character == ' ' ||
        (glyph.character == '\t' && (inFlow || !keyAllowed)) ||
        (glyph.character == '\ufeff' && glyph.column == 0) then
      skip inFlow keyAllowed inComment rest
    else if glyph.character == '#' then skip inFlow keyAllowed true rest
    else (keyAllowed, glyph :: rest)

/-- Reads all tokens from some place on. Each one takes away from the text. -/
def tokensFrom (layout : Layout) (text : List Glyph) : Option (List Token) :=
  match skip layout.inFlow layout.keyAllowed false text with
  | (_, []) => do return (← layout.closeDocument?).tokens
  | (keyAllowed, glyph :: rest) =>
    match (layout.allowKey keyAllowed).reach? glyph with
    | none => none
    | some layout =>
      match (layout.dedent glyph.column).token glyph rest with
      | none => none
      | some (layout, after) =>
        if after.length < text.length then tokensFrom layout after else none
  termination_by text.length

end Layout

/-- The tokens of a stream. -/
def tokens? (text : String) : Option (List Token) := do
  Layout.tokensFrom Layout.start (← Glyph.ofText? text)

end Yaml

end Telemetry
