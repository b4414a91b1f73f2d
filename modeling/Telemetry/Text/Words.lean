/-
This file holds how text is cut: at blanks, at a separator, at line ends.

Every cut is a function on lists of characters with a form on strings beside it. The blanks are
the characters with the Unicode property White_Space.
-/

import Telemetry.Text.Span

namespace Telemetry

/-- The characters with the property White_Space, as spans of code points. -/
def blankSpans : List Span :=
  [⟨9, 13, 1⟩, ⟨32, 32, 1⟩, ⟨133, 133, 1⟩, ⟨160, 160, 1⟩, ⟨5760, 5760, 1⟩, ⟨8192, 8202, 1⟩,
   ⟨8232, 8233, 1⟩, ⟨8239, 8239, 1⟩, ⟨8287, 8287, 1⟩, ⟨12288, 12288, 1⟩]

/-- Whether a character counts as white space between fields and around a line. -/
def isBlank (character : Char) : Bool := Span.listed blankSpans character.toNat

/-! ### Trimming -/

/-- A text without the blanks at its end. -/
def dropBlanksAtEnd : List Char → List Char
  | [] => []
  | character :: rest =>
    match dropBlanksAtEnd rest with
    | [] => if isBlank character then [] else [character]
    | kept => character :: kept

/-- A text without the blanks at its two ends. -/
def trimmed (text : List Char) : List Char := dropBlanksAtEnd (text.dropWhile isBlank)

/-- A text without the blanks at its two ends. -/
def trim (text : String) : String := String.ofList (trimmed text.toList)

@[simp] theorem dropBlanksAtEnd_nil : dropBlanksAtEnd [] = [] := rfl

@[simp] theorem trimmed_nil : trimmed [] = [] := rfl

/-! ### Pieces between separators -/

/-- The pieces between the characters that satisfy `separates`. There is one piece more than there
are separators, and a piece may be empty. -/
def piecesWhere (separates : Char → Bool) : List Char → List (List Char)
  | [] => [[]]
  | character :: rest =>
    if separates character then [] :: piecesWhere separates rest
    else
      match piecesWhere separates rest with
      | [] => [[character]]
      | piece :: others => (character :: piece) :: others

@[simp] theorem piecesWhere_nil (separates : Char → Bool) : piecesWhere separates [] = [[]] := rfl

theorem piecesWhere_ne_nil (separates : Char → Bool) (text : List Char) :
    piecesWhere separates text ≠ [] := by
  cases text with
  | nil => simp
  | cons character rest =>
    simp only [piecesWhere]
    split
    · simp
    · split <;> simp

/-- The pieces between the occurrences of one separator. -/
def pieces (separator : Char) (text : String) : List String :=
  (piecesWhere (· == separator) text.toList).map String.ofList

/-- The non-empty pieces between runs of blanks. -/
def wordsOf (text : List Char) : List (List Char) :=
  (piecesWhere isBlank text).filter fun piece => !piece.isEmpty

/-- The words of a text: its non-empty pieces between runs of blanks. -/
def words (text : String) : List String := (wordsOf text.toList).map String.ofList

/-- What stands before and after the first occurrence of a separator. -/
def splitAtFirst (separator : Char) : List Char → Option (List Char × List Char)
  | [] => none
  | character :: rest =>
    if character == separator then some ([], rest)
    else (splitAtFirst separator rest).map fun (before, after) => (character :: before, after)

/-- What follows the separator is shorter than the whole. -/
theorem splitAtFirst_length_lt {separator : Char} {text before after : List Char}
    (split : splitAtFirst separator text = some (before, after)) : after.length < text.length := by
  induction text generalizing before after with
  | nil => simp [splitAtFirst] at split
  | cons character rest inductionHypothesis =>
    simp only [splitAtFirst] at split
    split at split
    · simp only [Option.some.injEq, Prod.mk.injEq] at split
      simp [← split.2]
    · simp only [Option.map_eq_some_iff] at split
      obtain ⟨⟨first, second⟩, found, equal⟩ := split
      simp only [Prod.mk.injEq] at equal
      have shorter := inductionHypothesis found
      simp only [List.length_cons, ← equal.2]
      omega

/-- What stands before and after the first occurrence of a separator. -/
def splitOnce (separator : Char) (text : String) : Option (String × String) :=
  (splitAtFirst separator text.toList).map fun (before, after) =>
    (String.ofList before, String.ofList after)

/-! ### Lines -/

/-- A line without the one carriage return that may end it. -/
def withoutCarriageReturn (line : List Char) : List Char :=
  match line.getLast? with
  | some '\r' => line.dropLast
  | _ => line

/-- The lines of a text. A line ends at a line feed, and a carriage return right before the line
feed belongs to the end of the line. What follows the last line feed is a line when it is not
empty, and it keeps a carriage return at its end. -/
def lines (text : String) : List String :=
  let cut := piecesWhere (· == '\n') text.toList
  let ended := cut.dropLast.map fun line => String.ofList (withoutCarriageReturn line)
  match cut.getLast? with
  | none => ended
  | some rest => if rest.isEmpty then ended else ended ++ [String.ofList rest]

/-! ### Searching -/

/-- Whether one list of characters occurs in another as a block. -/
def occursIn (part : List Char) : List Char → Bool
  | [] => part.isEmpty
  | character :: rest => part.isPrefixOf (character :: rest) || occursIn part rest

/-- Whether a text contains another one. Every text contains the empty one. -/
def containsText (text part : String) : Bool := occursIn part.toList text.toList

end Telemetry
