/-
This file says how the line of a process's state is cut.

The command stands in brackets on the line, and since the watched program chooses it, it may hold
brackets, blanks and line feeds itself. What stands before it has no opening bracket and what stands
behind it has no closing one, so the first opening bracket and the last closing one are the two
around the command, whatever the command is. A line is refused only where there are no such two.
-/

import Telemetry.Proofs.LineProtocol
import Telemetry.Watch.Files

namespace Telemetry

namespace ProcessReport

/-! ### The last separator -/

section

variable {separator : Char} {text before after : List Char}

/-- A text is cut at its last separator. -/
theorem splitAtLast_eq_some_iff :
    splitAtLast separator text = some (before, after) ↔
      text = before ++ separator :: after ∧ separator ∉ after := by
  have reversed : text.reverse = after.reverse ++ separator :: before.reverse ↔
      text = before ++ separator :: after := by
    rw [← List.reverse_inj, List.reverse_reverse]
    simp
  rw [← reversed, ← List.mem_reverse, ← splitAtFirst_eq_some_iff, splitAtLast,
    Option.map_eq_some_iff]
  constructor
  · rintro ⟨⟨behind, ahead⟩, cut, same⟩
    obtain ⟨rfl, rfl⟩ := Prod.mk.inj same
    rw [List.reverse_reverse, List.reverse_reverse, cut]
  · intro cut
    refine ⟨_, cut, ?_⟩
    dsimp only
    rw [List.reverse_reverse, List.reverse_reverse]

theorem splitAtLast_eq_none_iff : splitAtLast separator text = none ↔ separator ∉ text := by
  rw [splitAtLast, Option.map_eq_none_iff, splitAtFirst_eq_none_iff, List.mem_reverse]

theorem exists_splitAtLast (member : separator ∈ text) :
    ∃ before after, splitAtLast separator text = some (before, after) := by
  cases cut : splitAtLast separator text with
  | none => exact absurd member (splitAtLast_eq_none_iff.mp cut)
  | some parts => exact ⟨parts.1, parts.2, rfl⟩

end

/-! ### The two brackets -/

/-- A text is what stands before its first opening bracket, what stands between that one and its
last closing bracket, and what stands behind the latter. -/
structure Brackets (text before command after : String) : Prop where
  whole : text = before ++ "(" ++ command ++ ")" ++ after
  first : '(' ∉ before.toList
  last : ')' ∉ after.toList

/-- The last closing bracket of a text stands before its first opening one. -/
def ClosesFirst (text : String) : Prop :=
  ∃ before between after : String, text = before ++ ")" ++ between ++ "(" ++ after ∧
    '(' ∉ (before ++ between).toList ∧ ')' ∉ (between ++ after).toList

theorem toList_brackets (before command after : String) :
    (before ++ "(" ++ command ++ ")" ++ after).toList =
      before.toList ++ '(' :: (command.toList ++ ')' :: after.toList) := by
  simp [String.toList_append]

/-- Between the two brackets a line is cut. -/
theorem stateFields?_of_brackets {text before command after : String}
    (brackets : Brackets text before command after) :
    stateFields? text = some (trim before :: command :: words after) := by
  have opened : splitAtFirst '(' text.toList =
      some (before.toList, command.toList ++ ')' :: after.toList) :=
    splitAtFirst_eq_some_iff.mpr ⟨by rw [brackets.whole, toList_brackets], brackets.first⟩
  have closed : splitAtLast ')' (command.toList ++ ')' :: after.toList) =
      some (command.toList, after.toList) :=
    splitAtLast_eq_some_iff.mpr ⟨rfl, brackets.last⟩
  rw [stateFields?, opened]
  dsimp only
  rw [closed]
  dsimp only
  rw [trim, words, String.ofList_toList]

/-- A line without the two brackets is refused. -/
theorem brackets_of_stateFields? {text : String} {fields : List String}
    (cut : stateFields? text = some fields) :
    ∃ before command after, Brackets text before command after := by
  unfold stateFields? at cut
  split at cut
  · cases cut
  · rename_i before rest opened
    split at cut
    · cases cut
    · rename_i command after closed
      obtain ⟨whole, first⟩ := splitAtFirst_eq_some_iff.mp opened
      obtain ⟨inside, last⟩ := splitAtLast_eq_some_iff.mp closed
      refine ⟨String.ofList before, String.ofList command, String.ofList after, ?_, ?_, ?_⟩
      · rw [← String.toList_inj, toList_brackets, whole, inside]
        simp only [String.toList_ofList]
      · rwa [String.toList_ofList]
      · rwa [String.toList_ofList]

/-- In a line with the two brackets the last closing one does not stand before the first opening
one. -/
theorem not_closesFirst_of_brackets {text before command after : String}
    (brackets : Brackets text before command after) : ¬ClosesFirst text := by
  rintro ⟨start, between, last, other, free, unclosed⟩
  have whole : text.toList = before.toList ++ '(' :: (command.toList ++ ')' :: after.toList) := by
    rw [brackets.whole, toList_brackets]
  -- The first opening bracket is one, so the command would stand behind the last closing one.
  have opened : splitAtFirst '(' text.toList =
      some (start.toList ++ ')' :: between.toList, last.toList) :=
    splitAtFirst_eq_some_iff.mpr ⟨by rw [other]; simp, by simpa using free⟩
  rw [splitAtFirst_eq_some_iff.mpr ⟨whole, brackets.first⟩] at opened
  have behind := (Prod.mk.inj (Option.some.inj opened)).2
  exact absurd (by simp [← behind]) unclosed

/-- A line whose closing brackets all stand before the first opening one closes first. -/
theorem closesFirst_of_unclosed {text : String} {before rest : List Char}
    (whole : text.toList = before ++ '(' :: rest) (first : '(' ∉ before) (unclosed : ')' ∉ rest)
    (closes : ')' ∈ before) : ClosesFirst text := by
  obtain ⟨start, between, cut⟩ := exists_splitAtLast closes
  obtain ⟨rfl, last⟩ := splitAtLast_eq_some_iff.mp cut
  refine ⟨String.ofList start, String.ofList between, String.ofList rest, ?_⟩
  rw [← String.toList_inj, whole]
  simp_all [String.toList_append]

/-- A line is refused exactly when it has no opening or no closing bracket, or when its last closing
bracket stands before its first opening one. -/
theorem stateFields?_eq_none_iff {text : String} :
    stateFields? text = none ↔
      '(' ∉ text.toList ∨ ')' ∉ text.toList ∨ ClosesFirst text := by
  constructor
  · intro refused
    by_cases opens : '(' ∈ text.toList
    · obtain ⟨before, rest, whole, first⟩ := List.eq_append_cons_of_mem opens
      have unclosed : ')' ∉ rest := by
        intro closes
        obtain ⟨command, after, closed⟩ := exists_splitAtLast closes
        rw [stateFields?, splitAtFirst_eq_some_iff.mpr ⟨whole, first⟩] at refused
        dsimp only at refused
        rw [closed] at refused
        cases refused
      by_cases closes : ')' ∈ before
      · exact .inr (.inr (closesFirst_of_unclosed whole first unclosed closes))
      · refine .inr (.inl ?_)
        rw [whole]
        simp [closes, unclosed]
    · exact .inl opens
  · intro lacks
    cases cut : stateFields? text with
    | none => rfl
    | some fields =>
      obtain ⟨before, command, after, brackets⟩ := brackets_of_stateFields? cut
      rcases lacks with unopened | unclosed | closesFirst
      · exact absurd (by simp [brackets.whole, String.toList_append]) unopened
      · exact absurd (by simp [brackets.whole, String.toList_append]) unclosed
      · exact absurd closesFirst (not_closesFirst_of_brackets brackets)

/-! ### Lines as they are written -/

/-- The line of a state as the system writes it: a number, the command in brackets, and words with
blanks before each. The command may be any text. -/
structure StateLine where
  pid : String
  unopened : '(' ∉ pid.toList
  /-- There are no blanks at the ends of the number. -/
  start : ∀ character ∈ pid.toList.head?, isBlank character = false
  solid : ∀ character ∈ pid.toList.getLast?, isBlank character = false
  command : String
  tokens : List (Gap × Word)
  unclosed : ∀ token ∈ tokens, ')' ∉ token.2.text.toList
  after : Blanks

namespace StateLine

/-- What stands behind the command's closing bracket. -/
def behind (line : StateLine) : String :=
  String.ofList ((line.tokens.flatMap fun token => token.1.characters ++ token.2.text.toList) ++
    line.after.characters)

/-- The text of the line. -/
def text (line : StateLine) : String :=
  line.pid ++ " (" ++ line.command ++ ")" ++ line.behind

/-- What the line says: the number, the command and the words. -/
def fields (line : StateLine) : List String :=
  line.pid :: line.command :: line.tokens.map fun token => token.2.text

variable (line : StateLine)

theorem trim_pid : trim (line.pid ++ " ") = line.pid := by
  have blank : ∀ character ∈ " ".toList, isBlank character = true := fun character member =>
    (List.mem_singleton.mp member : character = ' ') ▸ rfl
  rw [trim, String.toList_append, trimmed_append line.start line.solid blank, String.ofList_toList]

/-- No closing bracket stands behind the command. -/
theorem unclosed_behind : ')' ∉ line.behind.toList := by
  have unblank (blanks : Blanks) : ')' ∉ blanks.characters := fun member =>
    absurd (blanks.blank _ member) (by decide)
  rw [behind, String.toList_ofList, List.mem_append, List.mem_flatMap]
  rintro (⟨token, member, inside⟩ | inside)
  · rcases List.mem_append.mp inside with gap | word
    · exact unblank token.1.toBlanks gap
    · exact line.unclosed token member word
  · exact unblank line.after inside

theorem words_behind : words line.behind = line.tokens.map fun token => token.2.text := by
  have cut := wordsOf_append_flatMap [] (line.tokens.map fun token => (token.1, token.2.text)) <| by
    intro field member
    obtain ⟨token, _, rfl⟩ := List.mem_map.mp member
    exact ⟨token.2.nonempty, token.2.solid⟩
  rw [List.flatMap_map, wordsOf_nil, List.nil_append, List.nil_append, List.map_map] at cut
  rw [words, behind, String.toList_ofList, wordsOf_append_blanks line.after.blank, cut,
    List.map_map]
  exact List.map_congr_left fun token _ => String.ofList_toList

/-- The brackets around the command are the first opening and the last closing one of the line. -/
theorem brackets_text : Brackets line.text (line.pid ++ " ") line.command line.behind where
  whole := by
    have bracket : " (" = " " ++ "(" := rfl
    rw [text, bracket, ← String.append_assoc]
  first := by simpa [String.toList_append] using line.unopened
  last := line.unclosed_behind

end StateLine

/-- What is to be said of the fields of any text. -/
structure CutsAtBrackets (text : String) : Prop where
  /-- They are what stands before the first opening bracket, what stands between it and the last
  closing one, and the words behind that. -/
  some_iff : ∀ fields, stateFields? text = some fields ↔
    ∃ before command after, Brackets text before command after ∧
      fields = trim before :: command :: words after
  /-- There are none exactly where there are no such two brackets. -/
  none_iff : stateFields? text = none ↔
    '(' ∉ text.toList ∨ ')' ∉ text.toList ∨ ClosesFirst text

/-- Whatever a command is, it is read back as it is, and the fields on both sides of it stay where
they are. A text is refused for the want of the two brackets alone. -/
theorem cutsAtBrackets :
    (∀ line : StateLine, stateFields? line.text = some line.fields) ∧
      ∀ text, CutsAtBrackets text := by
  refine ⟨fun line => ?_, fun text => ⟨fun fields => ⟨fun cut => ?_, ?_⟩, stateFields?_eq_none_iff⟩⟩
  · rw [stateFields?_of_brackets line.brackets_text, line.trim_pid, line.words_behind,
      StateLine.fields]
  · obtain ⟨before, command, after, brackets⟩ := brackets_of_stateFields? cut
    rw [stateFields?_of_brackets brackets] at cut
    exact ⟨before, command, after, brackets, (Option.some.inj cut).symm⟩
  · rintro ⟨before, command, after, brackets, rfl⟩
    exact stateFields?_of_brackets brackets

/-- A command that imitates the end of the brackets and the fields behind them. -/
example : stateFields? "7 (sh) R (1) 0) S 1\n" = some ["7", "sh) R (1) 0", "S", "1"] := by
  decide +kernel

end ProcessReport

end Telemetry
