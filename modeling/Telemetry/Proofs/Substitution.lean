/-
This file says what putting values into the groups of a text changes.

A group is a pair of braces with at least one character and no closing brace between them. A text is
read from left to right: what stands before the first group stays, the group is written again, and
so on behind it. An opening brace before the first group is followed by a closing one at once, since
otherwise a group would begin there; so what stands before the first group tells by itself that it
is the first one, and a text in which the groups were written again has its groups at the same
places. What is written for a group is read as the tags that were written, as long as the values put
in are choices. Putting in the same values again therefore changes nothing.
-/

import Telemetry.Proofs.TagText

namespace Telemetry

variable {text before inside after : List Char}

/-! ### Groups -/

/-- A text holds a group between two other texts: a pair of braces with something inside that is not
a closing brace. -/
structure GroupAt (text before inside after : List Char) : Prop where
  whole : text = before ++ '\x7b' :: (inside ++ '\x7d' :: after)
  nonempty : inside ≠ []
  closed : '\x7d' ∉ inside

/-- A group of a text that has no group further to the left. -/
structure FirstGroup (text before inside after : List Char) : Prop
    extends GroupAt text before inside after where
  first : ∀ otherBefore otherInside otherAfter,
    GroupAt text otherBefore otherInside otherAfter → before.length ≤ otherBefore.length

/-- Every opening brace is followed by a closing one at once. -/
def OnlyEmptyBraces (text : List Char) : Prop :=
  ∀ left right, text = left ++ '\x7b' :: right → right.head? = some '\x7d'

theorem onlyEmptyBraces_nil : OnlyEmptyBraces [] := by
  intro left right same
  exact absurd same.symm (List.append_ne_nil_of_right_ne_nil left (List.cons_ne_nil _ _))

theorem onlyEmptyBraces_cons_iff {character : Char} {rest : List Char} :
    OnlyEmptyBraces (character :: rest) ↔
      (character = '\x7b' → rest.head? = some '\x7d') ∧ OnlyEmptyBraces rest := by
  constructor
  · intro only
    refine ⟨?_, fun left right same => only (character :: left) right (by rw [same]; rfl)⟩
    rintro rfl
    exact only [] rest rfl
  · rintro ⟨here, later⟩ left right same
    cases left with
    | nil =>
      obtain ⟨rfl, rfl⟩ := List.cons.inj same
      exact here rfl
    | cons head others => exact later others right (List.cons.inj same).2

/-- Where an opening brace is not followed by a closing one at once but later, a group begins. -/
theorem exists_groupAt {rest : List Char} (closed : '\x7d' ∈ rest)
    (other : rest.head? ≠ some '\x7d') (before : List Char) :
    ∃ inside after, GroupAt (before ++ '\x7b' :: rest) before inside after := by
  obtain ⟨inside, after, rfl, absent⟩ := List.eq_append_cons_of_mem closed
  refine ⟨inside, after, rfl, ?_, absent⟩
  rintro rfl
  exact other rfl

/-- At the brace that opens a group no closing one follows at once. -/
theorem GroupAt.head?_ne (found : GroupAt text before inside after) :
    (inside ++ '\x7d' :: after).head? ≠ some '\x7d' := by
  obtain ⟨character, rest, rfl⟩ := List.exists_cons_of_ne_nil found.nonempty
  intro same
  exact found.closed (Option.some.inj same ▸ List.mem_cons_self)

/-- A group is the first one when there are only empty braces before it. -/
theorem firstGroup_iff :
    FirstGroup text before inside after ↔
      GroupAt text before inside after ∧ OnlyEmptyBraces before := by
  constructor
  · refine fun first => ⟨first.toGroupAt, ?_⟩
    rintro left right rfl
    by_contra other
    have closed : '\x7d' ∈ right ++ '\x7b' :: (inside ++ '\x7d' :: after) := by simp
    have notAtOnce :
        (right ++ '\x7b' :: (inside ++ '\x7d' :: after)).head? ≠ some '\x7d' := by
      cases right with
      | nil => simp
      | cons head others => exact other
    obtain ⟨otherInside, otherAfter, found⟩ := exists_groupAt closed notAtOnce left
    rw [← List.cons_append, ← List.append_assoc, ← first.whole] at found
    have shortest := first.first left otherInside otherAfter found
    rw [List.length_append, List.length_cons] at shortest
    omega
  · rintro ⟨found, only⟩
    refine ⟨found, fun otherBefore otherInside otherAfter other => ?_⟩
    rcases List.append_eq_append_iff.mp (other.whole.symm.trans found.whole) with
      ⟨between, rfl, same⟩ | ⟨between, rfl, _⟩
    · cases between with
      | nil => simp
      | cons head right =>
        rw [List.cons_append] at same
        obtain ⟨rfl, later⟩ := List.cons.inj same
        refine absurd ?_ other.head?_ne
        rw [later, List.head?_append, only otherBefore right rfl]
        rfl
    · rw [List.length_append]
      omega

/-! ### Cutting out the first group -/

/-- Where no group begins at the first character, a group behind it has only empty braces before it
if it has in the rest. -/
theorem GroupAt.cons {character : Char} {rest : List Char}
    (found : GroupAt rest before inside after) (only : OnlyEmptyBraces before)
    (empty : character = '\x7b' → rest.head? = some '\x7d') :
    GroupAt (character :: rest) (character :: before) inside after ∧
      OnlyEmptyBraces (character :: before) := by
  obtain ⟨rfl, nonempty, closed⟩ := found
  refine ⟨⟨rfl, nonempty, closed⟩, onlyEmptyBraces_cons_iff.mpr ⟨fun brace => ?_, only⟩⟩
  -- The closing brace stands before the group, since the group starts with another character.
  have atOnce := empty brace
  cases before with
  | nil => cases atOnce
  | cons head others => exact atOnce

/-- What is cut out of a text is a group in it, and before it there are only empty braces. -/
theorem groupAt_of_cutGroup (cut : cutGroup text = some (before, inside, after)) :
    GroupAt text before inside after ∧ OnlyEmptyBraces before := by
  induction text generalizing before inside after with
  | nil => cases cut
  | cons character rest inductionHypothesis =>
    -- Unless a group begins here, the first one is that of the rest.
    have ofLater (empty : character = '\x7b' → rest.head? = some '\x7d')
        (later : ((cutGroup rest).map fun found => (character :: found.1, found.2.1, found.2.2)) =
          some (before, inside, after)) :
        GroupAt (character :: rest) before inside after ∧ OnlyEmptyBraces before := by
      obtain ⟨⟨first, second, third⟩, found, same⟩ := Option.map_eq_some_iff.mp later
      obtain ⟨rfl, rfl, rfl⟩ : character :: first = before ∧ second = inside ∧ third = after := by
        simpa using same
      obtain ⟨group, only⟩ := inductionHypothesis found
      exact group.cons only empty
    simp only [cutGroup] at cut
    split at cut
    · rename_i brace
      split at cut
      · cases cut
      · rename_i found
        refine ofLater (fun _ => ?_) cut
        rw [(splitAtFirst_eq_some_iff.mp found).1]
        rfl
      · rename_i between behind nonempty found
        obtain ⟨rfl, rfl, rfl⟩ : [] = before ∧ between = inside ∧ behind = after := by
          simpa using cut
        obtain ⟨rfl, closed⟩ := splitAtFirst_eq_some_iff.mp found
        refine ⟨⟨by rw [brace]; rfl, ?_, closed⟩, onlyEmptyBraces_nil⟩
        rintro rfl
        exact nonempty rfl
    · rename_i other
      exact ofLater (fun brace => absurd brace other) cut

/-- A group before which there are only empty braces is cut out. -/
theorem cutGroup_of_groupAt (found : GroupAt text before inside after)
    (only : OnlyEmptyBraces before) : cutGroup text = some (before, inside, after) := by
  obtain ⟨rfl, nonempty, closed⟩ := found
  induction before with
  | nil =>
    obtain ⟨head, others, rfl⟩ := List.exists_cons_of_ne_nil nonempty
    have cut : splitAtFirst '\x7d' (head :: others ++ '\x7d' :: after) =
        some (head :: others, after) := splitAtFirst_append_cons closed after
    rw [List.nil_append, cutGroup, if_pos rfl, cut]
  | cons character rest inductionHypothesis =>
    obtain ⟨here, later⟩ := onlyEmptyBraces_cons_iff.mp only
    rw [List.cons_append, cutGroup, inductionHypothesis later]
    split
    · rename_i brace
      cases rest with
      | nil => cases here brace
      | cons head others =>
        rw [Option.some.inj (here brace)]
        rfl
    · rfl

/-- The group that is cut out of a text is its first one. -/
theorem cutGroup_eq_some_iff :
    cutGroup text = some (before, inside, after) ↔ FirstGroup text before inside after := by
  rw [firstGroup_iff]
  exact ⟨groupAt_of_cutGroup, fun both => cutGroup_of_groupAt both.1 both.2⟩

/-- A text that holds a group has a first one. -/
theorem GroupAt.exists_firstGroup {text before inside after : List Char}
    (found : GroupAt text before inside after) :
    ∃ before inside after, FirstGroup text before inside after := by
  by_cases first : ∀ otherBefore otherInside otherAfter,
      GroupAt text otherBefore otherInside otherAfter → before.length ≤ otherBefore.length
  · exact ⟨before, inside, after, found, first⟩
  · push Not at first
    obtain ⟨otherBefore, otherInside, otherAfter, other, shorter⟩ := first
    exact other.exists_firstGroup
  termination_by before.length

/-- Nothing is cut out of a text that holds no group. -/
theorem cutGroup_eq_none_iff :
    cutGroup text = none ↔ ∀ before inside after, ¬GroupAt text before inside after := by
  constructor
  · intro uncut before inside after found
    obtain ⟨_, _, _, first⟩ := found.exists_firstGroup
    rw [cutGroup_eq_some_iff.mpr first] at uncut
    cases uncut
  · intro none
    rw [Option.eq_none_iff_forall_ne_some]
    rintro ⟨before, inside, after⟩ cut
    exact none before inside after (cutGroup_eq_some_iff.mp cut).toGroupAt

/-! ### Values of a group -/

/-- The value for a key: the one a group has if that is not empty, or else the old one. -/
def valueFor (group : TagSet) (key old : String) : String :=
  ((group.get? key).filter fun value => value ≠ "").getD old

theorem substituted_eq (group : TagSet) (pair : String × String) :
    substituted group pair = valueFor group pair.1 pair.2 := by
  rw [substituted, valueFor]
  cases group.get? pair.1 with
  | none => rfl
  | some value => by_cases empty : value = "" <;> simp [Option.filter, empty]

/-- A value that was put in is put in again. -/
theorem valueFor_valueFor (group : TagSet) (key old : String) :
    valueFor group key (valueFor group key old) = valueFor group key old := by
  rw [valueFor, valueFor]
  cases (group.get? key).filter fun value => value ≠ "" <;> rfl

/-- Every value of a group that may be put in is a choice. -/
def PutsChoices (group : TagSet) : Prop :=
  ∀ pair ∈ group.entries, pair.2 ≠ "" → IsChoice pair.2

/-- Choices are put in for choices. -/
theorem PutsChoices.isChoice_valueFor {group : TagSet} (puts : PutsChoices group) (key : String)
    {old : String} (choice : IsChoice old) : IsChoice (valueFor group key old) := by
  rw [valueFor]
  cases found : (group.get? key).filter fun value => value ≠ "" with
  | none => exact choice
  | some value =>
    obtain ⟨given, nonempty⟩ := Option.filter_eq_some_iff.mp found
    exact puts (key, value) (Table.get?_eq_some_iff.mp given) (of_decide_eq_true nonempty)

/-- Putting in values leaves the keys as they are. -/
theorem entries_substitute (tags group : TagSet) :
    (tags.substitute group).entries =
      tags.entries.map fun pair => (pair.1, valueFor group pair.1 pair.2) := by
  let changed : TagSet := ⟨tags.entries.map fun pair => (pair.1, valueFor group pair.1 pair.2),
    List.pairwise_map.mpr tags.ascending⟩
  have folded : tags.substitute group =
      changed.entries.foldl (fun result pair => result.insert pair.1 pair.2) tags := by
    rw [TagSet.substitute, List.foldl_map]
    simp only [substituted_eq]
  suffices same : tags.substitute group = changed by rw [same]
  refine Table.eq_of_get? fun key => ?_
  have answers : changed.get? key = (tags.get? key).map (valueFor group key) :=
    Table.get?_of_entries_map rfl key
  rw [folded, Table.get?_foldl_insert (Table.nodup_keys changed.ascending), ← Table.get?, answers]
  cases tags.get? key <;> rfl

/-! ### What is written for a group -/

/-- What is written for a group with something inside: the group as it stands, when its inside is no
list of tags, or else the same keys with the values for them. -/
inductive Written (group : TagSet) (inside : List Char) : List Char → Prop
  | kept (refused : ∀ tags, readTags (String.ofList inside) ≠ .ok tags) :
      Written group inside ('\x7b' :: (inside ++ ['\x7d']))
  | replaced (tags result : TagSet) (read : readTags (String.ofList inside) = .ok tags)
      (entries : result.entries =
        tags.entries.map fun pair => (pair.1, valueFor group pair.1 pair.2)) :
      Written group inside result.bracedText.toList

variable {group : TagSet} {written : List Char}

/-- The text of tags in braces is their text with a brace at either end. -/
theorem toList_bracedText (tags : TagSet) :
    tags.bracedText.toList = '\x7b' :: (tags.text.toList ++ ['\x7d']) := by
  rw [TagSet.bracedText, String.toList_append, String.toList_append]
  rfl

/-- What is substituted for a group is what is to be written for it. -/
theorem written_iff : Written group inside written ↔ substituteGroup group inside = written := by
  unfold substituteGroup
  constructor
  · rintro (refused | ⟨tags, result, read, entries⟩)
    · cases read : readTags (String.ofList inside) with
      | error refusal => rfl
      | ok tags => exact absurd read (refused tags)
    · rw [read]
      dsimp only
      rw [Table.eq_of_entries ((entries_substitute tags group).trans entries.symm)]
  · rintro rfl
    cases read : readTags (String.ofList inside) with
    | error refusal => exact .kept fun tags success => by cases read.symm.trans success
    | ok tags => exact .replaced tags _ read (entries_substitute tags group)

/-- There is no closing brace in the text of tags that may stand in a query. -/
theorem brace_not_mem_text {tags : TagSet} (query : tags.IsQuery) :
    '\x7d' ∉ tags.text.toList := by
  intro member
  have refused : isAccepted '\x7d' = false := by decide +kernel
  rcases TagSet.mem_of_mem_text query member with accepted | mark
  · exact Bool.false_ne_true (refused.symm.trans accepted)
  · exact absurd mark (by decide)

/-- What is written for a group is a group again, and the same is written for it. -/
theorem Written.again (puts : PutsChoices group) (nonempty : inside ≠ [])
    (closed : '\x7d' ∉ inside) (first : Written group inside written) :
    ∃ again, written = '\x7b' :: (again ++ ['\x7d']) ∧ again ≠ [] ∧ '\x7d' ∉ again ∧
      Written group again written := by
  cases first with
  | kept refused => exact ⟨inside, rfl, nonempty, closed, .kept refused⟩
  | replaced tags result read entries =>
    have query : result.IsQuery := by
      intro pair member
      rw [entries] at member
      obtain ⟨old, inTags, rfl⟩ := List.mem_map.mp member
      obtain ⟨canonicalKey, choice⟩ := spelled_of_readTags read old inTags
      exact ⟨canonicalKey, isQueryValue_iff.mpr (puts.isChoice_valueFor old.1 choice)⟩
    have tagged : result.entries ≠ [] := by
      rw [entries, ne_eq, List.map_eq_nil_iff]
      exact entries_ne_nil_of_readTags read
    refine ⟨result.text.toList, toList_bracedText result, ?_, brace_not_mem_text query,
      .replaced result result ?_ ?_⟩
    · rw [ne_eq, String.toList_eq_nil_iff, TagSet.text_eq_empty_iff]
      exact tagged
    · rw [String.ofList_toList]
      exact TagSet.readTags_text query tagged
    · rw [entries, List.map_map]
      exact List.map_congr_left fun pair _ =>
        Prod.ext rfl (valueFor_valueFor group pair.1 pair.2).symm

/-! ### Texts with groups -/

/-- What becomes of a text: the groups are found from left to right, each one behind the one before,
and something is written for each of them. The rest of the text stays. -/
inductive Fills (group : TagSet) : List Char → List Char → Prop
  | none {text : List Char} (none : ∀ before inside after, ¬GroupAt text before inside after) :
      Fills group text text
  | group {text before inside after written rest : List Char}
      (first : FirstGroup text before inside after) (here : Written group inside written)
      (later : Fills group after rest) : Fills group text (before ++ (written ++ rest))

theorem replaceGroups_of_eq_none (uncut : cutGroup text = none) :
    replaceGroups group text = text := by
  rw [replaceGroups]
  split
  · rfl
  · rename_i cut
    cases uncut.symm.trans cut

theorem replaceGroups_of_eq_some (cut : cutGroup text = some (before, inside, after)) :
    replaceGroups group text =
      before ++ (substituteGroup group inside ++ replaceGroups group after) := by
  rw [replaceGroups]
  split
  · rename_i uncut
    cases uncut.symm.trans cut
  · rename_i same
    cases cut.symm.trans same
    rw [List.append_assoc]

/-- The groups of a text are replaced one after the other. -/
theorem fills_iff {result : List Char} :
    Fills group text result ↔ replaceGroups group text = result := by
  constructor
  · intro fills
    induction fills with
    | none none => exact replaceGroups_of_eq_none (cutGroup_eq_none_iff.mpr none)
    | group first here _ inductionHypothesis =>
      rw [replaceGroups_of_eq_some (cutGroup_eq_some_iff.mpr first), written_iff.mp here,
        inductionHypothesis]
  · rintro rfl
    induction text using replaceGroups.induct with
    | case1 text uncut =>
      rw [replaceGroups_of_eq_none uncut]
      exact .none (cutGroup_eq_none_iff.mp uncut)
    | case2 text before inside after cut shorter inductionHypothesis =>
      rw [replaceGroups_of_eq_some cut]
      exact .group (cutGroup_eq_some_iff.mp cut) (written_iff.mpr rfl) inductionHypothesis

/-- Where choices are put in, putting in the values again changes nothing. -/
theorem Fills.again {result : List Char} (puts : PutsChoices group)
    (fills : Fills group text result) : Fills group result result := by
  induction fills with
  | none none => exact .none none
  | @group text before inside after written rest first here _ inductionHypothesis =>
    obtain ⟨found, only⟩ := firstGroup_iff.mp first
    obtain ⟨again, rfl, nonempty, closed, same⟩ := here.again puts found.nonempty found.closed
    refine .group (firstGroup_iff.mpr ⟨⟨?_, nonempty, closed⟩, only⟩) same inductionHypothesis
    simp

/-- How values are put into a text. -/
structure Substitution (text : String) (group : TagSet) : Prop where
  /-- The groups are written again, and nothing else changes. -/
  fills : ∀ result, replaceTags text group = result ↔ Fills group text.toList result.toList
  /-- Where choices are put in, doing it again changes nothing. -/
  settled : PutsChoices group →
    replaceTags (replaceTags text group) group = replaceTags text group

theorem substitution (text : String) (group : TagSet) : Substitution text group := by
  have fills (text result : String) :
      replaceTags text group = result ↔ Fills group text.toList result.toList := by
    rw [fills_iff, replaceTags, ← String.toList_inj, String.toList_ofList]
  refine ⟨fills text, fun puts => ?_⟩
  exact (fills _ _).mpr (((fills text _).mp rfl).again puts)

/-- The first group is no list of tags because of the brace inside it, the second one is; the empty
braces and the brace that is not closed are no groups. -/
theorem substitution_of_host :
    let text := "cpu\x7b\x7bb=*\x7d\x7bhost=*,b=x\x7d\x7b\x7d \x7bc"
    let result := "cpu\x7b\x7bb=*\x7d\x7bb=x,host=web01\x7d\x7b\x7d \x7bc"
    let group : TagSet := Table.ofList [("b", ""), ("host", "web01")]
    Fills group text.toList result.toList ∧ replaceTags result group = result := by
  intro text result group
  have puts : PutsChoices group := by
    have query : ∀ pair ∈ group.entries, pair.2 ≠ "" → isQueryValue pair.2 = true := by
      decide +kernel
    exact fun pair member nonempty => isQueryValue_iff.mp (query pair member nonempty)
  have together := substitution text group
  have replaced : replaceTags text group = result := by decide +kernel
  refine ⟨(together.fills result).mp replaced, ?_⟩
  rw [← replaced]
  exact together.settled puts

end Telemetry
