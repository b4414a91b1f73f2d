/-
This file says where a token that is no tag cuts a line.

Tokens are read from left to right, and the first one that is no tag ends the reading of tags. A
line therefore says what it would say without that token and without all that follow it, and the
token is reported with its refusal. A token is read as a whole: when one of several pairs in it
could not be read by itself, none of them counts.
-/

import Telemetry.Proofs.TagGrammar

namespace Telemetry

namespace Line

/-! ### One token -/

variable {tags : TagSet} {token pair : String} {refusal : Refusal}

/-- A token can be read when its tags can, and no value among them is the form of a query. -/
theorem readToken_eq_ok_iff :
    readToken token = .ok tags ↔
      readTags token = .ok tags ∧ ∀ pair ∈ tags.entries, isCanonical pair.2 = true := by
  unfold readToken
  split
  · rename_i refused
    simp [refused]
  · rename_i read success
    rw [success]
    split
    · rename_i pair found
      refine ⟨nofun, fun ⟨same, canonical⟩ => ?_⟩
      rw [← Except.ok.inj same] at canonical
      have refused := List.find?_some found
      rw [canonical pair (List.mem_of_find?_eq_some found)] at refused
      cases refused
    · rename_i none
      refine ⟨fun same => ⟨same, ?_⟩, fun both => both.1⟩
      rw [← Except.ok.inj same]
      simpa using none

/-- Of a token that can be read, every pair can be read by itself. -/
theorem exists_readToken_of_mem_pieces (success : readToken token = .ok tags)
    (member : pair ∈ pieces ',' token) : ∃ own, readToken pair = .ok own := by
  obtain ⟨read, canonical⟩ := readToken_eq_ok_iff.mp success
  obtain ⟨tag, inTags, own⟩ := exists_readTags_of_mem_pieces read member
  refine ⟨Table.empty.insert tag.1 tag.2, readToken_eq_ok_iff.mpr ⟨own, ?_⟩⟩
  intro entry listed
  have same : entry = tag := List.mem_singleton.mp listed
  rw [same]
  exact canonical tag inTags

/-- A token is bad: it is not the one that leaves out the host, and it cannot be read. -/
def IsBad (token : String) : Prop :=
  token ≠ hostTag ++ "=" ∧ ∃ refusal, readToken token = .error refusal

theorem tagsOfToken_eq_error_iff :
    tagsOfToken token = .error refusal ↔
      token ≠ hostTag ++ "=" ∧ readToken token = .error refusal := by
  unfold tagsOfToken
  by_cases hostless : token = hostTag ++ "="
  · rw [if_pos hostless]
    exact ⟨nofun, fun both => absurd hostless both.1⟩
  · rw [if_neg hostless]
    exact ⟨fun refused => ⟨hostless, refused⟩, fun both => both.2⟩

/-- The bad tokens are those that give no tags. -/
theorem isBad_iff : IsBad token ↔ ∃ refusal, tagsOfToken token = .error refusal := by
  simp only [tagsOfToken_eq_error_iff, exists_and_left]
  rfl

theorem not_isBad_of_ok (success : tagsOfToken token = .ok tags) : ¬IsBad token := by
  rw [isBad_iff]
  rintro ⟨refusal, refused⟩
  cases success.symm.trans refused

/-- A token with several pairs is bad when one of them cannot be read by itself. -/
theorem isBad_of_mem_pieces (several : 2 ≤ (pieces ',' token).length)
    (member : pair ∈ pieces ',' token) (refused : ∃ refusal, readToken pair = .error refusal) :
    IsBad token := by
  refine ⟨fun hostless => ?_, ?_⟩
  · have single : (pieces ',' (hostTag ++ "=")).length = 1 := by decide
    rw [hostless, single] at several
    omega
  · obtain ⟨refusal, refused⟩ := refused
    cases read : readToken token with
    | error reason => exact ⟨reason, rfl⟩
    | ok tags =>
      obtain ⟨own, success⟩ := exists_readToken_of_mem_pieces read member
      cases refused.symm.trans success

/-! ### Tokens one after the other -/

variable {tokens good later : List String}

/-- A bad token adds nothing, and nothing behind it is read. -/
theorem readTokens_cons_of_bad (bad : tagsOfToken token = .error refusal) (tags : TagSet)
    (later : List String) :
    readTokens tags (token :: later) = (tags, some (.tag token refusal)) := by
  rw [readTokens, bad]

/-- Behind tokens that are not bad the reading goes on. -/
theorem readTokens_append (clear : ∀ token ∈ good, ¬IsBad token) (tags : TagSet)
    (later : List String) :
    readTokens tags (good ++ later) = readTokens (readTokens tags good).1 later := by
  induction good generalizing tags with
  | nil => rfl
  | cons token rest inductionHypothesis =>
    have here := clear token List.mem_cons_self
    rw [List.cons_append, readTokens, readTokens]
    cases read : tagsOfToken token with
    | error refusal => exact absurd (isBad_iff.mpr ⟨refusal, read⟩) here
    | ok more => exact inductionHypothesis (fun other member => clear other (by simp [member])) _

/-- A token is reported exactly when one of the tokens is bad. -/
theorem readTokens_snd_eq_none_iff (tags : TagSet) (tokens : List String) :
    (readTokens tags tokens).2 = none ↔ ∀ token ∈ tokens, ¬IsBad token := by
  induction tokens generalizing tags with
  | nil => simp
  | cons token rest inductionHypothesis =>
    rw [List.forall_mem_cons, readTokens]
    cases read : tagsOfToken token with
    | error refusal => simp [isBad_iff.mpr ⟨refusal, read⟩]
    | ok more => simp [not_isBad_of_ok read, inductionHypothesis]

/-! ### Lines -/

/-- The point that a metric, a timestamp and a value give with tags. -/
def pointOf (context : Context) (metric timestamp value : String) (tags : TagSet) :
    Except LineError Point :=
  match int64? timestamp, Value.ofText value with
  | none, _ => .error (.timestamp timestamp)
  | some _, .error _ => .error (.value value)
  | some seconds, .ok number =>
    match context.canonicalize metric seconds number tags with
    | .error refusal => .error (.invalid refusal)
    | .ok point => .ok point

/-- A line gives the point of its first three fields with the tags of its tokens. The tokens do
nothing else, but that one of them may be reported. -/
theorem read_eq_pointOf {line metric timestamp value : String}
    (fields : words line = metric :: timestamp :: value :: tokens) (context : Context) :
    read context line =
      (pointOf context metric timestamp value (readTokens ∅ tokens).1).map fun point =>
        ⟨point, (readTokens ∅ tokens).2⟩ := by
  rw [read, words_trim, fields, readFields, pointOf]
  cases int64? timestamp with
  | none => rfl
  | some seconds =>
    cases Value.ofText value with
    | error refusal => rfl
    | ok number =>
      dsimp only
      cases context.canonicalize metric seconds number (readTokens ∅ tokens).1 <;> rfl

/-- A line that is read has the three fields, gives their point with the tags of its tokens, and
reports what reading the tokens reports. -/
theorem fields_of_read {context : Context} {line : String} {found : Line}
    (success : read context line = .ok found) :
    ∃ metric timestamp value tokens, words line = metric :: timestamp :: value :: tokens ∧
      pointOf context metric timestamp value (readTokens ∅ tokens).1 = .ok found.point ∧
      found.tagError = (readTokens ∅ tokens).2 := by
  match fields : words line with
  | metric :: timestamp :: value :: tokens =>
    refine ⟨metric, timestamp, value, tokens, rfl, ?_⟩
    rw [read_eq_pointOf fields] at success
    cases given : pointOf context metric timestamp value (readTokens ∅ tokens).1 with
    | error reason =>
      rw [given] at success
      cases success
    | ok point =>
      rw [given] at success
      rw [← Except.ok.inj success]
      exact ⟨rfl, rfl⟩
  | [] | [_] | [_, _] =>
    rw [read, words_trim, fields] at success
    cases success

/-! ### The cut -/

/-- What a bad token does to a line: the line gives what a shorter one gives that ends before the
token, be it a point or an error, and the token is reported with its refusal. -/
structure Cut (context : Context) (line shorter token : String) (refusal : Refusal) : Prop where
  same : (read context line).map (·.point) = (read context shorter).map (·.point)
  reported : ∀ found, read context line = .ok found →
    found.tagError = some (.tag token refusal)

theorem cut_of_words {line shorter metric timestamp value : String}
    (whole : words line = metric :: timestamp :: value :: (good ++ token :: later))
    (short : words shorter = metric :: timestamp :: value :: good)
    (clear : ∀ other ∈ good, ¬IsBad other) (bad : tagsOfToken token = .error refusal)
    (context : Context) : Cut context line shorter token refusal := by
  have tokens : readTokens ∅ (good ++ token :: later) =
      ((readTokens ∅ good).1, some (.tag token refusal)) := by
    rw [readTokens_append clear, readTokens_cons_of_bad bad]
  have long := read_eq_pointOf whole context
  rw [tokens] at long
  have brief := read_eq_pointOf short context
  cases given : pointOf context metric timestamp value (readTokens ∅ good).1 with
  | error reason =>
    rw [given] at long brief
    refine ⟨by rw [long, brief]; rfl, fun found read => ?_⟩
    cases long.symm.trans read
  | ok point =>
    rw [given] at long brief
    refine ⟨by rw [long, brief]; rfl, fun found read => ?_⟩
    rw [← Except.ok.inj (long.symm.trans read)]

/-- A line is reported exactly when it is read and one of its tokens is bad. -/
theorem exists_tagError_iff (context : Context) (line : String) :
    (∃ found, read context line = .ok found ∧ found.tagError ≠ none) ↔
      (∃ found, read context line = .ok found) ∧ ∃ token ∈ (words line).drop 3, IsBad token := by
  -- Of a line that is read the words behind the first three are the tokens.
  have silent (found : Line) (success : read context line = .ok found) :
      found.tagError = none ↔ ∀ token ∈ (words line).drop 3, ¬IsBad token := by
    obtain ⟨metric, timestamp, value, tokens, fields, _, reported⟩ := fields_of_read success
    rw [fields, reported]
    exact readTokens_snd_eq_none_iff ∅ tokens
  constructor
  · rintro ⟨found, success, reported⟩
    rw [ne_eq, silent found success] at reported
    simpa using And.intro ⟨found, success⟩ reported
  · rintro ⟨⟨found, success⟩, token, member, bad⟩
    exact ⟨found, success, fun none => (silent found success).mp none token member bad⟩

/-- How bad tokens and lines go together in a context. -/
structure EndsAtBadTokens (context : Context) : Prop where
  /-- A line with a bad token behind others that are not bad is cut there. -/
  cut : ∀ line shorter metric timestamp value good token later refusal,
    words line = metric :: timestamp :: value :: (good ++ token :: later) →
      words shorter = metric :: timestamp :: value :: good →
        (∀ other ∈ good, ¬IsBad other) → IsBad token → readToken token = .error refusal →
          Cut context line shorter token refusal
  /-- Nothing else is reported. -/
  reported : ∀ line, (∃ found, read context line = .ok found ∧ found.tagError ≠ none) ↔
    (∃ found, read context line = .ok found) ∧ ∃ token ∈ (words line).drop 3, IsBad token
  /-- A token with several pairs of which one cannot be read is bad, and adds none of them. -/
  whole : ∀ token pair, 2 ≤ (pieces ',' token).length → pair ∈ pieces ',' token →
    (∃ refusal, readToken pair = .error refusal) →
      IsBad token ∧ ∀ tags later, (readTokens tags (token :: later)).1 = tags

/-- Whatever the context, a line ends at its first bad token and nowhere else. -/
theorem endsAtBadTokens (context : Context) : EndsAtBadTokens context where
  cut line shorter metric timestamp value good token later refusal whole short clear bad refused :=
    cut_of_words whole short clear (tagsOfToken_eq_error_iff.mpr ⟨bad.1, refused⟩) context
  reported := exists_tagError_iff context
  whole token pair several member refused := by
    have bad := isBad_of_mem_pieces several member refused
    obtain ⟨reason, none⟩ := isBad_iff.mp bad
    exact ⟨bad, fun tags later => by rw [readTokens_cons_of_bad none]⟩

/-- The second tag of the line has a star for one of its values, so that the site is not read either
and the host is not left out. -/
theorem endsAtBadTokens_of_rack :
    let context := Context.new "web01"
    let line := "disk.used 60 7 env=staging site=north,rack=* host="
    let token := "site=north,rack=*"
    IsBad token ∧
      Cut context line "disk.used 60 7 env=staging" token (.invalidCharacter "*") ∧
      (read context line).toOption = some ⟨⟨"disk.used", 60, .integer 7,
        Table.ofList [("env", "staging"), ("host", "web01")]⟩,
        some (.tag token (.invalidCharacter "*"))⟩ := by
  intro context line token
  have ends := endsAtBadTokens context
  have refused : readToken token = .error (.invalidCharacter "*") := by decide +kernel
  have clear : ∀ other ∈ ["env=staging"], ¬IsBad other := by
    have read : tagsOfToken "env=staging" = .ok (Table.ofList [("env", "staging")]) := by
      decide +kernel
    exact List.forall_mem_singleton.mpr (not_isBad_of_ok read)
  have bad : IsBad token :=
    (ends.whole token "rack=*" (by decide) (by decide)
      ⟨.invalidCharacter "*", by decide +kernel⟩).1
  refine ⟨bad, ?_, by decide +kernel⟩
  exact ends.cut line _ "disk.used" "60" "7" ["env=staging"] token ["host="] _ (by decide)
    (by decide) clear bad refused

end Line

end Telemetry
