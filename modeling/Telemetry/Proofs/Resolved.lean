/-
This file says which point a reading becomes that is tagged with the name of a watch entry.

The name of an entry may hold characters that are not accepted. They are dropped when a point is
made; everything else in such a reading is canonical as it stands, and so are the host's name and
the default tags of a context that was set up with valid settings. Such a reading is therefore never
rejected, and its point has the tags that the call resolves to with the cleaned name in place of the
name itself.
-/

import Telemetry.Field
import Telemetry.Proofs.Canonical
import Telemetry.Proofs.Finite

namespace Telemetry

/-- Tags with canonical keys are cleaned value by value. -/
theorem TagSet.clean_values {tags : TagSet} {change : String → String → String}
    (keys : ∀ pair ∈ tags.entries, isCanonical pair.1 = true)
    (values : ∀ pair ∈ tags.entries, Telemetry.clean pair.2 = .ok (change pair.1 pair.2)) :
    ∃ result, tags.clean = .ok result ∧
      ∀ key, result.get? key = (tags.get? key).map (change key) := by
  have images : ∀ pair ∈ tags.entries, cleanPair pair = .ok (pair.1, change pair.1 pair.2) :=
    fun pair member => cleanPair_eq_ok_iff.mpr
      ⟨Telemetry.clean_of_isCanonical (keys pair member), values pair member⟩
  obtain ⟨result, success, entries⟩ :=
    clean_ascending images (List.pairwise_map.mpr tags.ascending)
  exact ⟨result, success, Table.get?_of_entries_map entries⟩

/-! ### Contexts with valid settings -/

namespace Context

/-- A context as valid settings make it: the host's name is a cleaned one, and every default tag is
valid. -/
structure IsValid (context : Context) : Prop where
  hostname : ∃ name, context.hostname = hostnameFor name
  defaultTags : context.defaultTags.IsCanonical

theorem isCanonical_hostnameFor (name : String) : isCanonical (hostnameFor name) = true := by
  unfold hostnameFor
  split
  · rename_i cleaned success
    exact isCanonical_of_clean success
  · decide +kernel

theorem IsValid.isCanonical_hostname {context : Context} (valid : context.IsValid) :
    isCanonical context.hostname = true := by
  obtain ⟨name, same⟩ := valid.hostname
  rw [same]
  exact isCanonical_hostnameFor name

/-- Without a tag for the host, a call gets the host's name, its own tags and the defaults, in this
order of precedence. -/
theorem get?_resolve (context : Context) {tags : TagSet} (hostless : tags.get? hostTag = none)
    (key : String) :
    (context.resolve tags).get? key =
      if key = hostTag then some context.hostname
      else (tags.get? key).or (context.defaultTags.get? key) := by
  rw [resolve, hostless]
  dsimp only
  rw [Table.get?_merge, Table.get?_insert]
  split
  · rfl
  · rfl

/-- Tags of a call without a host are cleaned one by one, and the host's name and the defaults stay
as they are. -/
theorem IsValid.clean_resolve_of {context : Context} (valid : context.IsValid)
    {tags changed : TagSet} (hostless : tags.get? hostTag = none)
    (change : String → String → String)
    (cleaned : ∀ key value, tags.get? key = some value →
      isCanonical key = true ∧ clean value = .ok (change key value))
    (images : ∀ key, changed.get? key = (tags.get? key).map (change key)) :
    (context.resolve tags).clean = .ok (context.resolve changed) := by
  -- A tag of the call is changed, all others are canonical as they stand.
  let altered (key value : String) : String :=
    if (tags.get? key).isSome then change key value else value
  have entries : ∀ pair ∈ (context.resolve tags).entries,
      isCanonical pair.1 = true ∧ clean pair.2 = .ok (altered pair.1 pair.2) := by
    rintro ⟨key, value⟩ member
    have found := Table.get?_eq_some_iff.mpr member
    rw [context.get?_resolve hostless] at found
    dsimp only [altered]
    by_cases host : key = hostTag
    · rw [if_pos host] at found
      rw [host, hostless, ← Option.some.inj found]
      exact ⟨by decide +kernel, clean_of_isCanonical valid.isCanonical_hostname⟩
    · rw [if_neg host] at found
      cases own : tags.get? key with
      | some given =>
        rw [own] at found
        rw [← Option.some.inj found]
        exact cleaned key given own
      | none =>
        rw [own, Option.none_or] at found
        obtain ⟨canonicalKey, canonicalValue⟩ :=
          valid.defaultTags (key, value) (Table.get?_eq_some_iff.mp found)
        exact ⟨canonicalKey, clean_of_isCanonical canonicalValue⟩
  obtain ⟨result, success, answers⟩ :=
    TagSet.clean_values (fun pair member => (entries pair member).1)
      (fun pair member => (entries pair member).2)
  have stillHostless : changed.get? hostTag = none := by rw [images, hostless]; rfl
  rw [success]
  -- Both sets are compared key by key.
  refine congrArg Except.ok (Table.eq_of_get? fun key => ?_)
  rw [answers, context.get?_resolve hostless, context.get?_resolve stillHostless, images]
  dsimp only [altered]
  by_cases host : key = hostTag
  · rw [if_pos host, if_pos host, host, hostless]
    rfl
  · rw [if_neg host, if_neg host]
    cases own : tags.get? key with
    | some given => rfl
    | none => simp
end Context

/-! ### Readings with the name of an entry -/

/-- The tags of a call about a watch entry: its name, no host, and other tags that are canonical. -/
structure TagSet.Names (name : String) (tags : TagSet) : Prop where
  name : tags.get? "name" = some name
  host : tags.get? hostTag = none
  others : ∀ key value, tags.get? key = some value →
    isCanonical key = true ∧ (key = "name" ∨ isCanonical value = true)

/-- A further canonical tag may be added. -/
theorem TagSet.Names.insert {name : String} {tags : TagSet} (names : tags.Names name)
    {key value : String} (canonicalKey : isCanonical key = true)
    (canonicalValue : isCanonical value = true) (notName : key ≠ "name") (notHost : key ≠ hostTag) :
    TagSet.Names name (tags.insert key value) := by
  refine ⟨?_, ?_, fun asked found => ?_⟩
  · rw [Table.get?_insert_other _ notName.symm, names.name]
  · rw [Table.get?_insert_other _ notHost.symm, names.host]
  · rw [Table.get?_insert]
    split
    · rename_i same
      intro given
      rw [same, ← Option.some.inj given]
      exact ⟨canonicalKey, .inr canonicalValue⟩
    · exact names.others asked found

/-- A reading about a watch entry that is canonical but for the name. -/
structure Reading.Names (name : String) (reading : Reading) : Prop where
  metric : isCanonical reading.metric = true
  value : reading.value.isFinite = true
  tags : reading.tags.Names name

namespace Context

/-- The point of a reading about an entry whose cleaned name is `label`. -/
def pointOf (context : Context) (timestamp : Int64) (label : String) (reading : Reading) : Point :=
  ⟨reading.metric, timestamp, reading.value, context.resolve (reading.tags.insert "name" label)⟩

variable {context : Context} {name label : String}

/-- The tags of such a point: the host's name, the cleaned name, the other tags of the call, and
the defaults. -/
theorem get?_pointOf {reading : Reading} (hostless : reading.tags.get? hostTag = none)
    (timestamp : Int64) (key : String) :
    (context.pointOf timestamp label reading).tags.get? key =
      if key = hostTag then some context.hostname
      else if key = "name" then some label
      else (reading.tags.get? key).or (context.defaultTags.get? key) := by
  have stillHostless : (reading.tags.insert "name" label).get? hostTag = none := by
    rw [Table.get?_insert_other _ (by decide), hostless]
  rw [pointOf, context.get?_resolve stillHostless, Table.get?_insert]
  by_cases isName : key = "name"
  · rw [if_pos isName, if_pos isName, Option.some_or]
  · rw [if_neg isName, if_neg isName]

/-- Cleaning these tags changes the name alone. -/
theorem IsValid.clean_resolve (valid : context.IsValid) (cleaned : clean name = .ok label)
    {tags : TagSet} (names : tags.Names name) :
    (context.resolve tags).clean = .ok (context.resolve (tags.insert "name" label)) := by
  refine valid.clean_resolve_of names.host
    (fun key value => if key = "name" then label else value) (fun key value found => ?_)
    fun key => ?_
  · obtain ⟨canonicalKey, either⟩ := names.others key value found
    refine ⟨canonicalKey, ?_⟩
    by_cases isName : key = "name"
    · rw [isName, names.name] at found
      rw [if_pos isName, ← Option.some.inj found, cleaned]
    · rw [if_neg isName]
      exact clean_of_isCanonical (either.resolve_left isName)
  · rw [Table.get?_insert]
    by_cases isName : key = "name"
    · rw [if_pos isName, isName, names.name, Option.map_some, if_pos rfl]
    · simp only [if_neg isName, Option.map_id']

/-- A reading about an entry is not rejected. -/
theorem IsValid.canonicalize_eq (valid : context.IsValid) (cleaned : clean name = .ok label)
    {reading : Reading} (names : reading.Names name) (timestamp : Int64) :
    context.canonicalize reading.metric timestamp reading.value reading.tags =
      .ok (context.pointOf timestamp label reading) :=
  Point.clean_eq_ok_iff.mpr ⟨names.value, _, _, valid.clean_resolve cleaned names.tags,
    clean_of_isCanonical names.metric, rfl⟩

/-- Such a reading adds its point, and changes the metadata of a context alone. -/
theorem IsValid.add_eq (valid : context.IsValid) (cleaned : clean name = .ok label)
    {reading : Reading} (names : reading.Names name) (batch : List Point) (timestamp : Int64) :
    ∃ metadata, context.add batch timestamp reading =
      ({ context with metadata := metadata },
        batch ++ [context.pointOf timestamp label reading]) := by
  refine ⟨context.metadata.record reading.metric
    (context.resolve (reading.tags.insert "name" label)) reading.hint, ?_⟩
  rw [add, accept, valid.canonicalize_eq cleaned names]
  rfl

/-- Fields about an entry add their points when all of them can be read. The first one that cannot
be read gives the refusal. -/
theorem IsValid.addFields_eq (valid : context.IsValid) (cleaned : clean name = .ok label)
    {fields : List Field}
    (names : ∀ field ∈ fields, ∀ reading, field.reading = .ok reading → reading.Names name)
    (batch : List Point) (timestamp : Int64) :
    ∃ metadata, context.addFields batch timestamp fields =
      ({ context with metadata := metadata },
        (fields.mapM Field.reading).map fun readings =>
          batch ++ readings.map (context.pointOf timestamp label)) := by
  induction fields generalizing context batch with
  | nil => exact ⟨context.metadata, by simp [Except.map, pure, Except.pure]⟩
  | cons field rest inductionHypothesis =>
    rw [addFields, List.mapM_cons]
    cases read : field.reading with
    | error unreadable => exact ⟨context.metadata, rfl⟩
    | ok reading =>
      obtain ⟨metadata, added⟩ :=
        valid.add_eq cleaned (names field List.mem_cons_self reading read) batch timestamp
      obtain ⟨final, later⟩ :=
        @inductionHypothesis { context with metadata := metadata }
          ⟨valid.hostname, valid.defaultTags⟩
          (fun other member => names other (List.mem_cons_of_mem _ member))
          (batch ++ [context.pointOf timestamp label reading])
      refine ⟨final, ?_⟩
      dsimp only
      rw [added]
      dsimp only
      rw [later]
      cases rest.mapM Field.reading with
      | error unreadable => rfl
      | ok readings =>
        simp only [Except.map, bind, Except.bind, pure, Except.pure, List.map_cons,
          List.append_assoc, List.singleton_append]
        rfl

end Context

end Telemetry
