/-
This file says what may be wrong with settings that could be read.

The durations and the capacity must be positive, a name of the host that is given and all default
tags must be canonical, and the entries of the watch list need names, commands and patterns that can
be read. Of several faults the first one in this order is reported.
-/

import Telemetry.Settings.Basic
import Telemetry.Text.Quoted
import Telemetry.Watch.Basic

namespace Telemetry

/-- What may be wrong with settings. -/
inductive SettingsFault where
  | frequency
  | channelCapacity
  | statsInterval
  | hostname (name : String)
  | defaultTag (key value : String)
  /-- The entry of the watch list at this place has no name. -/
  | watchName (index : Nat)
  | watchCommand (index : Nat)
  | watchPattern (index : Nat)
  deriving DecidableEq, Repr

/-- The wording of a fault. -/
def SettingsFault.message : SettingsFault → String
  | .frequency => "freq must be positive"
  | .channelCapacity => "channel_capacity must be positive"
  | .statsInterval => "stats_interval must be positive"
  | .hostname name => "hostname " ++ quoted name ++ " contains invalid characters"
  | .defaultTag key value => "invalid default tag " ++ key ++ "=" ++ value
  | .watchName index => "processes[" ++ decimal index ++ "].name is required"
  | .watchCommand index => "processes[" ++ decimal index ++ "].command is required"
  | .watchPattern index => "processes[" ++ decimal index ++ "].args is not a valid regex"

/-- A fault, if something is wrong. -/
def faultUnless (holds : Bool) (fault : SettingsFault) : List SettingsFault :=
  if holds then [] else [fault]

@[simp] theorem faultUnless_eq_nil {holds : Bool} {fault : SettingsFault} :
    faultUnless holds fault = [] ↔ holds = true := by
  cases holds <;> simp [faultUnless]

/-- The faults of the entry of the watch list at some place. -/
def WatchSettings.faults (entry : WatchSettings) (index : Nat) : List SettingsFault :=
  faultUnless (entry.name != "") (.watchName index) ++
    faultUnless (entry.command != "") (.watchCommand index) ++
    faultUnless (Pattern.ofText? entry.pattern).isSome (.watchPattern index)

namespace Settings

/-- The faults of the default tags, by ascending key. -/
def tagFaults (tags : TagSet) : List SettingsFault :=
  tags.entries.flatMap fun (key, value) =>
    faultUnless (isCanonical key && isCanonical value) (.defaultTag key value)

/-- The faults of the watch list. -/
def watchFaults (watches : List WatchSettings) : List SettingsFault :=
  watches.zipIdx.flatMap fun (entry, index) => entry.faults index

/-- All that is wrong with settings. -/
def faults (settings : Settings) : List SettingsFault :=
  faultUnless (settings.frequency != 0) .frequency ++
    faultUnless (settings.channelCapacity != 0) .channelCapacity ++
    faultUnless (settings.statsInterval != 0) .statsInterval ++
    faultUnless (settings.hostname == "" || isCanonical settings.hostname)
      (.hostname settings.hostname) ++
    tagFaults settings.tags ++ watchFaults settings.watches

/-- Accepts settings without a fault, or reports their first one. -/
def validate (settings : Settings) : Except SettingsFault Unit :=
  match settings.faults with
  | [] => .ok ()
  | fault :: _ => .error fault

/-- Settings are accepted when nothing is wrong with them. -/
theorem validate_eq_ok_iff {settings : Settings} :
    settings.validate = .ok () ↔ settings.faults = [] := by
  unfold validate
  split <;> simp_all

/-- The default tags have no fault when all their keys and values are canonical. -/
theorem tagFaults_eq_nil_iff {tags : TagSet} :
    tagFaults tags = [] ↔ ∀ entry ∈ tags.entries, isCanonical entry.1 ∧ isCanonical entry.2 := by
  simp [tagFaults, List.flatMap_eq_nil_iff]

/-- The default tags of accepted settings are canonical. -/
theorem canonical_of_validate {settings : Settings} (accepted : settings.validate = .ok ())
    (entry : String × String) (member : entry ∈ settings.tags.entries) :
    isCanonical entry.1 ∧ isCanonical entry.2 := by
  have noFault := validate_eq_ok_iff.mp accepted
  simp only [faults, List.append_eq_nil_iff] at noFault
  exact tagFaults_eq_nil_iff.mp noFault.1.2 entry member

/-- The pattern of every entry in accepted settings can be read. -/
theorem isSome_pattern_of_validate {settings : Settings} (accepted : settings.validate = .ok ())
    {entry : WatchSettings} (member : entry ∈ settings.watches) :
    (Pattern.ofText? entry.pattern).isSome = true := by
  have noFault := validate_eq_ok_iff.mp accepted
  simp only [faults, List.append_eq_nil_iff] at noFault
  obtain ⟨index, inList, rfl⟩ := List.getElem_of_mem member
  have listed : (settings.watches[index], index) ∈ settings.watches.zipIdx :=
    List.mem_zipIdx_iff_getElem?.mpr (List.getElem?_eq_getElem inList)
  have own : settings.watches[index].faults index = [] :=
    List.flatMap_eq_nil_iff.mp noFault.2 _ listed
  simp only [WatchSettings.faults, List.append_eq_nil_iff, faultUnless_eq_nil] at own
  exact own.2

end Settings

end Telemetry
