/-
This file loads the settings from a file.

The file holds YAML in UTF-8. What stops the loading is one of three things: the file cannot be
read, it holds no settings, or the settings have a fault.
-/

import Telemetry.Settings.Validity
import Telemetry.Text.Utf8
import Telemetry.Yaml.Node

namespace Telemetry

/-- What stops the loading of settings from the file with a path. -/
inductive LoadingError where
  | unreadable (path : String)
  | unparsable (path : String)
  | faulty (fault : SettingsFault)
  deriving DecidableEq, Repr

/-- The wording of the error. -/
def LoadingError.message : LoadingError → String
  | .unreadable path => "reading config file " ++ path
  | .unparsable path => "parsing config file " ++ path
  | .faulty fault => fault.message

namespace Settings

/-- Reads settings that are written in YAML. -/
def ofYaml? (text : String) : Option Settings := do ofDocument? (← Yaml.document? text)

/-- Loads settings from the content of a file. There is none where the file cannot be read. -/
def load (path : String) (content : Option Bytes) : Except LoadingError Settings :=
  match content.bind Utf8.text? with
  | none => .error (.unreadable path)
  | some text =>
    match ofYaml? text with
    | none => .error (.unparsable path)
    | some settings =>
      match settings.validate with
      | .ok () => .ok settings
      | .error fault => .error (.faulty fault)

/-- Loaded settings are valid. -/
theorem validate_of_load {path : String} {content : Option Bytes} {settings : Settings}
    (loaded : load path content = .ok settings) : settings.validate = .ok () := by
  unfold load at loaded
  repeat' split at loaded
  all_goals simp_all

end Settings

end Telemetry
