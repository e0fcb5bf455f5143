import Telemetry.Settings.Codec
import Telemetry.Toml.Reader

/-!
# Settings files

* `Settings.ofToml`: the settings that a text writes; what it leaves out has its default.
-/

namespace Telemetry

/-- Why a text writes no settings. -/
inductive SettingsFault where
  | unreadable (fault : Toml.Fault)
  | otherType (fault : DecodeFault)

/-- The wording of a fault. -/
def SettingsFault.message : SettingsFault → String
  | unreadable fault => fault.message
  | otherType fault => fault.message

/-- A text that writes no settings, as an error. -/
def SettingsFault.toError (fault : SettingsFault) : Error :=
  .configuration ("Invalid TOML: " ++ fault.message)

/-- The settings that a text writes, or why it writes none. -/
def Settings.parse (text : String) : Except SettingsFault Settings :=
  match Toml.read text with
  | .error fault => .error (.unreadable fault)
  | .ok table =>
    match Settings.decode .settingsFile (.object table) with
    | .ok s => .ok s
    | .error fault => .error (.otherType fault)

/-- The settings that a text writes. -/
def Settings.ofToml (text : String) : Except Error Settings :=
  (Settings.parse text).mapError SettingsFault.toError

end Telemetry
