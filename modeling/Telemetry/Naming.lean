import Telemetry.Text.Case
import Telemetry.Json.Decode

/-!
# Names

Topics, measurements, resources of the broker and queries take their names from here, so that what
is written and what is read agree.

* `sanitize`: the lowercase letters and digits of a text.
* `measurementName`: the name of a measurement, from the short name of a device and the name of what
  it measures.
* `mqttTopic`: where a device publishes one characteristic.
* `NamingScope`: whether the names of resources carry the id of their experiment.
-/

namespace Telemetry

/-- The characters that a sanitized name is made of. -/
def isPlain (c : Char) : Bool := ('a' ≤ c && c ≤ 'z') || ('0' ≤ c && c ≤ '9')

/-- The lowercase form of each character of a text, without what is not a letter from `a` to `z` or
a digit. -/
def sanitize (s : String) : String :=
  String.ofList ((s.toList.flatMap Text.lowerChar).filter isPlain)

/-- The name of a measurement; there is none if nothing is left of one of its parts. -/
def measurementName (shortName name : String) : Option String :=
  if sanitize shortName = "" ∨ sanitize name = "" then none
  else some (sanitize shortName ++ "_" ++ sanitize name)

/-- The topic of one characteristic of a device. -/
def mqttTopic (root experiment device macAddress characteristic : String) : String :=
  root ++ "/" ++ experiment ++ "/" ++ device ++ "/" ++ sanitize macAddress ++ "/" ++
    sanitize characteristic

/-- Whether the names of a broker's resources carry the id of the experiment. -/
inductive NamingScope where
  | experiment
  | global
  deriving DecidableEq

namespace NamingScope

/-- The name of a scope in a configuration. -/
def name : NamingScope → String
  | experiment => "experiment"
  | global => "global"

def decode (standing : Json.Standing) : Json → Decoded NamingScope :=
  Json.decodeName standing [(name experiment, experiment), (name global, global)]

def toJson (s : NamingScope) : Json := .text s.name

end NamingScope

/-- The scopes of the names of resources, for the two kinds of sources. -/
structure NamingPolicy where
  structured : NamingScope
  whiteboard : NamingScope
  deriving DecidableEq

/-- Characteristics carry the id of the experiment, whiteboard measures do not. -/
def NamingPolicy.standard : NamingPolicy := ⟨.experiment, .global⟩

end Telemetry
