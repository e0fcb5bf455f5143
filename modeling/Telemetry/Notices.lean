import Telemetry.Join
import Telemetry.Log.Event
import Telemetry.Source

/-!
# What is worth telling about an experiment

* `CompleteExperiment.notices`: which parts of an experiment are no sources, and why.
* `DeviceSlot.notices`: which enabled services a sensor does not offer.
-/

namespace Telemetry

/-- A candidate declares more parsers than the one in effect. -/
def severalParsers (chosen : ParserKind) (ignored : List ParserKind) : LogEvent where
  level := .warn
  target := .parsers
  message := "Multiple parser variants declared"
  values := [("chosen", .quoted chosen.key), ("ignored", .names (ignored.map ParserKind.key))]

namespace ParserSlots

/-- What there is to tell when one of several parsers is chosen. -/
def notices (s : ParserSlots) : List LogEvent :=
  match s.chosen, s.ignored with
  | some chosen, k :: ks => [severalParsers chosen.kind (k :: ks)]
  | _, _ => []

end ParserSlots

namespace Candidate

/-- Why a candidate is no source. -/
def refusal (c : Candidate) : Verdict → List LogEvent
  | .unnamed => [{
      level := .debug
      target := .sources
      message := "Skipping source with empty canonical name"
      values := [("slot", .plain c.device.slot), ("short_name", .plain c.device.shortName),
        ("name", .plain c.name)] }]
  | .noParser measurement => [{
      level := .debug
      target := .sources
      message := "Skipping source without parser"
      values := [("measurement", .plain measurement)] }]
  | .noTopic measurement => [{
      level := .debug
      target := .sources
      message := "Skipping source without topic"
      values := [("measurement", .plain measurement)] }]
  | .unusable measurement parser defect => [{
      level := .warn
      target := .sources
      message := "Skipping source with unusable parser"
      values := [("measurement", .plain measurement), ("parser", .quoted parser.kind.key),
        ("defect", .quoted defect.message)] }]
  | .usable _ => []

/-- What there is to tell about a candidate. The parsers of one without a name are not looked at. -/
def notices (c : Candidate) : List LogEvent :=
  match c.verdict with
  | .unnamed => c.refusal .unnamed
  | verdict => c.parsers.notices ++ c.refusal verdict

end Candidate

/-- What there is to tell about the candidates of an experiment. -/
def CompleteExperiment.notices (e : CompleteExperiment) : List LogEvent :=
  e.candidates.flatMap Candidate.notices

namespace DeviceSlot

/-- An enabled service that the sensor does not offer. -/
def missingService (slot : DeviceSlot) (service : String) : LogEvent where
  level := .debug
  target := .joining
  message := "Enabled service not offered by sensor"
  values := [("sensor", .plain slot.sensorId), ("service", .plain service)]

/-- What there is to tell about a slot and its sensor. -/
def notices (slot : DeviceSlot) (sensor : SensorRecord) : List LogEvent :=
  (slot.missingServices sensor).map slot.missingService

end DeviceSlot

end Telemetry
