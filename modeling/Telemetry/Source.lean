import Telemetry.Schema.Experiment
import Telemetry.Dispatch

/-!
# Measurement sources

A source is one named stream that a device of an experiment publishes: a characteristic of a joined
service or a whiteboard measure.

* `Candidate`: anything of an experiment that may be a source, `candidates` all of them in document
  order, all characteristics before all whiteboard measures.
* `Candidate.verdict`: the source, or why there is none.
* `sources`: the sources of an experiment.
-/

namespace Telemetry

/-- Where in an experiment a source stands. -/
inductive Branch where
  /-- A characteristic of the service with this uuid. -/
  | structured (service : String)
  | whiteboard
  deriving DecidableEq

/-- One named stream of a device. -/
structure Source where
  device : CompleteDevice
  branch : Branch
  name : String
  measurement : String
  topic : String
  parser : Parser
  deriving DecidableEq

/-- What may be a source. -/
structure Candidate where
  device : CompleteDevice
  branch : Branch
  name : String
  topic : Option String
  parsers : ParserSlots

/-- What becomes of a candidate. -/
inductive Verdict where
  /-- Nothing is left of the short name or of the name. -/
  | unnamed
  | noParser (measurement : String)
  | noTopic (measurement : String)
  | unusable (measurement : String) (parser : Parser) (defect : Parser.Defect)
  | usable (source : Source)

namespace CompleteDevice

/-- The characteristics of a device's services. -/
def characteristics (d : CompleteDevice) : List Candidate :=
  d.services.flatMap fun s =>
    s.characteristics.map fun c => ⟨d, .structured s.uuid, c.name, c.mqttTopic, c.parsers⟩

/-- The measures of a device's whiteboard. -/
def measures (d : CompleteDevice) : List Candidate :=
  d.whiteboard.map fun m => ⟨d, .whiteboard, m.name, some m.mqttTopic, m.parsers⟩

end CompleteDevice

namespace Candidate

/-- The topic of a candidate; an empty one counts as none. -/
def topic? (c : Candidate) : Option String := c.topic.filter (· ≠ "")

/-- A candidate is a source if it has a name, a parser, a topic, and its parser no defect. -/
def verdict (c : Candidate) : Verdict :=
  match measurementName c.device.shortName c.name with
  | none => .unnamed
  | some measurement =>
    match c.parsers.chosen with
    | none => .noParser measurement
    | some parser =>
      match c.topic? with
      | none => .noTopic measurement
      | some topic =>
        match parser.defect with
        | some defect => .unusable measurement parser defect
        | none => .usable ⟨c.device, c.branch, c.name, measurement, topic, parser⟩

end Candidate

/-- The source of a verdict. -/
def Verdict.source? : Verdict → Option Source
  | usable s => some s
  | _ => none

namespace CompleteExperiment

/-- The characteristics of all devices. -/
def structuredCandidates (e : CompleteExperiment) : List Candidate :=
  e.devices.flatMap CompleteDevice.characteristics

/-- The whiteboard measures of all devices. -/
def whiteboardCandidates (e : CompleteExperiment) : List Candidate :=
  e.devices.flatMap CompleteDevice.measures

/-- All candidates of an experiment. -/
def candidates (e : CompleteExperiment) : List Candidate :=
  e.structuredCandidates ++ e.whiteboardCandidates

/-- The sources among the characteristics. -/
def structuredSources (e : CompleteExperiment) : List Source :=
  e.structuredCandidates.filterMap (·.verdict.source?)

/-- The sources among the whiteboard measures. -/
def whiteboardSources (e : CompleteExperiment) : List Source :=
  e.whiteboardCandidates.filterMap (·.verdict.source?)

/-- The sources of an experiment. -/
def sources (e : CompleteExperiment) : List Source :=
  e.candidates.filterMap (·.verdict.source?)

end CompleteExperiment

namespace Source

def dispatch (s : Source) : Dispatched := s.parser.dispatch

/-- The key of the device's slot. -/
def slot (s : Source) : String := s.device.slot

/-- The service of a characteristic. -/
def service? (s : Source) : Option String :=
  match s.branch with
  | .structured service => some service
  | .whiteboard => none

/-- The label of a source: the name of the device and of the characteristic, or of the measure
alone, in lowercase. -/
def displayName (s : Source) : String :=
  match s.branch with
  | .structured _ =>
    Text.lowercase s.device.name ++ "_" ++
      String.ofList ((Text.lowercase s.name).toList.filter (· ≠ ' '))
  | .whiteboard => Text.lowercase s.name

end Source

end Telemetry
