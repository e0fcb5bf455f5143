import Telemetry.Source

/-!
# Descriptors

A descriptor names one field as it is stored, so that it can be queried.

* `Source.descriptors`: one for each declared field of a source; telemetry of the gateway is not
  declared and has none.
* `CompleteExperiment.descriptors`: those of all sources, in their order.
-/

namespace Telemetry

/-- One stored field. -/
structure Descriptor where
  bucket : String
  measurement : String
  deviceAddress : String
  displayName : String
  field : String
  /-- The service of the field; a whiteboard measure has none. -/
  service : Option String
  deriving DecidableEq

/-- The field comes from a whiteboard. -/
def Descriptor.isWhiteboard (d : Descriptor) : Bool := d.service.isNone

/-- The descriptors of a source. -/
def Source.descriptors (s : Source) (bucket : String) : List Descriptor :=
  s.parser.fields.map fun f =>
    ⟨bucket, s.measurement, s.device.address, s.displayName, f.name, s.service?⟩

/-- The descriptors of an experiment. -/
def CompleteExperiment.descriptors (e : CompleteExperiment) (bucket : String) :
    List Descriptor :=
  e.sources.flatMap (·.descriptors bucket)

end Telemetry
