import Telemetry.Descriptor

/-!
# Queries of a dashboard

* `QueryDescriptor`: one series to be shown; `QueryDescriptor.seriesQuery` asks for it.
* `compileQueries`: the series of a dashboard for a service: the fields of that service and those
  of whiteboards, without telemetry of the gateway.
-/

namespace Telemetry

/-- What to read from the series store. -/
structure SeriesQuery where
  bucket : String
  experimentId : String
  deviceAddress : String
  measurement : String
  /-- A blank field stands for every field of the measurement. -/
  field : String
  /-- How many seconds to look back. -/
  window : Nat
  deriving DecidableEq

/-- One series of a dashboard. -/
structure QueryDescriptor where
  id : String
  label : String
  bucket : String
  deviceAddress : String
  measurement : String
  field : String
  deriving DecidableEq

namespace Descriptor

/-- The query for a stored field. -/
def query (d : Descriptor) : QueryDescriptor where
  id := d.displayName ++ d.measurement ++ d.field
  label := d.displayName ++ " - " ++ d.measurement ++ " - " ++ d.field
  bucket := d.bucket
  deviceAddress := d.deviceAddress
  measurement := d.measurement
  field := d.field

/-- The field is shown on the dashboard of a service. -/
def belongsTo (service : String) (d : Descriptor) : Bool :=
  match d.service with
  | some s => s == service
  | none => true

end Descriptor

/-- The series of a dashboard for a service. -/
def compileQueries (ds : List Descriptor) (service : String) : List QueryDescriptor :=
  ((ds.filter (·.belongsTo service)).filter fun d => !gatewayFields.contains d.field).map
    Descriptor.query

namespace QueryDescriptor

/-- What to read for a series of a dashboard. -/
def seriesQuery (q : QueryDescriptor) (experiment : String) (window : Nat) : SeriesQuery where
  bucket := q.bucket
  experimentId := experiment
  deviceAddress := q.deviceAddress
  measurement := q.measurement
  field := q.field
  window := window

def toJson (q : QueryDescriptor) : Json :=
  .object [("bucket", .text q.bucket), ("device_address", .text q.deviceAddress),
    ("field", .text q.field), ("id", .text q.id), ("label", .text q.label),
    ("measurement", .text q.measurement)]

end QueryDescriptor

namespace SeriesQuery

def ofMembers (m : Entries Json) : Decoded SeriesQuery := do
  let bucket ← m.field? "bucket" Json.decodeText
  let deviceAddress ← m.field? "device_address" Json.decodeText
  let experimentId ← m.field? "experiment_id" Json.decodeText
  let field ← m.field? "field" Json.decodeText
  let measurement ← m.field? "measurement" Json.decodeText
  let window ← m.field? "window_secs" (Json.decodeUnsigned "u64")
  return {
    bucket := ← Entries.need "bucket" bucket
    experimentId := ← Entries.need "experiment_id" experimentId
    deviceAddress := ← Entries.need "device_address" deviceAddress
    measurement := ← Entries.need "measurement" measurement
    field := ← Entries.need "field" field
    window := ← Entries.need "window_secs" window }

def ofItems (vs : List Json) : Decoded SeriesQuery := do
  let needed {α : Type} (i : Nat) (decode : Json → Decoded α) : Decoded α :=
    Json.needItem "SeriesQuery" 6 vs i decode
  let bucket ← needed 0 Json.decodeText
  let experimentId ← needed 1 Json.decodeText
  let deviceAddress ← needed 2 Json.decodeText
  let measurement ← needed 3 Json.decodeText
  let field ← needed 4 Json.decodeText
  let window ← needed 5 (Json.decodeUnsigned "u64")
  return ⟨bucket, experimentId, deviceAddress, measurement, field, window⟩

def decode : Json → Decoded SeriesQuery :=
  Json.decodeRecord "SeriesQuery" 6 .direct ofMembers ofItems

def toJson (q : SeriesQuery) : Json :=
  .object [("bucket", .text q.bucket), ("device_address", .text q.deviceAddress),
    ("experiment_id", .text q.experimentId), ("field", .text q.field),
    ("measurement", .text q.measurement), ("window_secs", .nat q.window)]

end SeriesQuery

end Telemetry
