import Telemetry.Operation.Step
import Telemetry.Schema.Sensor

/-!
# Sensor definitions

* `Sensors.list`, `Sensors.raw`, `Sensors.get`: definitions as they are stored, or flattened.
* `Sensors.insert`, `Sensors.edit`: only a definition that can be joined is stored.
-/

namespace Telemetry.Sensors

/-- The sensor that a document defines. -/
def record (d : Document) : Except Error SensorRecord :=
  let view := if d.isDynamic then d.flattenDynamic else d
  match SensorRecord.ofMembers view with
  | .ok r => .ok r
  | .error fault => .error (.invalidDocument ("sensor: " ++ fault.message))

/-- Every sensor, as it is stored. -/
def list : Operation (List Document) := Operation.select .all Collection.sensors

/-- A sensor, as it is stored. -/
def raw (id : String) : Operation Document := Operation.find id Collection.sensors "sensor"

/-- A sensor, flattened. -/
def get (id : String) : Operation Document := do
  let d ← raw id
  return if d.isDynamic then d.flattenDynamic else d

/-- A sensor was stored. -/
def stored (id : String) : LogEvent where
  level := .info
  target := .sensors
  message := "Sensor stored"
  values := [LogValue.category "sensors", ("id", .plain id)]

/-- Store a new sensor and give its id. -/
def insert (d : Document) : Operation String := do
  let _ ← Operation.ofExcept (record d)
  let id ← Operation.insert d Collection.sensors
  Operation.log (stored id)
  return id

/-- A sensor was replaced. -/
def replaced (id : String) : LogEvent where
  level := .debug
  target := .sensors
  message := "Sensor replaced"
  values := [LogValue.category "sensors", ("id", .plain id)]

/-- Replace a sensor; it is an error if nothing changes. -/
def edit (id : String) (d : Document) : Operation Unit := do
  let _ ← Operation.ofExcept (record d)
  let x ← Operation.ofExcept (ObjectId.parseId id)
  if ← Operation.replace x d Collection.sensors then Operation.log (replaced id)
  else throw (.notModified ("sensor " ++ id))

end Telemetry.Sensors
