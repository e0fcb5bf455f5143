import Telemetry.Schema.Experiment

/-!
# Joining a slot with its sensor

* `DeviceSlot.join`: the sensor as the slot uses it: under the slot's names, with the enabled
  services only, in enabled order, and with the topic of every characteristic.
* `DeviceSlot.sensorDocument`: the sensor document to be used, flattened if the slot or the sensor
  is marked.
-/

namespace Telemetry

/-- The key of the slot at a place of an experiment. -/
def slotKey (index : Nat) : String := "sensor_" ++ toString index

namespace Service

/-- The service with the topics under which a device of an experiment publishes. -/
def withTopics (s : Service) (topic : String → String) : Service :=
  { s with characteristics :=
      s.characteristics.map fun c => { c with mqttTopic := some (topic c.name) } }

end Service

namespace DeviceSlot

/-- The sensor document as the slot reads it. -/
def sensorDocument (slot : DeviceSlot) (sensor : Document) : Document :=
  if slot.dynamicSchema.isSome || sensor.isDynamic then sensor.flattenDynamic else sensor

/-- The name of the device: the slot's own, or else the sensor's. -/
def displayName (slot : DeviceSlot) (sensor : SensorRecord) : String :=
  slot.name.getD sensor.name

/-- The service that a sensor offers under a uuid: the first of that uuid. -/
def offered (sensor : SensorRecord) (uuid : String) : Option Service :=
  sensor.services.find? (·.uuid == uuid)

/-- The enabled services that the sensor offers, in enabled order, with their topics. -/
def joinedServices (slot : DeviceSlot) (sensor : SensorRecord) (experiment root : String) :
    List Service :=
  (slot.enabledServices.filterMap (offered sensor)).map fun s =>
    s.withTopics (mqttTopic root experiment (slot.displayName sensor) slot.macAddress)

/-- The enabled services that the sensor does not offer. -/
def missingServices (slot : DeviceSlot) (sensor : SensorRecord) : List String :=
  slot.enabledServices.filter fun uuid => (offered sensor uuid).isNone

/-- A slot joined with the record of its sensor. -/
def joinRecord (slot : DeviceSlot) (index : Nat) (experiment root : String)
    (sensor : SensorRecord) : CompleteDevice where
  slot := slotKey index
  sensorId := slot.sensorId
  name := slot.displayName sensor
  shortName := slot.shortName.getD sensor.shortName
  address := slot.macAddress
  services := slot.joinedServices sensor experiment root
  whiteboard := ((slot.whiteboard.or sensor.whiteboard).map (·.measures)).getD []

/-- The record of the slot's sensor. -/
def sensorRecord (slot : DeviceSlot) (sensor : Document) : Except Error SensorRecord :=
  match SensorRecord.ofMembers (slot.sensorDocument sensor) with
  | .ok r => .ok r
  | .error fault =>
    .error (.invalidDocument ("sensor " ++ slot.sensorId ++ ": " ++ fault.message))

/-- A slot joined with its sensor document. -/
def join (slot : DeviceSlot) (index : Nat) (experiment root : String) (sensor : Document) :
    Except Error CompleteDevice :=
  (slot.sensorRecord sensor).map (slot.joinRecord index experiment root)

end DeviceSlot

end Telemetry
