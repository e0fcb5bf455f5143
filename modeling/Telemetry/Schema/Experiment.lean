import Telemetry.Schema.Sensor

/-!
# Experiment documents

* `ExperimentRecord`: what an experiment document says; `ExperimentRecord.ofDocument` reads it.
* `DeviceSlot`: a place of an experiment that a sensor takes.
* `CompleteExperiment`: an experiment whose slots are joined with their sensors.
-/

namespace Telemetry

/-- A place of an experiment, and what it says differently from its sensor. -/
structure DeviceSlot where
  sensorId : String
  macAddress : String
  enabledServices : List String
  name : Option String
  shortName : Option String
  dynamicSchema : Option Json
  whiteboard : Option Whiteboard

/-- What an experiment document says. -/
structure ExperimentRecord where
  id : Option String
  description : String
  devices : List DeviceSlot

/-- A slot joined with its sensor. -/
structure CompleteDevice where
  slot : String
  sensorId : String
  name : String
  shortName : String
  address : String
  services : List Service
  whiteboard : List WhiteboardMeasure
  deriving DecidableEq

/-- An experiment with every slot joined. It is made when it is read and never stored. -/
structure CompleteExperiment where
  id : String
  description : String
  devices : List CompleteDevice
  deriving DecidableEq

namespace DeviceSlot

def ofMembers (m : Entries Json) : Decoded DeviceSlot := do
  let dynamicSchema ← m.field? dynamicMarker Json.decodePresent
  let enabledServices ← m.field? "enabledServices" (Json.decodeList Json.decodeText)
  let macAddress ← m.field? "macAddress" Json.decodeText
  let whiteboard ← m.field? SensorRecord.whiteboardKey (Json.decodeOption Whiteboard.decode)
  let name ← m.field? "name" (Json.decodeOption Json.decodeText)
  let sensorId ← m.field? "sensorId" Json.decodeText
  let shortName ← m.field? "shortName" (Json.decodeOption Json.decodeText)
  return {
    sensorId := ← Entries.need "sensorId" sensorId
    macAddress := macAddress.getD ""
    enabledServices := enabledServices.getD []
    name := name.join
    shortName := shortName.join
    dynamicSchema := dynamicSchema.join
    whiteboard := whiteboard.join }

def ofItems (vs : List Json) : Decoded DeviceSlot := do
  let sensorId ← Json.needItem "DeviceSlot" 7 vs 0 Json.decodeText
  let macAddress ← Json.item? vs 1 Json.decodeText
  let enabledServices ← Json.item? vs 2 (Json.decodeList Json.decodeText)
  let name ← Json.item? vs 3 (Json.decodeOption Json.decodeText)
  let shortName ← Json.item? vs 4 (Json.decodeOption Json.decodeText)
  let dynamicSchema ← Json.item? vs 5 Json.decodePresent
  let whiteboard ← Json.item? vs 6 (Json.decodeOption Whiteboard.decode)
  return {
    sensorId := sensorId
    macAddress := macAddress.getD ""
    enabledServices := enabledServices.getD []
    name := name.join
    shortName := shortName.join
    dynamicSchema := dynamicSchema.join
    whiteboard := whiteboard.join }

def decode : Json → Decoded DeviceSlot :=
  Json.decodeRecord "DeviceSlot" 7 .direct ofMembers ofItems

def toJson (s : DeviceSlot) : Json :=
  .object (Json.member? dynamicMarker id s.dynamicSchema ++
    [("enabledServices", .texts s.enabledServices), ("macAddress", .text s.macAddress)] ++
    Json.member? SensorRecord.whiteboardKey Whiteboard.toJson s.whiteboard ++
    Json.member? "name" .text s.name ++ [("sensorId", .text s.sensorId)] ++
    Json.member? "shortName" .text s.shortName)

end DeviceSlot

namespace ExperimentRecord

def ofMembers (m : Entries Json) : Decoded ExperimentRecord := do
  let id ← m.field? idKey (Json.decodeOption Json.decodeText)
  let description ← m.field? "description" Json.decodeText
  let devices ← m.field? "devices" (Json.decodeList DeviceSlot.decode)
  return ⟨id.join, description.getD "", devices.getD []⟩

def ofItems (vs : List Json) : Decoded ExperimentRecord := do
  let id ← Json.item? vs 0 (Json.decodeOption Json.decodeText)
  let description ← Json.item? vs 1 Json.decodeText
  let devices ← Json.item? vs 2 (Json.decodeList DeviceSlot.decode)
  return ⟨id.join, description.getD "", devices.getD []⟩

def decode : Json → Decoded ExperimentRecord :=
  Json.decodeRecord "ExperimentRecord" 3 .direct ofMembers ofItems

/-- What an experiment document says. -/
def ofDocument (d : Document) : Except Error ExperimentRecord :=
  match ofMembers d with
  | .ok r => .ok r
  | .error fault => .error (.invalidDocument ("experiment: " ++ fault.message))

def toJson (r : ExperimentRecord) : Json :=
  .object (Json.member? idKey .text r.id ++ [("description", .text r.description),
    ("devices", .list (r.devices.map DeviceSlot.toJson))])

end ExperimentRecord

namespace CompleteDevice

def ofMembers (m : Entries Json) : Decoded CompleteDevice := do
  let address ← m.field? "address" Json.decodeText
  let whiteboard ← m.field? SensorRecord.whiteboardKey (Json.decodeList WhiteboardMeasure.decode)
  let name ← m.field? "name" Json.decodeText
  let sensorId ← m.field? "sensorId" Json.decodeText
  let services ← m.field? "services" (Json.decodeList Service.decode)
  let shortName ← m.field? "shortName" Json.decodeText
  let slot ← m.field? "slot" Json.decodeText
  return {
    slot := ← Entries.need "slot" slot
    sensorId := ← Entries.need "sensorId" sensorId
    name := ← Entries.need "name" name
    shortName := ← Entries.need "shortName" shortName
    address := ← Entries.need "address" address
    services := ← Entries.need "services" services
    whiteboard := whiteboard.getD [] }

def ofItems (vs : List Json) : Decoded CompleteDevice := do
  let needed {α : Type} (i : Nat) (decode : Json → Decoded α) : Decoded α :=
    Json.needItem "CompleteDevice" 7 vs i decode
  let slot ← needed 0 Json.decodeText
  let sensorId ← needed 1 Json.decodeText
  let name ← needed 2 Json.decodeText
  let shortName ← needed 3 Json.decodeText
  let address ← needed 4 Json.decodeText
  let services ← needed 5 (Json.decodeList Service.decode)
  let whiteboard ← Json.item? vs 6 (Json.decodeList WhiteboardMeasure.decode)
  return ⟨slot, sensorId, name, shortName, address, services, whiteboard.getD []⟩

def decode : Json → Decoded CompleteDevice :=
  Json.decodeRecord "CompleteDevice" 7 .direct ofMembers ofItems

def toJson (d : CompleteDevice) : Json :=
  .object [("address", .text d.address),
    (SensorRecord.whiteboardKey, .list (d.whiteboard.map WhiteboardMeasure.toJson)),
    ("name", .text d.name), ("sensorId", .text d.sensorId),
    ("services", .list (d.services.map Service.toJson)), ("shortName", .text d.shortName),
    ("slot", .text d.slot)]

end CompleteDevice

namespace CompleteExperiment

def ofMembers (m : Entries Json) : Decoded CompleteExperiment := do
  let description ← m.field? "description" Json.decodeText
  let devices ← m.field? "devices" (Json.decodeList CompleteDevice.decode)
  let id ← m.field? "id" Json.decodeText
  return {
    id := ← Entries.need "id" id
    description := ← Entries.need "description" description
    devices := ← Entries.need "devices" devices }

def ofItems (vs : List Json) : Decoded CompleteExperiment := do
  let id ← Json.needItem "CompleteExperiment" 3 vs 0 Json.decodeText
  let description ← Json.needItem "CompleteExperiment" 3 vs 1 Json.decodeText
  let devices ← Json.needItem "CompleteExperiment" 3 vs 2 (Json.decodeList CompleteDevice.decode)
  return ⟨id, description, devices⟩

def decode : Json → Decoded CompleteExperiment :=
  Json.decodeRecord "CompleteExperiment" 3 .direct ofMembers ofItems

def toJson (e : CompleteExperiment) : Json :=
  .object [("description", .text e.description),
    ("devices", .list (e.devices.map CompleteDevice.toJson)), ("id", .text e.id)]

end CompleteExperiment

end Telemetry
