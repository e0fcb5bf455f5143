import Telemetry.Schema.Parser
import Telemetry.Document

/-!
# Sensor documents

* `SensorRecord`: what a sensor document says of its services and of its whiteboard.
* `Characteristic`, `WhiteboardMeasure`: what can be measured; their parsers stand beside their own
  keys, so that they are read from objects only, and after their own keys.
* `flattenDynamic`: a sensor may keep a part of its definition in an object of its own, which is
  lifted to the top level before the sensor is used.
-/

namespace Telemetry

/-- One value of a service. The topic is filled in when the sensor joins an experiment. -/
structure Characteristic where
  name : String
  uuid : String
  parsers : ParserSlots
  mqttTopic : Option String
  deriving DecidableEq

/-- A service and its characteristics. -/
structure Service where
  uuid : String
  characteristics : List Characteristic
  deriving DecidableEq

/-- A measure that a device publishes under a topic of its own. -/
structure WhiteboardMeasure where
  name : String
  mqttTopic : String
  parsers : ParserSlots
  deriving DecidableEq

/-- The measures of a whiteboard. -/
structure Whiteboard where
  measures : List WhiteboardMeasure
  deriving DecidableEq

/-- What a sensor document says. -/
structure SensorRecord where
  id : Option String
  name : String
  shortName : String
  address : String
  services : List Service
  whiteboard : Option Whiteboard
  deriving DecidableEq

namespace Characteristic

def decode : Json → Decoded Characteristic
  | .object m => do
    let topic ← Entries.field? m "mqttTopic" (Json.decodeOption Json.decodeText)
    let name ← Entries.field? m "name" Json.decodeText
    let uuid ← Entries.field? m "uuid" Json.decodeText
    let parsers ← ParserSlots.ofMembers .setAside m
    return ⟨name.getD "", uuid.getD "", parsers, topic.join⟩
  | v => .error (.wrongType v (.record "Characteristic"))

def toJson (c : Characteristic) : Json :=
  .object (c.parsers.members ++ Json.member? "mqttTopic" .text c.mqttTopic ++
    [("name", .text c.name), ("uuid", .text c.uuid)])

end Characteristic

namespace Service

def ofMembers (m : Entries Json) : Decoded Service := do
  let characteristics ← m.field? "characteristics" (Json.decodeList Characteristic.decode)
  let uuid ← m.field? "uuid" Json.decodeText
  return ⟨← Entries.need "uuid" uuid, characteristics.getD []⟩

def ofItems (vs : List Json) : Decoded Service := do
  let uuid ← Json.needItem "Service" 2 vs 0 Json.decodeText
  let characteristics ← Json.item? vs 1 (Json.decodeList Characteristic.decode)
  return ⟨uuid, characteristics.getD []⟩

def decode : Json → Decoded Service := Json.decodeRecord "Service" 2 .direct ofMembers ofItems

def toJson (s : Service) : Json :=
  .object [("characteristics", .list (s.characteristics.map Characteristic.toJson)),
    ("uuid", .text s.uuid)]

end Service

namespace WhiteboardMeasure

def decode : Json → Decoded WhiteboardMeasure
  | .object m => do
    let topic ← Entries.field? m "mqttTopic" Json.decodeText
    let name ← Entries.field? m "name" Json.decodeText
    let parsers ← ParserSlots.ofMembers .setAside m
    return ⟨name.getD "", topic.getD "", parsers⟩
  | v => .error (.wrongType v (.record "WhiteboardMeasure"))

def toJson (w : WhiteboardMeasure) : Json :=
  .object (w.parsers.members ++ [("mqttTopic", .text w.mqttTopic), ("name", .text w.name)])

end WhiteboardMeasure

namespace Whiteboard

def ofMembers (m : Entries Json) : Decoded Whiteboard := do
  let measures ← m.field? "measures" (Json.decodeList WhiteboardMeasure.decode)
  return ⟨measures.getD []⟩

def ofItems (vs : List Json) : Decoded Whiteboard := do
  let measures ← Json.item? vs 0 (Json.decodeList WhiteboardMeasure.decode)
  return ⟨measures.getD []⟩

def decode : Json → Decoded Whiteboard :=
  Json.decodeRecord "Whiteboard" 1 .direct ofMembers ofItems

def toJson (w : Whiteboard) : Json :=
  .object [("measures", .list (w.measures.map WhiteboardMeasure.toJson))]

end Whiteboard

namespace SensorRecord

/-- The key of a sensor's whiteboard. -/
def whiteboardKey : String := "movesense_whiteboard"

def ofMembers (m : Entries Json) : Decoded SensorRecord := do
  let id ← m.field? idKey (Json.decodeOption Json.decodeText)
  let address ← m.field? "address" Json.decodeText
  let whiteboard ← m.field? whiteboardKey (Json.decodeOption Whiteboard.decode)
  let name ← m.field? "name" Json.decodeText
  let services ← m.field? "services" (Json.decodeList Service.decode)
  let shortName ← m.field? "shortName" Json.decodeText
  return ⟨id.join, name.getD "", shortName.getD "", address.getD "", services.getD [],
    whiteboard.join⟩

def ofItems (vs : List Json) : Decoded SensorRecord := do
  let id ← Json.item? vs 0 (Json.decodeOption Json.decodeText)
  let name ← Json.item? vs 1 Json.decodeText
  let shortName ← Json.item? vs 2 Json.decodeText
  let address ← Json.item? vs 3 Json.decodeText
  let services ← Json.item? vs 4 (Json.decodeList Service.decode)
  let whiteboard ← Json.item? vs 5 (Json.decodeOption Whiteboard.decode)
  return ⟨id.join, name.getD "", shortName.getD "", address.getD "", services.getD [],
    whiteboard.join⟩

def decode : Json → Decoded SensorRecord :=
  Json.decodeRecord "SensorRecord" 6 .direct ofMembers ofItems

def toJson (s : SensorRecord) : Json :=
  .object (Json.member? idKey .text s.id ++ [("address", .text s.address)] ++
    Json.member? whiteboardKey Whiteboard.toJson s.whiteboard ++
    [("name", .text s.name), ("services", .list (s.services.map Service.toJson)),
      ("shortName", .text s.shortName)])

end SensorRecord

/-! ## Definitions kept in an object of their own -/

/-- The key that marks a document whose definition is partly kept in an object of its own. -/
def dynamicMarker : String := "dynamicSchema"

/-- The key of that object. -/
def dynamicContent : String := "dynamicJson"

/-- The document has the marker. -/
def Document.isDynamic (d : Document) : Bool := d.contains dynamicMarker

/-- The members that stand in the object of their own, if it is one. -/
def Document.dynamicMembers (d : Document) : Entries Json :=
  match d.get? dynamicContent with
  | some (.object m) => m
  | _ => []

/-- The document without marker and object, and with the object's members in their place. -/
def Document.flattenDynamic (d : Document) : Document :=
  Entries.union ((d.erase dynamicMarker).erase dynamicContent) d.dynamicMembers

end Telemetry
