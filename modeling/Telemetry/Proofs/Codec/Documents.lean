import Telemetry.Proofs.Codec.Requests
import Telemetry.Proofs.Codec.Schema
import Telemetry.Proofs.Codec.Settings
import Telemetry.Proofs.ObjectId

/-!
# One reading and writing back is a normal form

* `DocumentType`: the types of documents, of requests' bodies, of ids and of settings, each with its
  decoder and its encoder.
* `DocumentType.pass`: a value is read and written back.
* `DocumentType.readBack`: what was read is read again from what is written of it.
* `DocumentType.passes_normal`: after the first pass no further one changes anything.
-/

namespace Telemetry

open Json (Legible ReadBack)

theorem ObjectId.faithful : Json.Faithful decode toJson := by
  refine fun x => ⟨nofun, ?_⟩
  rw [decode, toJson, Json.decodeText_text, Decoded.ok_bind, parse_toHex]
  rfl

/-- The types that are read from JSON values and written as such. -/
inductive DocumentType where
  | field
  | structParser
  | jsonPayloadParser
  | jsonArrayParser
  | parserSlots
  | characteristic
  | service
  | whiteboardMeasure
  | whiteboard
  | sensorRecord
  | deviceSlot
  | experimentRecord
  | completeDevice
  | completeExperiment
  | remoteAction
  | actionPayload
  | rulePayload
  | objectId
  | settings
  deriving DecidableEq

namespace DocumentType

/-- The values of a type. -/
def Value : DocumentType → Type
  | field => Field
  | structParser => StructParser
  | jsonPayloadParser => JsonPayloadParser
  | jsonArrayParser => JsonArrayParser
  | parserSlots => ParserSlots
  | characteristic => Characteristic
  | service => Service
  | whiteboardMeasure => WhiteboardMeasure
  | whiteboard => Whiteboard
  | sensorRecord => SensorRecord
  | deviceSlot => DeviceSlot
  | experimentRecord => ExperimentRecord
  | completeDevice => CompleteDevice
  | completeExperiment => CompleteExperiment
  | remoteAction => RemoteAction
  | actionPayload => ActionPayload
  | rulePayload => RulePayload
  | objectId => ObjectId
  | settings => Settings

/-- A value of a type is read. -/
def decode : (t : DocumentType) → Json → Decoded t.Value
  | field => Field.decode .direct
  | structParser => StructParser.decode .direct
  | jsonPayloadParser => JsonPayloadParser.decode .direct
  | jsonArrayParser => JsonArrayParser.decode .direct
  | parserSlots => ParserSlots.decode
  | characteristic => Characteristic.decode
  | service => Service.decode
  | whiteboardMeasure => WhiteboardMeasure.decode
  | whiteboard => Whiteboard.decode
  | sensorRecord => SensorRecord.decode
  | deviceSlot => DeviceSlot.decode
  | experimentRecord => ExperimentRecord.decode
  | completeDevice => CompleteDevice.decode
  | completeExperiment => CompleteExperiment.decode
  | remoteAction => RemoteAction.decode
  | actionPayload => ActionPayload.decode
  | rulePayload => RulePayload.decode
  | objectId => ObjectId.decode
  | settings => Settings.decode .direct

/-- A value of a type is written. -/
def toJson : (t : DocumentType) → t.Value → Json
  | field => Field.toJson
  | structParser => StructParser.toJson
  | jsonPayloadParser => JsonPayloadParser.toJson
  | jsonArrayParser => JsonArrayParser.toJson
  | parserSlots => ParserSlots.toJson
  | characteristic => Characteristic.toJson
  | service => Service.toJson
  | whiteboardMeasure => WhiteboardMeasure.toJson
  | whiteboard => Whiteboard.toJson
  | sensorRecord => SensorRecord.toJson
  | deviceSlot => DeviceSlot.toJson
  | experimentRecord => ExperimentRecord.toJson
  | completeDevice => CompleteDevice.toJson
  | completeExperiment => CompleteExperiment.toJson
  | remoteAction => RemoteAction.toJson
  | actionPayload => ActionPayload.toJson
  | rulePayload => RulePayload.toJson
  | objectId => ObjectId.toJson
  | settings => Settings.toJson

/-- A value is read and written back. -/
def pass (t : DocumentType) (v : Json) : Decoded Json := t.toJson <$> t.decode v

/-- A value is read and written back some times. -/
def passes (t : DocumentType) : Nat → Json → Decoded Json
  | 0, v => .ok v
  | n + 1, v => t.pass v >>= t.passes n

/-- What a type's decoder reads somewhere is read back. -/
theorem readBack (t : DocumentType) {x : t.Value} (h : Legible t.decode x) :
    ReadBack t.decode t.toJson x := by
  cases t with
  | field => exact Field.faithful .direct x
  | structParser => exact StructParser.faithful .direct x
  | jsonPayloadParser => exact JsonPayloadParser.faithful .direct x
  | jsonArrayParser => exact JsonArrayParser.faithful .direct x
  | parserSlots => exact ParserSlots.faithful x
  | characteristic => exact Characteristic.faithful x
  | service => exact Service.faithful x
  | whiteboardMeasure => exact WhiteboardMeasure.faithful x
  | whiteboard => exact Whiteboard.faithful x
  | sensorRecord => exact SensorRecord.faithful x
  | deviceSlot => exact DeviceSlot.readBack (DeviceSlot.schema_ne_null h)
  | experimentRecord => exact ExperimentRecord.readBack (ExperimentRecord.schema_ne_null h)
  | completeDevice => exact CompleteDevice.faithful x
  | completeExperiment => exact CompleteExperiment.faithful x
  | remoteAction => exact (RemoteAction.times_ne_null h).elim RemoteAction.readBack
  | actionPayload => exact (ActionPayload.times_ne_null h).elim ActionPayload.readBack
  | rulePayload => exact RulePayload.faithful x
  | objectId => exact ObjectId.faithful x
  | settings => exact Settings.readBack .direct (Settings.bounded h)

/-- What is written of a value that was read is read as that value. -/
theorem pass_toJson {t : DocumentType} {x : t.Value} (h : Legible t.decode x) :
    t.pass (t.toJson x) = .ok (t.toJson x) := by
  rw [pass, (t.readBack h).2, Decoded.ok_map]

/-- If a value is read, what is written of it is read as the same value, and any number of passes
from the first one on writes the same. -/
theorem passes_normal (t : DocumentType) (v : Json) (x : t.Value) (h : t.decode v = .ok x) :
    t.decode (t.toJson x) = .ok x ∧ ∀ n, t.passes (n + 1) v = .ok (t.toJson x) := by
  have hlegible : Legible t.decode x := ⟨v, h⟩
  have hfixed : ∀ n, t.passes n (t.toJson x) = .ok (t.toJson x) := by
    intro n
    induction n with
    | zero => rfl
    | succ n ih => rw [passes, pass_toJson hlegible, Decoded.ok_bind, ih]
  refine ⟨(t.readBack hlegible).2, fun n => ?_⟩
  rw [passes, pass, h, Decoded.ok_map, Decoded.ok_bind, hfixed]

/-- A sensor as the list of its fields, with a service and a struct parser in the same form and with
nulls for what is absent. -/
def listedSensor : Json :=
  .list [.null, .text "Tag", .text "tag", .text "",
    .list [.list [.text "env", .list [.object [("name", .text "Air"), ("structParser",
      .list [.list [.list [.text "humidity", .null, .text "integer"]]])]]]]]

/-- What the listed sensor says. -/
def listedSensorRecord : SensorRecord where
  id := none
  name := "Tag"
  shortName := "tag"
  address := ""
  services := [⟨"env",
    [⟨"Air", "", { struct := some ⟨[⟨"humidity", none, some "integer"⟩]⟩ }, none⟩]⟩]
  whiteboard := none

theorem passes_listedSensor :
    sensorRecord.decode listedSensor = .ok listedSensorRecord ∧
      sensorRecord.toJson listedSensorRecord ≠ listedSensor ∧
      sensorRecord.decode (sensorRecord.toJson listedSensorRecord) = .ok listedSensorRecord ∧
      ∀ n, sensorRecord.passes (n + 1) listedSensor =
        .ok (sensorRecord.toJson listedSensorRecord) := by
  have h : sensorRecord.decode listedSensor = .ok listedSensorRecord := rfl
  exact ⟨h, nofun, passes_normal sensorRecord listedSensor listedSensorRecord h⟩

end DocumentType

end Telemetry
