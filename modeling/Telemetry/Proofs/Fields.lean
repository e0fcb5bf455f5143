import Telemetry.Route
import Telemetry.Series.Query

/-!
# What is written and what is asked for

* `ParserKind.gatewayFields`: the telemetry that is written and not declared.
* `Parser.keys_dispatch`: a parser writes its declared fields and then that telemetry.
* `mem_compileQueries`: which descriptors a dashboard asks for.
-/

namespace Telemetry

/-- The telemetry of the gateway that is written for a kind of parser. -/
def ParserKind.gatewayFields : ParserKind → List String
  | struct => ["gatewayBattery", "rssi"]
  | jsonPayload => ["gatewayBattery"]
  | jsonArray | single => []

theorem ParserKind.mem_gatewayFields {k : ParserKind} {key : String}
    (h : key ∈ k.gatewayFields) : key ∈ ["gatewayBattery", "rssi"] := by
  cases k <;> simp [gatewayFields] at h ⊢
  · exact h
  · exact .inl h

/-- A parser writes the declared fields in their order, and after them telemetry of the gateway. -/
theorem Parser.keys_dispatch (p : Parser) :
    p.dispatch.fields.map Assignment.key =
      p.fields.map Field.name ++ p.kind.gatewayFields := by
  cases p with
  | struct p => simp [dispatch, dispatchStruct, fields, kind, ParserKind.gatewayFields,
      Telemetry.gatewayFields, gatewayBattery, rssi, Function.comp_def]
  | jsonPayload p => simp [dispatch, dispatchJson, fields, kind, ParserKind.gatewayFields,
      Field.assignment, gatewayField, gatewayBattery, Function.comp_def]
  | jsonArray p => simp [dispatch, dispatchJson, fields, kind, ParserKind.gatewayFields,
      Field.assignment, Function.comp_def]
  | single fs => simp [dispatch, dispatchJson, fields, kind, ParserKind.gatewayFields,
      Field.assignment, Function.comp_def]

/-- A query shows a descriptor that belongs to the service and is no telemetry of the gateway. -/
theorem mem_compileQueries {ds : List Descriptor} {service : String} {q : QueryDescriptor} :
    q ∈ compileQueries ds service ↔
      ∃ d ∈ ds, d.belongsTo service = true ∧ d.field ∉ gatewayFields ∧ d.query = q := by
  simp [compileQueries, and_assoc, and_left_comm]

theorem Descriptor.belongsTo_iff {d : Descriptor} {service : String} :
    d.belongsTo service = true ↔ d.service = some service ∨ d.service = none := by
  unfold belongsTo
  cases d.service <;> simp

end Telemetry
