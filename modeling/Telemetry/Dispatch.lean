import Telemetry.Schema.Parser
import Telemetry.Selection

/-!
# From a parser to a selection and its writes

* `Parser.dispatch`: what the rule for a parser selects and what its action writes.
* `gatewayFields`: telemetry of the gateway, which is written with structs and JSON payloads and
  never queried.
-/

namespace Telemetry

/-- The name of an array's element. -/
def elementName : String := "sample_item"

/-- The battery level of the gateway. -/
def gatewayBattery : String := "gatewayBattery"

/-- The signal strength that the gateway sees. -/
def rssi : String := "rssi"

/-- The fields that hold telemetry of the gateway. -/
def gatewayFields : List String := [gatewayBattery, rssi]

/-- The tags that every payload carries, in the order in which they are written. -/
def deviceTags : List String := ["deviceAddress", "deviceName", "gatewayName"]

/-- What is selected and written for a parser. -/
structure Dispatched where
  kind : ParserKind
  selection : Selection
  tags : List Assignment
  fields : List Assignment
  deriving DecidableEq

/-- A key of the payload. -/
def payloadKey (key : String) : String := "payload." ++ key

namespace Field

/-- A field of the payload, or the whole payload if it has no path. -/
def payloadExpr (useJq : Bool) (f : Field) : String :=
  match f.path? with
  | none => "payload"
  | some path =>
    if useJq then "first(jq('." ++ path ++ "', payload))" else payloadKey path

/-- A field of an array's element, or the whole element if it has no path. -/
def elementExpr (f : Field) : String :=
  match f.path? with
  | none => elementName
  | some path => elementName ++ "." ++ path

/-- A field is written from the projection of its name. -/
def assignment (f : Field) : Assignment := ⟨f.name, placeholder f.name, f.isInteger⟩

end Field

/-- The battery level as a field of a JSON payload. -/
def gatewayField : Field := ⟨gatewayBattery, some gatewayBattery, some "integer"⟩

/-- A struct has flat integer keys, those of the gateway last. -/
def dispatchStruct (fields : List Field) : Dispatched where
  kind := .struct
  selection := .wildcard
  tags := ⟨"appTagName", placeholder (payloadKey "APP_TAG_NAME"), false⟩ ::
    deviceTags.map fun tag => ⟨tag, placeholder (payloadKey tag), false⟩
  fields := (fields.map Field.name ++ gatewayFields).map fun name =>
    ⟨name, placeholder (payloadKey name), true⟩

/-- The projections of the tags. -/
def tagProjections : List Projection := deviceTags.map fun tag => ⟨payloadKey tag, tag⟩

/-- The three JSON kinds select their fields and then the tags, and write what they selected. -/
def dispatchJson (kind : ParserKind) (wrap : List Projection → Selection) (expr : Field → String)
    (fields : List Field) : Dispatched where
  kind := kind
  selection := wrap ((fields.map fun f => ⟨expr f, f.name⟩) ++ tagProjections)
  tags := deviceTags.map fun tag => ⟨tag, placeholder tag, false⟩
  fields := fields.map Field.assignment

/-- What is selected and written for a parser. -/
def Parser.dispatch : Parser → Dispatched
  | struct p => dispatchStruct p.fields
  | jsonPayload p =>
    dispatchJson .jsonPayload .projections (Field.payloadExpr p.useJq) (p.fields ++ [gatewayField])
  | jsonArray p =>
    dispatchJson .jsonArray (.forEach (payloadKey p.arrayPath) elementName) Field.elementExpr
      p.fields
  | single fields => dispatchJson .single .projections (Field.payloadExpr false) fields

end Telemetry
