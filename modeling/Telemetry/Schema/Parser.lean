import Telemetry.Naming
import Telemetry.Schema.Field
import Telemetry.Text.Blank

/-!
# Payload parsers

A document says under four optional keys how a payload is taken apart.

* `ParserSlots`: what stands under the four keys.
* `ParserSlots.chosen`: the parser in effect, which is the first that is there of struct, JSON
  payload, JSON array and single measurement; `ParserSlots.ignored` are the kinds of the others.
* `Parser.defect`: why nothing can be selected by a parser. A struct and a JSON payload also hold
  telemetry of the gateway, so that they always have something to write.
-/

namespace Telemetry

/-- A binary struct, which the gateway takes apart into the keys of a flat payload. -/
structure StructParser where
  fields : List Field
  deriving DecidableEq

/-- A JSON object, whose fields are picked by path. -/
structure JsonPayloadParser where
  fields : List Field
  useJq : Bool
  deriving DecidableEq

/-- A JSON object that holds an array of samples. -/
structure JsonArrayParser where
  arrayPath : String
  fields : List Field
  deriving DecidableEq

/-- The parsers that a document declares. -/
structure ParserSlots where
  struct : Option StructParser := none
  jsonPayload : Option JsonPayloadParser := none
  jsonArray : Option JsonArrayParser := none
  single : Option (List Field) := none
  deriving DecidableEq

/-- The four kinds of parsers. -/
inductive ParserKind where
  | struct
  | jsonPayload
  | jsonArray
  | single
  deriving DecidableEq

/-- A parser. -/
inductive Parser where
  | struct (p : StructParser)
  | jsonPayload (p : JsonPayloadParser)
  | jsonArray (p : JsonArrayParser)
  | single (fields : List Field)
  deriving DecidableEq

namespace ParserKind

/-- The key of a document under which a parser of this kind stands. -/
def key : ParserKind → String
  | struct => "structParser"
  | jsonPayload => "jsonPayloadParser"
  | jsonArray => "jsonArrayParser"
  | single => "SingleMeasurementParser"

/-- The short name of a kind. -/
def name : ParserKind → String
  | struct => "struct"
  | jsonPayload => "json_payload"
  | jsonArray => "json_array"
  | single => "single"

def decode : Json → Decoded ParserKind :=
  Json.decodeName .direct ([struct, jsonPayload, jsonArray, single].map fun k => (k.name, k))

def toJson (k : ParserKind) : Json := .text k.name

end ParserKind

namespace Parser

def kind : Parser → ParserKind
  | struct _ => .struct
  | jsonPayload _ => .jsonPayload
  | jsonArray _ => .jsonArray
  | single _ => .single

/-- The fields that the document declares. -/
def fields : Parser → List Field
  | struct p => p.fields
  | jsonPayload p => p.fields
  | jsonArray p => p.fields
  | single fields => fields

/-- Why nothing can be selected by a parser. -/
inductive Defect where
  | emptyArrayPath
  | noFields
  deriving DecidableEq

/-- The wording of a defect. -/
def Defect.message : Defect → String
  | emptyArrayPath => "empty array path"
  | noFields => "no fields"

/-- What is wrong with a parser, if anything is. -/
def defect : Parser → Option Defect
  | struct _ => none
  | jsonPayload _ => none
  | jsonArray p =>
    if Text.isBlankText p.arrayPath then some .emptyArrayPath
    else if p.fields = [] then some .noFields else none
  | single fields => if fields = [] then some .noFields else none

end Parser

namespace StructParser

def ofMembers (standing : Json.Standing) (m : Entries Json) : Decoded StructParser := do
  let fields ← m.field? "fields" (Json.decodeList (Field.decode standing))
  return ⟨fields.getD []⟩

def ofItems (standing : Json.Standing) (vs : List Json) : Decoded StructParser := do
  let fields ← Json.item? vs 0 (Json.decodeList (Field.decode standing))
  return ⟨fields.getD []⟩

def decode (standing : Json.Standing) : Json → Decoded StructParser :=
  Json.decodeRecord "StructParser" 1 standing (ofMembers standing) (ofItems standing)

def toJson (p : StructParser) : Json := .object [("fields", .list (p.fields.map Field.toJson))]

end StructParser

namespace JsonPayloadParser

def ofMembers (standing : Json.Standing) (m : Entries Json) : Decoded JsonPayloadParser := do
  let fields ← m.field? "fields" (Json.decodeList (Field.decode standing))
  let useJq ← m.field? "use_jq" Json.decodeBool
  return ⟨fields.getD [], useJq.getD false⟩

def ofItems (standing : Json.Standing) (vs : List Json) : Decoded JsonPayloadParser := do
  let fields ← Json.item? vs 0 (Json.decodeList (Field.decode standing))
  let useJq ← Json.item? vs 1 Json.decodeBool
  return ⟨fields.getD [], useJq.getD false⟩

def decode (standing : Json.Standing) : Json → Decoded JsonPayloadParser :=
  Json.decodeRecord "JsonPayloadParser" 2 standing (ofMembers standing) (ofItems standing)

def toJson (p : JsonPayloadParser) : Json :=
  .object [("fields", .list (p.fields.map Field.toJson)), ("use_jq", .bool p.useJq)]

end JsonPayloadParser

namespace JsonArrayParser

def ofMembers (standing : Json.Standing) (m : Entries Json) : Decoded JsonArrayParser := do
  let arrayPath ← m.field? "arrayPath" Json.decodeText
  let fields ← m.field? "fields" (Json.decodeList (Field.decode standing))
  return ⟨arrayPath.getD "", fields.getD []⟩

def ofItems (standing : Json.Standing) (vs : List Json) : Decoded JsonArrayParser := do
  let arrayPath ← Json.item? vs 0 Json.decodeText
  let fields ← Json.item? vs 1 (Json.decodeList (Field.decode standing))
  return ⟨arrayPath.getD "", fields.getD []⟩

def decode (standing : Json.Standing) : Json → Decoded JsonArrayParser :=
  Json.decodeRecord "JsonArrayParser" 2 standing (ofMembers standing) (ofItems standing)

def toJson (p : JsonArrayParser) : Json :=
  .object [("arrayPath", .text p.arrayPath), ("fields", .list (p.fields.map Field.toJson))]

end JsonArrayParser

namespace ParserSlots

/-- The declared parsers, from the one that counts first. -/
def present (s : ParserSlots) : List Parser :=
  (s.struct.map .struct).toList ++ (s.jsonPayload.map .jsonPayload).toList ++
    (s.jsonArray.map .jsonArray).toList ++ (s.single.map .single).toList

/-- The parser in effect. -/
def chosen (s : ParserSlots) : Option Parser := s.present.head?

/-- The kinds of the parsers that are declared and not in effect. -/
def ignored (s : ParserSlots) : List ParserKind := s.present.tail.map Parser.kind

/-- The parsers under the keys of an object. -/
def ofMembers (standing : Json.Standing) (m : Entries Json) : Decoded ParserSlots := do
  let single ← m.field? ParserKind.single.key
    (Json.decodeOption (Json.decodeList (Field.decode standing)))
  let jsonArray ← m.field? ParserKind.jsonArray.key
    (Json.decodeOption (JsonArrayParser.decode standing))
  let jsonPayload ← m.field? ParserKind.jsonPayload.key
    (Json.decodeOption (JsonPayloadParser.decode standing))
  let struct ← m.field? ParserKind.struct.key
    (Json.decodeOption (StructParser.decode standing))
  return ⟨struct.join, jsonPayload.join, jsonArray.join, single.join⟩

def ofItems (vs : List Json) : Decoded ParserSlots := do
  let struct ← Json.item? vs 0 (Json.decodeOption (StructParser.decode .direct))
  let jsonPayload ← Json.item? vs 1 (Json.decodeOption (JsonPayloadParser.decode .direct))
  let jsonArray ← Json.item? vs 2 (Json.decodeOption (JsonArrayParser.decode .direct))
  let single ← Json.item? vs 3 (Json.decodeOption (Json.decodeList (Field.decode .direct)))
  return ⟨struct.join, jsonPayload.join, jsonArray.join, single.join⟩

/-- Parsers that stand in an object of their own. -/
def decode : Json → Decoded ParserSlots :=
  Json.decodeRecord "ParserSlots" 4 .direct (ofMembers .direct) ofItems

/-- The members for the declared parsers. -/
def members (s : ParserSlots) : List (String × Json) :=
  Json.member? ParserKind.single.key (fun fields => .list (fields.map Field.toJson)) s.single ++
    Json.member? ParserKind.jsonArray.key JsonArrayParser.toJson s.jsonArray ++
    Json.member? ParserKind.jsonPayload.key JsonPayloadParser.toJson s.jsonPayload ++
    Json.member? ParserKind.struct.key StructParser.toJson s.struct

def toJson (s : ParserSlots) : Json := .object s.members

end ParserSlots

end Telemetry
