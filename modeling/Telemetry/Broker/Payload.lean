import Telemetry.Route

/-!
# Bodies of the broker's requests

* `RemoteAction`: an action as the broker lists it.
* `ActionPayload.create`, `ActionPayload.update`: the body that creates the action of a route, and
  the one that replaces it. A replacement has no name and no type, and it keeps the times of the
  listed action.
* `RulePayload.ofRule`: the body that creates or replaces the rule of a route.
-/

namespace Telemetry

/-- The type of every action. -/
def actionType : String := "influxdb"

/-- The id under which the broker keeps an action, and by which rules refer to it. -/
def actionId (name : String) : String := actionType ++ ":" ++ name

/-- An action as the broker lists it. -/
structure RemoteAction where
  name : String
  type : Option String
  createdAt : Option Json
  lastModifiedAt : Option Json

/-- How an action writes. -/
structure ActionParameters where
  precision : String
  writeSyntax : String
  deriving DecidableEq

/-- How the broker looks after an action's connection. -/
structure ResourceOptions where
  healthCheckInterval : String
  deriving DecidableEq

/-- The body that creates or replaces an action. -/
structure ActionPayload where
  connector : String
  description : String
  enable : Bool
  name : Option String
  parameters : ActionParameters
  resourceOptions : ResourceOptions
  type : Option String
  createdAt : Option Json
  lastModifiedAt : Option Json

/-- The body that creates or replaces a rule. -/
structure RulePayload where
  sql : String
  actions : List String
  description : String
  enable : Bool
  metadata : Entries Json
  id : String
  name : String

namespace RemoteAction

def ofMembers (m : Entries Json) : Decoded RemoteAction := do
  let createdAt ← m.field? "created_at" Json.decodePresent
  let lastModifiedAt ← m.field? "last_modified_at" Json.decodePresent
  let name ← m.field? "name" Json.decodeText
  let type ← m.field? "type" (Json.decodeOption Json.decodeText)
  return ⟨← Entries.need "name" name, type.join, createdAt.join, lastModifiedAt.join⟩

def ofItems (vs : List Json) : Decoded RemoteAction := do
  let name ← Json.needItem "RemoteAction" 4 vs 0 Json.decodeText
  let type ← Json.item? vs 1 (Json.decodeOption Json.decodeText)
  let createdAt ← Json.item? vs 2 Json.decodePresent
  let lastModifiedAt ← Json.item? vs 3 Json.decodePresent
  return ⟨name, type.join, createdAt.join, lastModifiedAt.join⟩

def decode : Json → Decoded RemoteAction :=
  Json.decodeRecord "RemoteAction" 4 .direct ofMembers ofItems

def toJson (a : RemoteAction) : Json :=
  .object ([("name", .text a.name)] ++ Json.member? "type" .text a.type ++
    Json.member? "created_at" id a.createdAt ++
    Json.member? "last_modified_at" id a.lastModifiedAt)

end RemoteAction

namespace ActionParameters

def ofMembers (m : Entries Json) : Decoded ActionParameters := do
  let precision ← m.field? "precision" Json.decodeText
  let writeSyntax ← m.field? "write_syntax" Json.decodeText
  return ⟨← Entries.need "precision" precision, ← Entries.need "write_syntax" writeSyntax⟩

def ofItems (vs : List Json) : Decoded ActionParameters := do
  let precision ← Json.needItem "ActionParameters" 2 vs 0 Json.decodeText
  let writeSyntax ← Json.needItem "ActionParameters" 2 vs 1 Json.decodeText
  return ⟨precision, writeSyntax⟩

def decode : Json → Decoded ActionParameters :=
  Json.decodeRecord "ActionParameters" 2 .direct ofMembers ofItems

def toJson (p : ActionParameters) : Json :=
  .object [("precision", .text p.precision), ("write_syntax", .text p.writeSyntax)]

end ActionParameters

namespace ResourceOptions

def ofMembers (m : Entries Json) : Decoded ResourceOptions := do
  let interval ← m.field? "health_check_interval" Json.decodeText
  return ⟨← Entries.need "health_check_interval" interval⟩

def ofItems (vs : List Json) : Decoded ResourceOptions := do
  return ⟨← Json.needItem "ResourceOpts" 1 vs 0 Json.decodeText⟩

def decode : Json → Decoded ResourceOptions :=
  Json.decodeRecord "ResourceOpts" 1 .direct ofMembers ofItems

def toJson (o : ResourceOptions) : Json :=
  .object [("health_check_interval", .text o.healthCheckInterval)]

end ResourceOptions

namespace ActionPayload

/-- The precision of the times that are written. -/
def writePrecision : String := "ms"

/-- How often the connection is checked. -/
def healthCheckInterval : String := "30s"

/-- The body that creates the action of a route. -/
def create (a : ActionSpec) (connector : String) : ActionPayload where
  connector := connector
  description := a.description
  enable := true
  name := some a.name
  parameters := ⟨writePrecision, a.writeSyntax⟩
  resourceOptions := ⟨healthCheckInterval⟩
  type := some actionType
  createdAt := none
  lastModifiedAt := none

/-- The body that replaces an action, which is known if it was listed. -/
def update (a : ActionSpec) (connector : String) (listed : Option RemoteAction) :
    ActionPayload :=
  { create a connector with
    name := none
    type := none
    createdAt := listed.bind (·.createdAt)
    lastModifiedAt := listed.bind (·.lastModifiedAt) }

def ofMembers (m : Entries Json) : Decoded ActionPayload := do
  let connector ← m.field? "connector" Json.decodeText
  let createdAt ← m.field? "created_at" Json.decodePresent
  let description ← m.field? "description" Json.decodeText
  let enable ← m.field? "enable" Json.decodeBool
  let lastModifiedAt ← m.field? "last_modified_at" Json.decodePresent
  let name ← m.field? "name" (Json.decodeOption Json.decodeText)
  let parameters ← m.field? "parameters" ActionParameters.decode
  let resourceOptions ← m.field? "resource_opts" ResourceOptions.decode
  let type ← m.field? "type" (Json.decodeOption Json.decodeText)
  return {
    connector := ← Entries.need "connector" connector
    description := ← Entries.need "description" description
    enable := ← Entries.need "enable" enable
    name := name.join
    parameters := ← Entries.need "parameters" parameters
    resourceOptions := ← Entries.need "resource_opts" resourceOptions
    type := type.join
    createdAt := createdAt.join
    lastModifiedAt := lastModifiedAt.join }

def ofItems (vs : List Json) : Decoded ActionPayload := do
  let needed {α : Type} (i : Nat) (decode : Json → Decoded α) : Decoded α :=
    Json.needItem "ActionPayload" 9 vs i decode
  let connector ← needed 0 Json.decodeText
  let description ← needed 1 Json.decodeText
  let enable ← needed 2 Json.decodeBool
  let name ← Json.item? vs 3 (Json.decodeOption Json.decodeText)
  let parameters ← needed 4 ActionParameters.decode
  let resourceOptions ← needed 5 ResourceOptions.decode
  let type ← Json.item? vs 6 (Json.decodeOption Json.decodeText)
  let createdAt ← Json.item? vs 7 Json.decodePresent
  let lastModifiedAt ← Json.item? vs 8 Json.decodePresent
  return ⟨connector, description, enable, name.join, parameters, resourceOptions, type.join,
    createdAt.join, lastModifiedAt.join⟩

def decode : Json → Decoded ActionPayload :=
  Json.decodeRecord "ActionPayload" 9 .direct ofMembers ofItems

def toJson (p : ActionPayload) : Json :=
  .object ([("connector", .text p.connector), ("description", .text p.description),
      ("enable", .bool p.enable)] ++ Json.member? "name" .text p.name ++
    [("parameters", p.parameters.toJson), ("resource_opts", p.resourceOptions.toJson)] ++
    Json.member? "type" .text p.type ++ Json.member? "created_at" id p.createdAt ++
    Json.member? "last_modified_at" id p.lastModifiedAt)

end ActionPayload

namespace RulePayload

/-- The body that creates or replaces the rule of a route. -/
def ofRule (r : RuleSpec) : RulePayload where
  sql := r.sql
  actions := [actionId r.actionName]
  description := r.description
  enable := true
  metadata := []
  id := r.id
  name := r.name

def ofMembers (m : Entries Json) : Decoded RulePayload := do
  let actions ← m.field? "actions" (Json.decodeList Json.decodeText)
  let description ← m.field? "description" Json.decodeText
  let enable ← m.field? "enable" Json.decodeBool
  let id ← m.field? "id" Json.decodeText
  let metadata ← m.field? "metadata" Json.decodeMap
  let name ← m.field? "name" Json.decodeText
  let sql ← m.field? "sql" Json.decodeText
  return {
    sql := ← Entries.need "sql" sql
    actions := ← Entries.need "actions" actions
    description := ← Entries.need "description" description
    enable := ← Entries.need "enable" enable
    metadata := ← Entries.need "metadata" metadata
    id := ← Entries.need "id" id
    name := ← Entries.need "name" name }

def ofItems (vs : List Json) : Decoded RulePayload := do
  let needed {α : Type} (i : Nat) (decode : Json → Decoded α) : Decoded α :=
    Json.needItem "RulePayload" 7 vs i decode
  let sql ← needed 0 Json.decodeText
  let actions ← needed 1 (Json.decodeList Json.decodeText)
  let description ← needed 2 Json.decodeText
  let enable ← needed 3 Json.decodeBool
  let metadata ← needed 4 Json.decodeMap
  let id ← needed 5 Json.decodeText
  let name ← needed 6 Json.decodeText
  return ⟨sql, actions, description, enable, metadata, id, name⟩

def decode : Json → Decoded RulePayload :=
  Json.decodeRecord "RulePayload" 7 .direct ofMembers ofItems

def toJson (p : RulePayload) : Json :=
  .object [("sql", .text p.sql), ("actions", .texts p.actions),
    ("description", .text p.description), ("enable", .bool p.enable),
    ("metadata", .object p.metadata), ("id", .text p.id), ("name", .text p.name)]

end RulePayload

end Telemetry
