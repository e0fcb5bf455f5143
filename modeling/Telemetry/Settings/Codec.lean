import Telemetry.Settings.Basic

/-!
# Settings as JSON values

* `Settings.decode`: settings from a value; what it leaves out has its default.
* `Settings.toJson`: the value of settings.
-/

namespace Telemetry

namespace StorageSettings

/-- What is left out. -/
def standard : StorageSettings := {}

def ofMembers (m : Entries Json) : Decoded StorageSettings := do
  let path ← m.field? "path" Json.decodePath
  return ⟨path.getD standard.path⟩

def ofItems (vs : List Json) : Decoded StorageSettings := do
  let path ← Json.item? vs 0 Json.decodePath
  return ⟨path.getD standard.path⟩

def decode (standing : Json.Standing) : Json → Decoded StorageSettings :=
  Json.decodeRecord "StorageConfig" 1 standing ofMembers ofItems

def toJson (s : StorageSettings) : Json := .object [("path", .text s.path)]

end StorageSettings

namespace BrokerSettings

/-- What is left out. -/
def standard : BrokerSettings := {}

/-- Settings of which some are left out. -/
def ofOptions (baseUrl : Option String) (user password connector : Option String)
    (timeout : Option Nat) : BrokerSettings where
  baseUrl := baseUrl
  user := user.getD standard.user
  password := password.getD standard.password
  connector := connector.getD standard.connector
  timeout := timeout.getD standard.timeout

def ofMembers (m : Entries Json) : Decoded BrokerSettings := do
  let baseUrl ← m.field? "base_url" (Json.decodeOption Json.decodeText)
  let connector ← m.field? "connector" Json.decodeText
  let password ← m.field? "password" Json.decodeText
  let timeout ← m.field? "timeout_secs" (Json.decodeUnsigned "u64")
  let user ← m.field? "user" Json.decodeText
  return ofOptions baseUrl.join user password connector timeout

def ofItems (vs : List Json) : Decoded BrokerSettings := do
  let baseUrl ← Json.needItem "BrokerConfig" 5 vs 0 (Json.decodeOption Json.decodeText)
  let user ← Json.item? vs 1 Json.decodeText
  let password ← Json.item? vs 2 Json.decodeText
  let connector ← Json.item? vs 3 Json.decodeText
  let timeout ← Json.item? vs 4 (Json.decodeUnsigned "u64")
  return ofOptions baseUrl user password connector timeout

def decode (standing : Json.Standing) : Json → Decoded BrokerSettings :=
  Json.decodeRecord "BrokerConfig" 5 standing ofMembers ofItems

def toJson (b : BrokerSettings) : Json :=
  .object [("base_url", .ofOption b.baseUrl), ("connector", .text b.connector),
    ("password", .text b.password), ("timeout_secs", .nat b.timeout), ("user", .text b.user)]

end BrokerSettings

namespace SeriesSettings

/-- What is left out. -/
def standard : SeriesSettings := {}

/-- Settings of which some are left out. -/
def ofOptions (url token : Option String) (organization bucket : Option String)
    (window timeout : Option Nat) : SeriesSettings where
  url := url
  token := token
  organization := organization.getD standard.organization
  bucket := bucket.getD standard.bucket
  window := window.getD standard.window
  timeout := timeout.getD standard.timeout

def ofMembers (m : Entries Json) : Decoded SeriesSettings := do
  let bucket ← m.field? "bucket" Json.decodeText
  let organization ← m.field? "org" Json.decodeText
  let timeout ← m.field? "timeout_secs" (Json.decodeUnsigned "u64")
  let token ← m.field? "token" (Json.decodeOption Json.decodeText)
  let url ← m.field? "url" (Json.decodeOption Json.decodeText)
  let window ← m.field? "window_secs" (Json.decodeUnsigned "u64")
  return ofOptions url.join token.join organization bucket window timeout

def ofItems (vs : List Json) : Decoded SeriesSettings := do
  let url ← Json.needItem "InfluxConfig" 6 vs 0 (Json.decodeOption Json.decodeText)
  let token ← Json.needItem "InfluxConfig" 6 vs 1 (Json.decodeOption Json.decodeText)
  let organization ← Json.item? vs 2 Json.decodeText
  let bucket ← Json.item? vs 3 Json.decodeText
  let window ← Json.item? vs 4 (Json.decodeUnsigned "u64")
  let timeout ← Json.item? vs 5 (Json.decodeUnsigned "u64")
  return ofOptions url token organization bucket window timeout

def decode (standing : Json.Standing) : Json → Decoded SeriesSettings :=
  Json.decodeRecord "InfluxConfig" 6 standing ofMembers ofItems

def toJson (s : SeriesSettings) : Json :=
  .object [("bucket", .text s.bucket), ("org", .text s.organization),
    ("timeout_secs", .nat s.timeout), ("token", .ofOption s.token), ("url", .ofOption s.url),
    ("window_secs", .nat s.window)]

end SeriesSettings

namespace NamingSettings

/-- What is left out. -/
def standard : NamingSettings := {}

/-- Settings of which some are left out. -/
def ofOptions (topicRoot : Option String) (structured whiteboard : Option NamingScope) :
    NamingSettings where
  topicRoot := topicRoot.getD standard.topicRoot
  policy := ⟨structured.getD standard.policy.structured,
    whiteboard.getD standard.policy.whiteboard⟩

def ofMembers (standing : Json.Standing) (m : Entries Json) : Decoded NamingSettings := do
  let structured ← m.field? "structured_scope" (NamingScope.decode standing)
  let topicRoot ← m.field? "topic_prefix" Json.decodeText
  let whiteboard ← m.field? "whiteboard_scope" (NamingScope.decode standing)
  return ofOptions topicRoot structured whiteboard

def ofItems (standing : Json.Standing) (vs : List Json) : Decoded NamingSettings := do
  let topicRoot ← Json.item? vs 0 Json.decodeText
  let structured ← Json.item? vs 1 (NamingScope.decode standing)
  let whiteboard ← Json.item? vs 2 (NamingScope.decode standing)
  return ofOptions topicRoot structured whiteboard

def decode (standing : Json.Standing) : Json → Decoded NamingSettings :=
  Json.decodeRecord "NamingConfig" 3 standing (ofMembers standing) (ofItems standing)

def toJson (n : NamingSettings) : Json :=
  .object [("structured_scope", n.policy.structured.toJson), ("topic_prefix", .text n.topicRoot),
    ("whiteboard_scope", n.policy.whiteboard.toJson)]

end NamingSettings

namespace SyncSettings

/-- What is left out. -/
def standard : SyncSettings := {}

def ofMembers (m : Entries Json) : Decoded SyncSettings := do
  let concurrency ← m.field? "concurrency" (Json.decodeUnsigned "usize")
  return ⟨concurrency.getD standard.concurrency⟩

def ofItems (vs : List Json) : Decoded SyncSettings := do
  let concurrency ← Json.item? vs 0 (Json.decodeUnsigned "usize")
  return ⟨concurrency.getD standard.concurrency⟩

def decode (standing : Json.Standing) : Json → Decoded SyncSettings :=
  Json.decodeRecord "SyncConfig" 1 standing ofMembers ofItems

def toJson (s : SyncSettings) : Json := .object [("concurrency", .nat s.concurrency)]

end SyncSettings

namespace Settings

/-- Settings of which some sections are left out. -/
def ofOptions (storage : Option StorageSettings) (broker : Option BrokerSettings)
    (series : Option SeriesSettings) (naming : Option NamingSettings)
    (sync : Option SyncSettings) : Settings :=
  ⟨storage.getD .standard, broker.getD .standard, series.getD .standard, naming.getD .standard,
    sync.getD .standard⟩

def ofMembers (standing : Json.Standing) (m : Entries Json) : Decoded Settings := do
  let broker ← m.field? "broker" (BrokerSettings.decode standing)
  let series ← m.field? "influx" (SeriesSettings.decode standing)
  let naming ← m.field? "naming" (NamingSettings.decode standing)
  let storage ← m.field? "storage" (StorageSettings.decode standing)
  let sync ← m.field? "sync" (SyncSettings.decode standing)
  return ofOptions storage broker series naming sync

def ofItems (standing : Json.Standing) (vs : List Json) : Decoded Settings := do
  let storage ← Json.item? vs 0 (StorageSettings.decode standing)
  let broker ← Json.item? vs 1 (BrokerSettings.decode standing)
  let series ← Json.item? vs 2 (SeriesSettings.decode standing)
  let naming ← Json.item? vs 3 (NamingSettings.decode standing)
  let sync ← Json.item? vs 4 (SyncSettings.decode standing)
  return ofOptions storage broker series naming sync

def decode (standing : Json.Standing) : Json → Decoded Settings :=
  Json.decodeRecord "AppConfig" 5 standing (ofMembers standing) (ofItems standing)

def toJson (s : Settings) : Json :=
  .object [("broker", s.broker.toJson), ("influx", s.series.toJson), ("naming", s.naming.toJson),
    ("storage", s.storage.toJson), ("sync", s.sync.toJson)]

end Settings

end Telemetry
