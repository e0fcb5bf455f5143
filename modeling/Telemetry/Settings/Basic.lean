import Telemetry.Error
import Telemetry.Naming
import Telemetry.Text.Blank

/-!
# Settings

* `Settings`: where documents are stored, how the broker and the series store are reached, how
  things are named, and how many routes are written at a time. Everything has a default.
* `Settings.validate`: the ranges of the values.
* `BrokerSettings.target`, `SeriesSettings.target`: where to reach the other systems, which has no
  default.
-/

namespace Telemetry

/-- Where documents are stored. -/
structure StorageSettings where
  path : String := "data/qiot.redb"
  deriving DecidableEq

/-- How the broker is reached. -/
structure BrokerSettings where
  baseUrl : Option String := none
  user : String := ""
  password : String := ""
  /-- The connector that actions write through. -/
  connector : String := "Influx1"
  /-- How many seconds to wait for an answer. -/
  timeout : Nat := 30
  deriving DecidableEq

/-- How the series store is reached. -/
structure SeriesSettings where
  url : Option String := none
  token : Option String := none
  organization : String := ""
  bucket : String := "iotproject_bucket"
  /-- How many seconds a dashboard looks back. -/
  window : Nat := 5
  /-- How many seconds to wait for an answer. -/
  timeout : Nat := 50
  deriving DecidableEq

/-- How topics and resources are named. -/
structure NamingSettings where
  topicRoot : String := "qiot"
  policy : NamingPolicy := .standard
  deriving DecidableEq

/-- How routes are written. -/
structure SyncSettings where
  /-- How many groups of routes are written at a time. -/
  concurrency : Nat := 4
  deriving DecidableEq

/-- All settings. -/
structure Settings where
  storage : StorageSettings := {}
  broker : BrokerSettings := {}
  series : SeriesSettings := {}
  naming : NamingSettings := {}
  sync : SyncSettings := {}
  deriving DecidableEq

/-- The settings of a program that has not been told anything. -/
def Settings.standard : Settings := {}

/-- The variables of the environment that override settings. -/
inductive Variable where
  | brokerHost
  | brokerPort
  | brokerUser
  | brokerPassword
  | seriesUrl
  | seriesToken
  | seriesOrganization
  | storagePath
  | topicRoot
  | concurrency
  deriving DecidableEq

/-- All variables. -/
def Variable.all : List Variable :=
  [brokerHost, brokerPort, brokerUser, brokerPassword, seriesUrl, seriesToken, seriesOrganization,
    storagePath, topicRoot, concurrency]

/-- The name of a variable. -/
def Variable.name : Variable → String
  | brokerHost => "EMQX_HOST"
  | brokerPort => "EMQX_API_PORT"
  | brokerUser => "EMQX_USER_TOKEN"
  | brokerPassword => "EMQX_TOKEN"
  | seriesUrl => "INFLUX_URI"
  | seriesToken => "INFLUX_TOKEN"
  | seriesOrganization => "INFLUX_ORG"
  | storagePath => "QIOT_STORAGE_PATH"
  | topicRoot => "QIOT_TOPIC_PREFIX"
  | concurrency => "QIOT_SYNC_CONCURRENCY"

/-- Where the broker is reached. -/
def BrokerSettings.target (b : BrokerSettings) : Except Error String :=
  match b.baseUrl with
  | some url => .ok url
  | none => .error (.configuration ("broker.base_url is not set (or set " ++
      Variable.brokerHost.name ++ " and " ++ Variable.brokerPort.name ++ ")"))

/-- Where the series store is reached, and the token to show there. -/
def SeriesSettings.target (s : SeriesSettings) : Except Error (String × String) :=
  match s.url, s.token with
  | some url, some token => .ok (url, token)
  | _, _ => .error (.configuration
      (Variable.seriesUrl.name ++ " and " ++ Variable.seriesToken.name ++ " must be set"))

/-- The ranges of the values; the first one that is left is reported. -/
def Settings.validate (s : Settings) : Except Error Unit :=
  if Text.isBlankText s.naming.topicRoot then
    .error (.configuration "naming.topic_prefix must not be empty")
  else if s.sync.concurrency = 0 then .error (.configuration "sync.concurrency must be > 0")
  else if s.series.window = 0 then .error (.configuration "influx.window_secs must be > 0")
  else if s.broker.timeout = 0 ∨ s.series.timeout = 0 then
    .error (.configuration "timeouts must be > 0")
  else .ok ()

end Telemetry
