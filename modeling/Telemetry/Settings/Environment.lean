import Telemetry.Number.Text
import Telemetry.Settings.Basic

/-!
# Settings from the environment

* `Environment`: the values of variables.
* `Settings.overlay`: settings with the values of the environment. A blank value counts as none, and
  so does a number that cannot be read.
-/

namespace Telemetry

/-- The values of variables by name. -/
abbrev Environment := String → Option String

/-- The value of a variable, unless it is blank. -/
def Environment.value? (env : Environment) (v : Variable) : Option String :=
  (env v.name).filter fun s => !Text.isBlankText s

/-- The address of the broker, if the environment names its host. -/
def Environment.brokerUrl? (env : Environment) : Option String :=
  (env.value? .brokerHost).map fun host =>
    match env.value? .brokerPort with
    | some port => "http://" ++ host ++ ":" ++ port
    | none => "http://" ++ host

/-- The number of groups at a time that the environment asks for. -/
def Environment.concurrency? (env : Environment) : Option Nat :=
  (env.value? .concurrency).bind readUnsigned?

/-- Settings with the values of the environment. -/
def Settings.overlay (s : Settings) (env : Environment) : Settings where
  storage := { s.storage with path := (env.value? .storagePath).getD s.storage.path }
  broker := { s.broker with
    baseUrl := env.brokerUrl?.or s.broker.baseUrl
    user := (env.value? .brokerUser).getD s.broker.user
    password := (env.value? .brokerPassword).getD s.broker.password }
  series := { s.series with
    url := (env.value? .seriesUrl).or s.series.url
    token := (env.value? .seriesToken).or s.series.token
    organization := (env.value? .seriesOrganization).getD s.series.organization }
  naming := { s.naming with topicRoot := (env.value? .topicRoot).getD s.naming.topicRoot }
  sync := { s.sync with concurrency := env.concurrency?.getD s.sync.concurrency }

end Telemetry
