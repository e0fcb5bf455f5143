/-!
# Log events

* `LogEvent`: what happened, where and how grave it is, with named values in their order.
* `LogTarget.path`: the parts of the program, as logs name them.
-/

namespace Telemetry

/-- How grave an event is, from the least grave on. -/
inductive LogLevel where
  | trace
  | debug
  | info
  | warn
  | error
  deriving DecidableEq

/-- A part of the program. -/
inductive LogTarget where
  | settings
  | joining
  | parsers
  | sources
  | brokerClient
  | reconciliation
  | seriesClient
  | documentStore
  | sensors
  | experiments
  | synchronization
  | dashboard
  | commandLine
  deriving DecidableEq

/-- The name of a part, from the outermost part on. -/
def LogTarget.path : LogTarget → String
  | settings => "qiot_core::config"
  | joining => "qiot_devices::model"
  | parsers => "qiot_devices::parser"
  | sources => "qiot_devices::walker"
  | brokerClient => "qiot_rules::emqx"
  | reconciliation => "qiot_rules::reconciler"
  | seriesClient => "qiot_storage::influx"
  | documentStore => "qiot_storage::backends::redb"
  | sensors => "qiot_api::sensors"
  | experiments => "qiot_api::experiments"
  | synchronization => "qiot_api::sync"
  | dashboard => "qiot_api::dashboard"
  | commandLine => "qiot"

/-- A named value of an event. -/
inductive LogValue where
  /-- A text that is quoted in a line. -/
  | quoted (s : String)
  /-- A text that is shown as it is. -/
  | plain (s : String)
  | number (n : Nat)
  | names (xs : List String)
  deriving DecidableEq

/-- What happened. -/
structure LogEvent where
  level : LogLevel
  target : LogTarget
  message : String
  values : List (String × LogValue)
  deriving DecidableEq

/-- The value that says what an event is about. -/
def LogValue.category (name : String) : String × LogValue := ("category", .quoted name)

end Telemetry
