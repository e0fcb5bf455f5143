import Telemetry.Broker.Request
import Telemetry.Dialogue
import Telemetry.Log.Event

/-!
# What a sync asks of its surroundings

* `SyncStep`: a request to the broker, whether the caller has given up, and an event for the log.
-/

namespace Telemetry

/-- What a sync asks of its surroundings. -/
inductive SyncStep where
  | isCancelled
  | request (r : BrokerRequest)
  | log (event : LogEvent)

/-- What a step is answered with. -/
def SyncStep.Answer : SyncStep → Type
  | isCancelled => Bool
  | request r => r.Answer
  | log _ => Unit

/-- A computation that talks to the broker. -/
abbrev SyncDialogue := Dialogue SyncStep SyncStep.Answer

namespace Sync

/-- Whether the caller has given up. -/
def isCancelled : SyncDialogue Bool := .question SyncStep.isCancelled

/-- Ask the broker. -/
def request (r : BrokerRequest) : SyncDialogue r.Answer := .question (SyncStep.request r)

/-- Log an event. -/
def log (event : LogEvent) : SyncDialogue Unit := .question (SyncStep.log event)

end Sync

end Telemetry
