import Telemetry.Broker.Client
import Telemetry.Sync.Run

/-!
# Syncs over the network

* `BrokerClient.step`: a step of a sync as an exchange of messages; nobody gives up on it.
* `BrokerClient.sync`: a sync as an exchange of messages.
-/

namespace Telemetry.BrokerClient

/-- A step of a sync as an exchange of messages. -/
def step (c : BrokerClient) : (s : SyncStep) → HttpDialogue s.Answer
  | .isCancelled => pure false
  | .request r => c.perform r
  | .log event => Http.log event

/-- List the actions of the broker, then write routes. -/
def sync (c : BrokerClient) (connector : String) (routes : List Route) :
    HttpDialogue (Except Error Sync.Report) :=
  Dialogue.translate (A := SyncStep.Answer) c.step (Telemetry.sync connector routes)

end Telemetry.BrokerClient
