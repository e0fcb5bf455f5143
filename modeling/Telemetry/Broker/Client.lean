import Telemetry.Broker.Listing
import Telemetry.Broker.Request
import Telemetry.Http.Step
import Telemetry.Settings.Basic
import Telemetry.Text.Base64

/-!
# A broker that is reached over the network

* `BrokerClient`: where the broker is reached and who asks.
* `BrokerClient.perform`: a request to the broker as an exchange of messages. Listing, creating and
  replacing an action, and replacing a rule need a status of success. A rule is created only if the
  status says so, and every other status is a refusal.
-/

namespace Telemetry

/-- Where a broker is reached and who asks. -/
structure BrokerClient where
  /-- The address that paths are appended to. -/
  base : String
  user : String
  password : String
  /-- How many milliseconds to wait for a response. -/
  timeout : Nat

namespace BrokerClient

/-- The client for a broker at an address. -/
def ofAddress (address user password : String) (timeout : Nat) : BrokerClient :=
  ⟨Http.base address, user, password, timeout⟩

/-- The client that the settings ask for. -/
def ofSettings (b : BrokerSettings) : Except Error BrokerClient := do
  return ofAddress (← b.target) b.user b.password (b.timeout * 1000)

/-! ## Messages -/

def actionsPath : String := "/api/v5/actions"

def rulesPath : String := "/api/v5/rules"

/-- The path of an action. -/
def actionPath (name : String) : String :=
  actionsPath ++ "/" ++ actionType ++ ":" ++ Percent.encode name

/-- The path of a rule. -/
def rulePath (id : String) : String := rulesPath ++ "/" ++ Percent.encode id

/-- The header that says who asks. -/
def authorization (c : BrokerClient) : String :=
  "Basic " ++ Base64.encode (c.user ++ ":" ++ c.password).toUTF8.toList

/-- The message for a path. -/
def message (c : BrokerClient) (method : HttpMethod) (path : String) (body : Option Json) :
    HttpRequest where
  method := method
  address := c.base ++ path
  authorization := c.authorization
  accept := "application/json"
  body := body
  timeout := c.timeout

/-! ## What there is to tell -/

/-- An event of the client. -/
def event (level : LogLevel) (message : String) (values : List (String × LogValue)) : LogEvent :=
  ⟨level, .brokerClient, message, LogValue.category "broker" :: values⟩

/-- A message is about to be sent. -/
def sending (method : HttpMethod) (path : String) : LogEvent :=
  event .debug "EMQX request" [("method", .plain method.name), ("path", .plain path)]

/-- A message has no response. -/
def unanswered (r : HttpRequest) (fault : HttpFault) : LogEvent :=
  event .warn "EMQX request failed" [("method", .plain r.method.name), ("url", .plain r.address),
    ("error", .plain fault.message)]

/-- A message has a response. -/
def answered (status : Nat) (body : String) : LogEvent :=
  event .debug "EMQX response" [("status", .number status), ("body", .plain body)]

/-- A response has a status that is no success. -/
def rejected (method : HttpMethod) (path : String) (status : Nat) (body : String) : LogEvent :=
  event .warn "EMQX rejected request" [("method", .plain method.name), ("path", .plain path),
    ("status", .number status), ("body", .plain body)]

/-- What there is to tell before a request. -/
def starting : BrokerRequest → List LogEvent
  | .listActions => []
  | .createAction p => [event .info "Creating action" [("action", .quoted (p.name.getD ""))]]
  | .updateAction name _ => [event .info "Updating action" [("action", .plain name)]]
  | .createRule p => [event .info "Creating rule" [("rule", .plain p.name)]]
  | .updateRule id _ => [event .info "Updating rule" [("rule", .plain id)]]

/-- The actions of the broker were read. -/
def listed (count : Nat) : LogEvent :=
  event .info "Fetched configured actions" [("count", .number count)]

/-! ## Exchanges -/

/-- A message without a response, as an error. -/
def faultError (method : HttpMethod) (path : String) (fault : HttpFault) : Error :=
  let what := method.name ++ " " ++ path
  if fault.isLate then .timeout what else .transport (what ++ ": " ++ fault.message)

/-- The status and the body of the response to a message. -/
def send (c : BrokerClient) (method : HttpMethod) (path : String) (body : Option Json) :
    HttpOperation (Nat × String) := do
  let r := c.message method path body
  Http.tell (sending method path)
  match ← ExceptT.lift (Http.exchange r) with
  | .error fault =>
    Http.tell (unanswered r fault)
    throw (faultError method path fault)
  | .ok response =>
    let body ← Http.readBody "EMQX" response
    Http.tell (answered response.status body)
    return (response.status, body)

/-- The body of a response that has to be a success. -/
def sendAccepted (c : BrokerClient) (method : HttpMethod) (path : String) (body : Option Json) :
    HttpOperation String := do
  let (status, text) ← c.send method path body
  if isSuccess status then return text
  else
    Http.tell (rejected method path status text)
    throw (.remote status text)

/-- The actions that a body lists. -/
def readActions (body : String) : Except Error (List RemoteAction) :=
  (RemoteAction.readAll body).mapError fun fault => .serialization fault.message

/-- The actions of the broker. -/
def listActions (c : BrokerClient) : HttpOperation (List RemoteAction) := do
  let actions ← ExceptT.mk (pure (readActions (← c.sendAccepted .get actionsPath none)))
  Http.tell (listed actions.length)
  return actions

/-- Send a body that has to be accepted. -/
def write (c : BrokerClient) (method : HttpMethod) (path : String) (body : Json) :
    HttpOperation Unit := do
  let _ ← c.sendAccepted method path (some body)

/-- The status of a rule that was created. -/
def createdStatus : Nat := 201

/-- Create a rule. Every status but one is a refusal. -/
def createRule (c : BrokerClient) (p : RulePayload) : HttpOperation RuleCreation := do
  let (status, body) ← c.send .post rulesPath (some p.toJson)
  return if status = createdStatus then .created else .rejected status body

/-- The exchange of a request. -/
def exchange (c : BrokerClient) : (r : BrokerRequest) → HttpDialogue r.Answer
  | .listActions => c.listActions.run
  | .createAction p => (c.write .post actionsPath p.toJson).run
  | .updateAction name p => (c.write .put (actionPath name) p.toJson).run
  | .createRule p => (c.createRule p).run
  | .updateRule id p => (c.write .put (rulePath id) p.toJson).run

/-- The answer to a request. -/
def perform (c : BrokerClient) (r : BrokerRequest) : HttpDialogue r.Answer := do
  Http.logAll (starting r)
  c.exchange r

end BrokerClient

end Telemetry
