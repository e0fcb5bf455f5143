import Telemetry.Dialogue
import Telemetry.Error
import Telemetry.Http.Request
import Telemetry.Log.Event
import Telemetry.Text.Blank

/-!
# What a client of the hypertext protocol asks of its surroundings

* `HttpStep`: to send a request to an address, and to log an event.
* `Http.exchange`: the response to a request. One that cannot be sent is not sent.
-/

namespace Telemetry

/-- What a client asks of its surroundings. -/
inductive HttpStep where
  | send (r : HttpRequest) (address : Url)
  | log (event : LogEvent)

/-- What a step is answered with. -/
def HttpStep.Answer : HttpStep → Type
  | send .. => Delivery
  | log _ => Unit

/-- A computation that exchanges requests and responses. -/
abbrev HttpDialogue := Dialogue HttpStep HttpStep.Answer

/-- An exchange that may fail. -/
abbrev HttpOperation := ExceptT Error HttpDialogue

namespace Http

/-- Log an event. -/
def log (event : LogEvent) : HttpDialogue Unit := .question (HttpStep.log event)

/-- Log events in their order. -/
def logAll : List LogEvent → HttpDialogue Unit
  | [] => pure ()
  | e :: es => do
    log e
    logAll es

/-- Log an event on the way. -/
def tell (event : LogEvent) : HttpOperation Unit := ExceptT.lift (log event)

/-- Send a request to an address. -/
def send (r : HttpRequest) (address : Url) : HttpDialogue Delivery :=
  .question (HttpStep.send r address)

/-- The response to a request. -/
def exchange (r : HttpRequest) : HttpDialogue (Except HttpFault HttpResponse) :=
  match r.target with
  | .error fault => pure (.error fault)
  | .ok address => do return (← send r address).response address

/-- An address that paths are appended to: one without slashes at its end. -/
def base (address : String) : String := String.ofList (Text.dropEndWhile (· = '/') address.toList)

/-- The body of a response, as an error if it ended early; `what` says whose body it is. -/
def readBody (what : String) (r : HttpResponse) : HttpOperation String :=
  match r.body with
  | some s => pure s
  | none =>
    throw (.transport ("Failed to read " ++ what ++ " response: error decoding response body"))

end Http

end Telemetry
