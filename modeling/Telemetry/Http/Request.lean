import Telemetry.Http.Url
import Telemetry.Json.Value

/-!
# Requests of the hypertext protocol

* `HttpRequest`: a method, an address, headers, and a JSON value as the body.
* `HttpRequest.target`: the address, if the request can be sent at all.
* `Delivery`: what came of a request that was sent; `Delivery.response` is its response.
-/

namespace Telemetry

/-- What a request is for. -/
inductive HttpMethod where
  | get
  | post
  | put
  deriving DecidableEq

/-- The name of a method. -/
def HttpMethod.name : HttpMethod → String
  | get => "GET"
  | post => "POST"
  | put => "PUT"

/-- A request. -/
structure HttpRequest where
  method : HttpMethod
  address : String
  /-- The value of the header that says who asks. -/
  authorization : String
  /-- The type of body that is asked for. -/
  accept : String
  body : Option Json
  /-- How many milliseconds to wait for the end of the response. -/
  timeout : Nat

/-- Why there is no response. -/
inductive HttpFault where
  /-- The address cannot be read, or a header cannot be sent. -/
  | unsendable
  | otherScheme (address : String)
  | unreachable (address : String)
  /-- The response did not come in time. -/
  | late (address : String)
  deriving DecidableEq

namespace HttpFault

/-- The wording of a fault. -/
def message : HttpFault → String
  | unsendable => "builder error"
  | otherScheme address => "builder error for url (" ++ address ++ ")"
  | unreachable address => "error sending request for url (" ++ address ++ ")"
  | late address => "error sending request for url (" ++ address ++ ")"

/-- The response did not come in time. -/
def isLate : HttpFault → Bool
  | late _ => true
  | _ => false

end HttpFault

/-- A response whose body may have ended before its announced length. -/
structure HttpResponse where
  status : Nat
  body : Option String
  deriving DecidableEq

/-- What came of a request that was sent. -/
inductive Delivery where
  | unreachable
  | late
  | answered (response : HttpResponse)
  deriving DecidableEq, Inhabited

/-- The response to a request that was sent to an address. -/
def Delivery.response (address : Url) : Delivery → Except HttpFault HttpResponse
  | unreachable => .error (.unreachable address.text)
  | late => .error (.late address.text)
  | answered r => .ok r

/-- A status of success. -/
def isSuccess (status : Nat) : Bool := 200 ≤ status && status < 300

namespace HttpRequest

/-- A character that the value of a header may have. -/
def isHeaderChar (c : Char) : Bool := c = '\t' || (0x20 ≤ c.toNat && c.toNat ≠ 0x7F)

/-- The headers by name. -/
def headers (r : HttpRequest) : List (String × String) :=
  [("authorization", r.authorization), ("accept", r.accept)] ++
    (r.body.map fun _ => ("content-type", "application/json")).toList

/-- Where a request goes, if it can be sent. -/
def target (r : HttpRequest) : Except HttpFault Url :=
  match Url.parse r.address with
  | .error .malformed => .error .unsendable
  | .error (.otherScheme address) => .error (.otherScheme address)
  | .ok url =>
    if r.headers.all fun h => h.2.toList.all isHeaderChar then .ok url else .error .unsendable

end HttpRequest

end Telemetry
