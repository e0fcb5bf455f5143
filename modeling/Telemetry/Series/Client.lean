import Telemetry.Http.Step
import Telemetry.Series.Csv
import Telemetry.Series.Flux
import Telemetry.Settings.Basic

/-!
# A series store that is reached over the network

* `SeriesClient`: where the store is reached and who asks.
* `SeriesClient.perform`: a query as an exchange of messages.
-/

namespace Telemetry

/-- Where a series store is reached and who asks. -/
structure SeriesClient where
  /-- The address that paths are appended to. -/
  base : String
  token : String
  organization : String
  /-- How many milliseconds to wait for a response. -/
  timeout : Nat

namespace SeriesClient

/-- The client for a store at an address. -/
def ofAddress (address token organization : String) (timeout : Nat) : SeriesClient :=
  ⟨Http.base address, token, organization, timeout⟩

/-- The client that the settings ask for. -/
def ofSettings (s : SeriesSettings) : Except Error SeriesClient := do
  let (address, token) ← s.target
  return ofAddress address token s.organization (s.timeout * 1000)

/-- The body that asks for the points of a query. -/
def body (flux : String) : Json :=
  .object [("dialect", .object [("annotations", .texts ["datatype"]), ("delimiter", .text ","),
    ("header", .bool true)]), ("query", .text flux), ("type", .text "flux")]

/-- The message that asks for the points of a query. -/
def message (c : SeriesClient) (flux : String) : HttpRequest where
  method := .post
  address := c.base ++ "/api/v2/query?org=" ++ Percent.encode c.organization
  authorization := "Token " ++ c.token
  accept := "application/csv"
  body := some (body flux)
  timeout := c.timeout

/-- An event of the client. -/
def event (level : LogLevel) (message : String) (values : List (String × LogValue)) : LogEvent :=
  ⟨level, .seriesClient, message, LogValue.category "influx" :: values⟩

/-- A query is about to be sent. -/
def querying (flux : String) : LogEvent :=
  event .debug "Executing Flux query" [("query", .plain flux)]

/-- A query has no response. -/
def unanswered (r : HttpRequest) (fault : HttpFault) : LogEvent :=
  event .warn "Query request failed" [("url", .plain r.address), ("error", .plain fault.message)]

/-- A response has a status that is no success. -/
def rejected (status : Nat) (body : String) : LogEvent :=
  event .warn "InfluxDB rejected query" [("status", .number status), ("body", .plain body)]

/-- A query without a response, as an error. -/
def faultError (measurement : String) (fault : HttpFault) : Error :=
  if fault.isLate then .timeout ("InfluxDB query " ++ measurement)
  else .transport ("InfluxDB query failed: " ++ fault.message)

/-- The points of a query. -/
def query (c : SeriesClient) (q : SeriesQuery) : HttpOperation TimeSeries := do
  let r := c.message q.flux
  Http.tell (querying q.flux)
  match ← ExceptT.lift (Http.exchange r) with
  | .error fault =>
    Http.tell (unanswered r fault)
    throw (faultError q.measurement fault)
  | .ok response =>
    let text ← Http.readBody "InfluxDB" response
    if isSuccess response.status then ExceptT.mk (pure (Csv.readSeries text))
    else
      Http.tell (rejected response.status text)
      throw (.remote response.status text)

/-- The answer to a query. -/
def perform (c : SeriesClient) (q : SeriesQuery) : HttpDialogue (Except Error TimeSeries) :=
  (c.query q).run

end SeriesClient

end Telemetry
