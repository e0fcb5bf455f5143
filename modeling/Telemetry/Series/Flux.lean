import Telemetry.Series.Query

/-!
# Flux text of a query

* `Flux.literal`: a text as a string literal, in which a quote and a backslash have a backslash
  before them.
* `SeriesQuery.flux`: the text of a query. The field is asked for only if it is not blank.
-/

namespace Telemetry

namespace Flux

/-- A text with a backslash before each of its marks. -/
def escapeMark (mark : Char) (cs : List Char) : List Char :=
  cs.flatMap fun c => if c = mark then ['\\', mark] else [c]

/-- A text as a string literal: first its backslashes are escaped, and then its quotes. -/
def literal (s : String) : String :=
  "\"" ++ String.ofList (escapeMark '"' (escapeMark '\\' s.toList)) ++ "\""

/-- Keep the rows that hold a value in a column. -/
def keep (column value : String) : String :=
  "\n  |> filter(fn: (r) => r[\"" ++ column ++ "\"] == " ++ literal value ++ ")"

end Flux

/-- The text of a query. -/
def SeriesQuery.flux (q : SeriesQuery) : String :=
  "from(bucket: " ++ Flux.literal q.bucket ++ ")\n  |> range(start: -" ++ toString q.window ++
    "s)" ++ Flux.keep "experimentId" q.experimentId ++
    Flux.keep "deviceAddress" q.deviceAddress ++ Flux.keep "_measurement" q.measurement ++
    (if Text.isBlankText q.field then "" else Flux.keep "_field" q.field)

end Telemetry
