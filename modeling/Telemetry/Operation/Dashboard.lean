import Telemetry.Dialogue.Pool
import Telemetry.Operation.Experiments

/-!
# Dashboards

* `Dashboard.queries`: the series that a dashboard shows for a service of an experiment.
* `Dashboard.build`: these series with their points.
* `Dashboard.pool`: the queries side by side; `Pool.decided?` is the dashboard that they make.
-/

namespace Telemetry

/-- A series of a dashboard with its points. -/
structure DashboardSeries where
  query : QueryDescriptor
  series : TimeSeries

namespace DashboardSeries

/-- A series as it is shown, with its parts in the order of their declaration. -/
def toJson (s : DashboardSeries) : Json :=
  .object [("id", .text s.query.id), ("label", .text s.query.label),
    ("timestamps", .texts s.series.timestamps), ("values", .list (s.series.values.map number))]
where
  /-- A value; JSON has no numbers that are not finite. -/
  number (x : Binary64) : Json := if x.isNaN || x.isInfinite then .null else .float x

end DashboardSeries

namespace Dashboard

/-- The series of a dashboard for a service of an experiment. -/
def queries (s : Settings) (id service : String) : Operation (List QueryDescriptor) := do
  let e ← Experiments.complete s.naming.topicRoot id
  Operation.logAll e.notices
  return compileQueries (e.descriptors s.series.bucket) service

/-- The series are about to be read. -/
def building (experiment service : String) (queries : Nat) : LogEvent where
  level := .debug
  target := .dashboard
  message := "Building dashboard"
  values := [LogValue.category "dashboard", ("experiment", .plain experiment),
    ("service", .plain service), ("queries", .number queries)]

/-- Read a series of a dashboard. -/
def readSeries (s : Settings) (id : String) (q : QueryDescriptor) : Operation DashboardSeries :=
  return ⟨q, ← Operation.series (q.seriesQuery id s.series.window)⟩

/-- Read the series of a dashboard in their order; the first failure is the failure of all. -/
def readAll (s : Settings) (id : String) : List QueryDescriptor → Operation (List DashboardSeries)
  | [] => pure []
  | q :: qs => do
    let x ← readSeries s id q
    return x :: (← readAll s id qs)

/-- The queries of a dashboard side by side. -/
def pool (s : Settings) (id : String) (qs : List QueryDescriptor) :
    Pool OperationStep OperationStep.Answer (Except Error DashboardSeries) :=
  .ofDialogues (qs.map fun q => (readSeries s id q).run)

/-- A dashboard for a service of an experiment. -/
def build (s : Settings) (id service : String) : Operation (List DashboardSeries) := do
  let qs ← queries s id service
  Operation.log (building id service qs.length)
  readAll s id qs

end Dashboard

end Telemetry
