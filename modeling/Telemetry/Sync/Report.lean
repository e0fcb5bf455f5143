import Telemetry.Error
import Telemetry.Sync.Plan

/-!
# What came of a sync

* `RouteStatus`: both steps of a route were done, or one of them failed.
* `Report`: the outcomes of all routes, in their order.
* `Report.complete`: the report, or the error that tells which routes failed.
-/

namespace Telemetry.Sync

/-- How a rule came to be written. -/
inductive RuleStep where
  | created
  | updated
  deriving DecidableEq

/-- The name of a step in a report. -/
def RuleStep.title : RuleStep → String
  | created => "Created"
  | updated => "Updated"

/-- The step that a route failed in. -/
inductive Stage where
  | action
  | rule
  deriving DecidableEq

/-- The name of a stage in a report. -/
def Stage.name : Stage → String
  | action => "action"
  | rule => "rule"

/-- What came of a route. -/
inductive RouteStatus where
  | synced (action : ActionStep) (rule : RuleStep)
  | failed (stage : Stage) (error : Error)
  deriving DecidableEq

/-- A route with what came of it. -/
structure RouteOutcome where
  measurement : String
  actionName : String
  ruleId : String
  status : RouteStatus
  deriving DecidableEq

/-- Both steps of the route were done. -/
def RouteOutcome.succeeded (o : RouteOutcome) : Bool :=
  match o.status with
  | .synced .. => true
  | .failed .. => false

/-- What came of a planned route. -/
def PlannedRoute.outcome (p : PlannedRoute) (status : RouteStatus) : RouteOutcome :=
  ⟨p.route.measurement, p.actionName, p.route.rule.id, status⟩

/-- What came of all routes. -/
structure Report where
  outcomes : List RouteOutcome
  deriving DecidableEq

namespace Report

/-- The report of a sync that had nothing to do. -/
def empty : Report := ⟨[]⟩

/-- The measurements of the routes that failed. -/
def failed (r : Report) : List String :=
  (r.outcomes.filter fun o => !o.succeeded).map (·.measurement)

/-- The measurements of the routes that were written. -/
def succeeded (r : Report) : List String :=
  (r.outcomes.filter (·.succeeded)).map (·.measurement)

/-- Every route was written. -/
def isComplete (r : Report) : Bool := r.outcomes.all (·.succeeded)

/-- The report of a complete sync; one that is not complete is an error. -/
def complete (r : Report) : Except Error Report :=
  if r.isComplete then .ok r else .error (.partialSync r.failed r.succeeded)

/-- The report of outcomes that came in any order, each with its place. -/
def ofOutcomes (xs : List (Nat × RouteOutcome)) : Report :=
  ⟨(xs.mergeSort fun x y => x.1 ≤ y.1).map (·.2)⟩

end Report

end Telemetry.Sync
