import Telemetry.Sync.Report
import Telemetry.Sync.Step

/-!
# Writing routes to the broker

Each route is an action that is written first and a rule that is written after it. Nothing is undone
when a step fails, and a failed route does not stop the others.

* `PlannedRoute.sync`: write one route.
* `syncGroup`: write the routes of one action, one after the other.
* `apply`: write routes, when the actions of the broker are known.
* `sync`: list the actions of the broker, then write routes.
-/

namespace Telemetry.Sync

/-- A step that was left out because the caller has given up. -/
def skipped (what : String) : Error := .cancelled ("skipped " ++ what)

/-- Create or replace the action of a route, as planned. -/
def PlannedRoute.writeAction (listed : List RemoteAction) (connector : String) (p : PlannedRoute) :
    SyncDialogue (Except Error Unit) :=
  match p.step with
  | .create => request (.createAction (.create p.route.action connector))
  | .update => request (.updateAction p.actionName
      (.update p.route.action connector (listedAction listed p.actionName)))

/-- A rule was refused, so it is there already. -/
def ruleRefused (id : String) (status : Nat) : LogEvent where
  level := .warn
  target := .reconciliation
  message := "Rule already exists, updating"
  values := [LogValue.category "sync", ("rule", .plain id), ("status", .number status)]

/-- Create a rule, or replace it if it is refused. -/
def writeRule (r : RuleSpec) : SyncDialogue (Except Error RuleStep) := do
  let payload := RulePayload.ofRule r
  match (← request (.createRule payload) : Except Error RuleCreation) with
  | .error e => return .error e
  | .ok .created => return .ok .created
  | .ok (.rejected status _) =>
    log (ruleRefused r.id status)
    let replaced : Except Error Unit ← request (.updateRule r.id payload)
    return replaced.map fun _ => .updated

/-- Write the action of a route, and then its rule. -/
def PlannedRoute.sync (listed : List RemoteAction) (connector : String) (p : PlannedRoute) :
    SyncDialogue RouteStatus := do
  if ← isCancelled then return .failed .action (skipped p.actionName)
  match ← p.writeAction listed connector with
  | .error e => return .failed .action e
  | .ok _ =>
    if ← isCancelled then return .failed .rule (skipped p.route.rule.id)
    match ← writeRule p.route.rule with
    | .error e => return .failed .rule e
    | .ok rule => return .synced p.step rule

/-- A route failed. -/
def routeFailed (measurement : String) (stage : Stage) (e : Error) : LogEvent where
  level := .error
  target := .reconciliation
  message := "Route sync failed"
  values := [LogValue.category "sync", ("measurement", .plain measurement),
    ("stage", .plain stage.name), ("error", .plain e.message)]

/-- Tell of a route that failed. -/
def report (measurement : String) : RouteStatus → SyncDialogue Unit
  | .synced .. => pure ()
  | .failed stage e => log (routeFailed measurement stage e)

/-- Write routes one after the other. -/
def syncGroup (listed : List RemoteAction) (connector : String) :
    List PlannedRoute → SyncDialogue (List (Nat × RouteOutcome))
  | [] => pure []
  | p :: ps => do
    let status ← p.sync listed connector
    report p.route.measurement status
    return (p.index, p.outcome status) :: (← syncGroup listed connector ps)

/-- Write groups one after the other. -/
def syncGroups (listed : List RemoteAction) (connector : String) :
    List (List PlannedRoute) → SyncDialogue (List (Nat × RouteOutcome))
  | [] => pure []
  | g :: gs => do
    return (← syncGroup listed connector g) ++ (← syncGroups listed connector gs)

/-- All routes were tried. -/
def finished (r : Report) : LogEvent where
  level := .info
  target := .reconciliation
  message := "Broker sync finished"
  values := [LogValue.category "sync", ("total", .number r.outcomes.length),
    ("succeeded", .number r.succeeded.length), ("failed", .number r.failed.length)]

/-- Write routes, when the broker listed these actions. -/
def apply (listed : List RemoteAction) (connector : String) (routes : List Route) :
    SyncDialogue Report := do
  let report := Report.ofOutcomes (← syncGroups listed connector (groups (plan listed routes)))
  log (finished report)
  return report

end Sync

/-- List the actions of the broker, then write routes. -/
def sync (connector : String) (routes : List Route) : SyncDialogue (Except Error Sync.Report) := do
  match (← Sync.request .listActions : Except Error (List RemoteAction)) with
  | .error e => return .error e
  | .ok listed => return .ok (← Sync.apply listed connector routes)

end Telemetry
