import Telemetry.Broker.Payload

/-!
# Which actions are created and which are replaced

This is decided once, from the actions that the broker listed, before anything is written.

* `plan`: every route with its place and what is to become of its action. An action that was not
  listed is created by the first route that writes it, and replaced by the later ones.
* `groups`: the planned routes that write one action, for each action.
-/

namespace Telemetry.Sync

/-- How an action is written. -/
inductive ActionStep where
  | create
  | update
  deriving DecidableEq

/-- The name of a step in a report. -/
def ActionStep.title : ActionStep → String
  | create => "Create"
  | update => "Update"

/-- A route, its place, and how its action is written. -/
structure PlannedRoute where
  index : Nat
  route : Route
  step : ActionStep
  deriving DecidableEq

/-- The action that a planned route writes. -/
def PlannedRoute.actionName (p : PlannedRoute) : String := p.route.action.name

/-- The listed action of a name; of several it is the last one. -/
def listedAction (listed : List RemoteAction) (name : String) : Option RemoteAction :=
  listed.reverse.find? (·.name == name)

/-- Plan routes from a place on, when the actions of these names are there. -/
def planFrom (present : List String) (index : Nat) : List Route → List PlannedRoute
  | [] => []
  | r :: rs =>
    ⟨index, r, if r.action.name ∈ present then .update else .create⟩ ::
      planFrom (r.action.name :: present) (index + 1) rs

/-- Plan routes when the broker listed these actions. -/
def plan (listed : List RemoteAction) (routes : List Route) : List PlannedRoute :=
  planFrom (listed.map (·.name)) 0 routes

/-- The planned routes of each action, by the first appearance of the action. -/
def groups (ps : List PlannedRoute) : List (List PlannedRoute) :=
  ((ps.map PlannedRoute.actionName).eraseDups).map fun name =>
    ps.filter (·.actionName == name)

end Telemetry.Sync
