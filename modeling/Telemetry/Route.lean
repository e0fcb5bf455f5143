import Telemetry.Source

/-!
# Routes

A route is an action of the broker, which writes a measurement, and a rule, which feeds it from a
topic.

* `Source.route`: the route of a source.
* `CompleteExperiment.routes`: the routes of an experiment, one for each source, in their order.
-/

namespace Telemetry

/-- How a measurement is written. -/
structure ActionSpec where
  name : String
  description : String
  writeSyntax : String
  deriving DecidableEq

/-- What is selected, and which action it feeds. -/
structure RuleSpec where
  id : String
  name : String
  description : String
  sql : String
  actionName : String
  deriving DecidableEq

/-- The action and the rule of one source. -/
structure Route where
  measurement : String
  slot : String
  action : ActionSpec
  rule : RuleSpec
  deriving DecidableEq

namespace NamingPolicy

/-- The scope of the resources of a source. -/
def scopeOf (p : NamingPolicy) : Branch → NamingScope
  | .structured _ => p.structured
  | .whiteboard => p.whiteboard

/-- What follows the names of a source's resources. Without an id there is nothing to follow. -/
def suffix (p : NamingPolicy) (b : Branch) (experiment : String) : String :=
  match p.scopeOf b with
  | .experiment => if experiment = "" then "" else "_" ++ experiment
  | .global => ""

end NamingPolicy

/-- The tag of the experiment; without an id there is none. -/
def experimentTags (experiment : String) : List Assignment :=
  if experiment = "" then [] else [⟨"experimentId", experiment, false⟩]

namespace Source

/-- The line that the action of a source writes. -/
def template (s : Source) (experiment : String) : LineTemplate where
  measurement := s.measurement
  tags := experimentTags experiment ++ s.dispatch.tags
  fields := s.dispatch.fields

/-- A resource of a source is named for its measurement. -/
def resourceName (s : Source) (kind : String) (experiment : String) (p : NamingPolicy) : String :=
  kind ++ s.measurement ++ p.suffix s.branch experiment

/-- The name of the action of a source. -/
def actionName (s : Source) (experiment : String) (p : NamingPolicy) : String :=
  s.resourceName "action_" experiment p

/-- What a description says of a source. -/
def subject (s : Source) : String := s.slot ++ " - " ++ s.name

/-- The route of a source of an experiment. -/
def route (s : Source) (experiment : String) (p : NamingPolicy) : Route where
  measurement := s.measurement
  slot := s.slot
  action := {
    name := s.actionName experiment p
    description := "InfluxDB action for " ++ s.subject
    writeSyntax := (s.template experiment).text }
  rule := {
    id := s.resourceName "rule_id_" experiment p
    name := s.resourceName "rule_" experiment p
    description := "Rule for " ++ s.subject
    sql := s.dispatch.selection.sql s.topic
    actionName := s.actionName experiment p }

end Source

/-- The routes of an experiment. -/
def CompleteExperiment.routes (e : CompleteExperiment) (p : NamingPolicy) : List Route :=
  e.sources.map (·.route e.id p)

namespace Route

/-- A route as it is shown, with its parts in the order of their declaration. -/
def toJson (r : Route) : Json :=
  .object [("measurement", .text r.measurement), ("slot", .text r.slot),
    ("action", .object [("name", .text r.action.name),
      ("description", .text r.action.description),
      ("write_syntax", .text r.action.writeSyntax)]),
    ("rule", .object [("id", .text r.rule.id), ("name", .text r.rule.name),
      ("description", .text r.rule.description), ("sql", .text r.rule.sql),
      ("action_name", .text r.rule.actionName)])]

end Route

end Telemetry
