import Telemetry.Notices
import Telemetry.Operation.Step
import Telemetry.Settings.Basic
import Telemetry.Sync.Run

/-!
# Bringing the broker up to date with an experiment

* `SyncOptions`: how resources are named and which connector they write through.
* `Synchronization.compile`: the routes of an experiment.
* `Synchronization.run`: write the routes of an experiment to the broker.
-/

namespace Telemetry

/-- How routes are made. -/
structure SyncOptions where
  policy : NamingPolicy
  connector : String
  deriving DecidableEq

/-- What the settings say about routes. -/
def Settings.syncOptions (s : Settings) : SyncOptions := ⟨s.naming.policy, s.broker.connector⟩

namespace Synchronization

/-- The routes of an experiment. -/
def compile (o : SyncOptions) (e : CompleteExperiment) : Operation (List Route) := do
  Operation.logAll e.notices
  return e.routes o.policy

/-- There is nothing to write. -/
def nothingToSync (experiment : String) : LogEvent where
  level := .info
  target := .synchronization
  message := "Experiment has no measurement sources, nothing to sync"
  values := [LogValue.category "sync", ("experiment", .plain experiment)]

/-- The routes are about to be written. -/
def syncing (experiment : String) (routes : Nat) : LogEvent where
  level := .info
  target := .synchronization
  message := "Syncing experiment to broker"
  values := [LogValue.category "sync", ("experiment", .plain experiment),
    ("routes", .number routes)]

/-- Write the routes of an experiment. An experiment without routes does not reach the broker. -/
def run (o : SyncOptions) (e : CompleteExperiment) : Operation Sync.Report := do
  let routes ← compile o e
  if routes.isEmpty then
    Operation.log (nothingToSync e.id)
    return .empty
  else
    Operation.log (syncing e.id routes.length)
    Operation.sync (Telemetry.sync o.connector routes)

end Synchronization

end Telemetry
