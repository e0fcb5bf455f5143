import Telemetry.Dialogue.Pool
import Telemetry.Sync.Run

/-!
# Writing the routes of several actions at a time

* `Sync.pool`: the groups of planned routes side by side. The routes of one action stay one after
  the other, because they are one dialogue.
* `Sync.report?`: the report, when every group is finished, in whatever order the groups came.
-/

namespace Telemetry.Sync

/-- Groups of routes side by side. -/
abbrev SyncPool := Pool SyncStep SyncStep.Answer (List (Nat × RouteOutcome))

/-- The groups of routes, when the broker listed these actions. -/
def pool (listed : List RemoteAction) (connector : String) (routes : List Route) : SyncPool :=
  .ofDialogues ((groups (plan listed routes)).map (syncGroup listed connector))

/-- The report of groups that are all finished. -/
def report? (p : SyncPool) : Option Report :=
  if p.isFinished then some (.ofOutcomes p.completed.flatten) else none

end Telemetry.Sync
