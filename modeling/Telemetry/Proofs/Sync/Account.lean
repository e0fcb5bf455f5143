import Telemetry.Proofs.Sync.Outcomes

/-!
# Reports as accounts

The exchanges of a place of the pool are those of the routes of its group, one route after the other.
A report tells of each route what its own exchanges say.

* `Reply`, `replies`: what was answered, by the kind of the question.
* `PlannedRoute.Told`: a status is what the exchanges of a route say; `PlannedRoute.Ends.told`: that
  is how routes end.
* `exists_courses`: the exchanges of a group fall into those of its routes.
* `Accounts`, `report_accounts`: the report of a finished run accounts for every route.
-/

namespace Telemetry.Sync

variable {listed : List RemoteAction} {connector : String} {rs : List Route} {bound : Nat}

/-! ## One route -/

/-- What a question of a sync was answered with. -/
inductive Reply where
  | listing (x : Except Error (List RemoteAction))
  | looked (cancelled : Bool)
  | action (x : Except Error Unit)
  | creation (x : Except Error RuleCreation)
  | replacement (x : Except Error Unit)
  | logged

/-- The reply of an exchange. -/
def reply : SyncExchange → Reply
  | ⟨.isCancelled, cancelled⟩ => .looked cancelled
  | ⟨.log _, _⟩ => .logged
  | ⟨.request .listActions, x⟩ => .listing x
  | ⟨.request (.createAction _), x⟩ => .action x
  | ⟨.request (.updateAction ..), x⟩ => .action x
  | ⟨.request (.createRule _), x⟩ => .creation x
  | ⟨.request (.updateRule ..), x⟩ => .replacement x

/-- The replies of some exchanges, in their order. -/
def replies (l : List SyncExchange) : List Reply := l.map reply

@[simp] theorem reply_look (cancelled : Bool) : reply (look cancelled) = .looked cancelled := rfl

@[simp] theorem reply_logged (event : LogEvent) : reply (logged event) = .logged := rfl

@[simp] theorem reply_ruleCreation (r : RuleSpec) (x : Except Error RuleCreation) :
    reply (ruleCreation r x) = .creation x := rfl

@[simp] theorem reply_ruleReplacement (r : RuleSpec) (x : Except Error Unit) :
    reply (ruleReplacement r x) = .replacement x := rfl

@[simp] theorem reply_actionExchange (p : PlannedRoute) (x : Except Error Unit) :
    reply (p.actionExchange listed connector x) = .action x := by
  unfold PlannedRoute.actionExchange
  split <;> rfl

namespace PlannedRoute

variable {p : PlannedRoute} {l : List SyncExchange} {status : RouteStatus}

/-- The status of a planned route is what its exchanges say. Its calls are the first ones of those
that write its action, create its rule and replace its rule. -/
structure Told (listed : List RemoteAction) (connector : String) (p : PlannedRoute)
    (l : List SyncExchange) (status : RouteStatus) : Prop where
  calls : requested l <+: p.calls listed connector
  step : ∀ action rule, status = .synced action rule → action = p.step
  created : status = .synced p.step .created ↔
    .action (.ok ()) ∈ replies l ∧ .creation (.ok .created) ∈ replies l
  updated : status = .synced p.step .updated ↔ .action (.ok ()) ∈ replies l ∧
    (∃ code body, .creation (.ok (.rejected code body)) ∈ replies l) ∧
    .replacement (.ok ()) ∈ replies l
  action : ∀ e, status = .failed .action e ↔ .action (.error e) ∈ replies l ∨
    (∀ x, .action x ∉ replies l) ∧ .looked true ∈ replies l ∧ e = skipped p.actionName
  rule : ∀ e, status = .failed .rule e ↔ .action (.ok ()) ∈ replies l ∧
    (.looked true ∈ replies l ∧ e = skipped p.route.rule.id ∨
      .creation (.error e) ∈ replies l ∨ .replacement (.error e) ∈ replies l)

theorem requested_actionDone (l : List SyncExchange) :
    requested (p.actionDone listed connector ++ l) =
      p.actionRequest listed connector :: requested l := by
  simp only [requested, requests, actionDone, List.map_append, List.map_cons,
    question_actionExchange]
  rfl

/-- A route makes its calls in their order, and may stop after any of them. -/
theorem Ends.requested_prefix (h : p.Ends listed connector l status) :
    requested l <+: p.calls listed connector := by
  cases h with
  | skipped => exact List.nil_prefix
  | action e =>
    simp only [requested, requests, List.map_cons, question_actionExchange]
    exact ⟨_, rfl⟩
  | ruleSkipped =>
    simp only [requested, requests, List.map_cons, question_actionExchange]
    exact ⟨_, rfl⟩
  | rule e =>
    rw [requested_actionDone]
    exact ⟨_, rfl⟩
  | created =>
    rw [requested_actionDone]
    exact ⟨_, rfl⟩
  | replacement code body e =>
    rw [requested_actionDone]
    exact ⟨[], rfl⟩
  | replaced code body =>
    rw [requested_actionDone]
    exact ⟨[], rfl⟩

/-- The status with which a route ends is what its exchanges say. -/
theorem Ends.told (h : p.Ends listed connector l status) : p.Told listed connector l status := by
  have hcalls := h.requested_prefix
  cases h with
  | skipped =>
    exact ⟨hcalls, by simp, by simp [replies], by simp [replies], by simp [replies, eq_comm],
      by simp [replies]⟩
  | action e =>
    exact ⟨hcalls, by simp, by simp [replies], by simp [replies], by simp [replies, eq_comm],
      by simp [replies]⟩
  | ruleSkipped =>
    exact ⟨hcalls, by simp, by simp [replies], by simp [replies], by simp [replies],
      by simp [replies, eq_comm]⟩
  | rule e =>
    exact ⟨hcalls, by simp, by simp [replies, actionDone], by simp [replies, actionDone],
      by simp [replies, actionDone], by simp [replies, actionDone, eq_comm]⟩
  | created =>
    exact ⟨hcalls, by simp [eq_comm], by simp [replies, actionDone], by simp [replies, actionDone],
      by simp [replies, actionDone], by simp [replies, actionDone]⟩
  | replacement code body e =>
    exact ⟨hcalls, by simp, by simp [replies, actionDone], by simp [replies, actionDone],
      by simp [replies, actionDone], by simp [replies, actionDone, eq_comm]⟩
  | replaced code body =>
    exact ⟨hcalls, by simp [eq_comm], by simp [replies, actionDone], by simp [replies, actionDone],
      by simp [replies, actionDone], by simp [replies, actionDone]⟩

end PlannedRoute

/-! ## All groups -/

/-- The route was written. -/
def RouteStatus.isSynced : RouteStatus → Bool
  | synced .. => true
  | failed .. => false

theorem succeeded_outcome (p : PlannedRoute) (status : RouteStatus) :
    (p.outcome status).succeeded = status.isSynced := by
  cases status <;> rfl

/-- The report of a run accounts for the routes: the exchanges of each place are those of the routes
of its group, one after the other; the status of each route is what its exchanges say; and the report
has these statuses in the order of the routes, and nothing else. -/
structure Accounts (listed : List RemoteAction) (connector : String) (rs : List Route)
    (es : List SyncEvent) (report : Report) (course : PlannedRoute → Course) : Prop where
  exchanges : ∀ i g, (groups (plan listed rs))[i]? = some g →
    Pool.exchanges i es = g.flatMap fun p => (course p).all p
  told : ∀ p ∈ plan listed rs, p.Told listed connector (course p).exchanges (course p).status
  routes : report.outcomes.map (fun o => (o.measurement, o.actionName, o.ruleId)) =
    rs.map fun r => (r.measurement, r.action.name, r.rule.id)
  outcomes : report.outcomes = (plan listed rs).map fun p => p.outcome (course p).status
  succeeded : report.succeeded = ((plan listed rs).filter fun p => (course p).status.isSynced).map
    (·.route.measurement)
  failed : report.failed = ((plan listed rs).filter fun p => !(course p).status.isSynced).map
    (·.route.measurement)
  complete : report.complete =
    if ∀ p ∈ plan listed rs, (course p).status.isSynced = true then .ok report
    else .error (.partialSync report.failed report.succeeded)

/-- A report with the statuses of courses accounts for the routes if the courses do. -/
theorem accounts_of_outcomes {es : List SyncEvent} {report : Report}
    {course : PlannedRoute → Course}
    (hexchanges : ∀ i g, (groups (plan listed rs))[i]? = some g →
      Pool.exchanges i es = g.flatMap fun p => (course p).all p)
    (htold : ∀ p ∈ plan listed rs,
      p.Told listed connector (course p).exchanges (course p).status)
    (houtcomes : report.outcomes = (plan listed rs).map fun p => p.outcome (course p).status) :
    Accounts listed connector rs es report course where
  exchanges := hexchanges
  told := htold
  routes := by
    calc report.outcomes.map (fun o => (o.measurement, o.actionName, o.ruleId))
        = ((plan listed rs).map PlannedRoute.route).map
            fun r => (r.measurement, r.action.name, r.rule.id) := by
          rw [houtcomes, List.map_map, List.map_map]
          rfl
      _ = _ := by rw [map_route_plan]
  outcomes := houtcomes
  succeeded := by
    rw [Report.succeeded, houtcomes, List.filter_map, List.map_map]
    simp only [Function.comp_def, succeeded_outcome]
    rfl
  failed := by
    rw [Report.failed, houtcomes, List.filter_map, List.map_map]
    simp only [Function.comp_def, succeeded_outcome]
    rfl
  complete := by
    simp only [Report.complete, Report.isComplete, houtcomes, List.all_map, Function.comp_def,
      succeeded_outcome, List.all_eq_true]

/-- Whatever was listed, whatever the broker answers, whenever the caller gives up and however the
groups are written side by side: the report accounts for the routes. -/
theorem report_accounts {es : List SyncEvent} {q : SyncPool}
    (hr : Pool.Runs bound (pool listed connector rs) es q) (hfinished : q.isFinished = true) :
    ∃ report course, report? q = some report ∧ Accounts listed connector rs es report course := by
  obtain ⟨course, hexchanges, hends, houtcomes⟩ := report_courses hr hfinished
  exact ⟨_, course, if_pos hfinished,
    accounts_of_outcomes hexchanges (fun p hp => (hends p hp).told) houtcomes⟩

end Telemetry.Sync
