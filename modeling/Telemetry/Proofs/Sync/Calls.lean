import Telemetry.Proofs.Dialogue
import Telemetry.Proofs.Sync.Groups
import Telemetry.Sync.Run

/-!
# The calls of a sync

* `BrokerRequest.resource?`: the action or the rule that a request is about; `callsOn` are the
  requests about one of them, in their order.
* `asksOnly_syncGroup`: a group calls on the action and the rules of its own routes.
* `CompleteExperiment.ruleId_eq_iff`: routes of an experiment share a rule if and only if they share
  an action.
* `owner_unique`: no two groups own the same resource.
-/

namespace Telemetry

/-! ## Resources -/

/-- What the broker keeps under a name. -/
inductive Resource where
  | action (name : String)
  | rule (id : String)
  deriving DecidableEq

/-- The resource that a request is about. -/
def BrokerRequest.resource? : BrokerRequest → Option Resource
  | .listActions => none
  | .createAction p => some (.action (p.name.getD ""))
  | .updateAction name _ => some (.action name)
  | .createRule p => some (.rule p.id)
  | .updateRule id _ => some (.rule id)

namespace BrokerRequest

@[simp] theorem resource?_createAction (p : ActionPayload) :
    (createAction p).resource? = some (.action (p.name.getD "")) := rfl

@[simp] theorem resource?_updateAction (name : String) (p : ActionPayload) :
    (updateAction name p).resource? = some (.action name) := rfl

@[simp] theorem resource?_createRule (p : RulePayload) :
    (createRule p).resource? = some (.rule p.id) := rfl

@[simp] theorem resource?_updateRule (id : String) (p : RulePayload) :
    (updateRule id p).resource? = some (.rule id) := rfl

end BrokerRequest

@[simp] theorem RulePayload.id_ofRule (r : RuleSpec) : (ofRule r).id = r.id := rfl

namespace SyncStep

/-- The request that a step makes. -/
def request? : SyncStep → Option BrokerRequest
  | .request r => some r
  | .isCancelled | .log _ => none

/-- A step that makes no request but about such resources. -/
def CallsOnly (P : Resource → Prop) (q : SyncStep) : Prop :=
  ∀ r, q.request? = some r → ∃ k, r.resource? = some k ∧ P k

theorem CallsOnly.mono {P P' : Resource → Prop} {q : SyncStep} (h : q.CallsOnly P)
    (hP : ∀ k, P k → P' k) : q.CallsOnly P' := by
  intro r hr
  obtain ⟨k, hk, hPk⟩ := h r hr
  exact ⟨k, hk, hP k hPk⟩

end SyncStep

namespace Sync

/-- The requests among the steps of a sync. -/
def requests (qs : List SyncStep) : List BrokerRequest := qs.filterMap SyncStep.request?

theorem requests_append (qs qs' : List SyncStep) :
    requests (qs ++ qs') = requests qs ++ requests qs' := List.filterMap_append

/-- The requests about a resource. -/
def callsOn (k : Resource) (rs : List BrokerRequest) : List BrokerRequest :=
  rs.filter (·.resource? = some k)

theorem callsOn_append (k : Resource) (rs rs' : List BrokerRequest) :
    callsOn k (rs ++ rs') = callsOn k rs ++ callsOn k rs' := List.filter_append ..

/-- A request about another resource is not among the calls on this one. -/
theorem callsOn_concat_of_ne {k : Resource} {r : BrokerRequest} (h : r.resource? ≠ some k)
    (rs : List BrokerRequest) : callsOn k (rs ++ [r]) = callsOn k rs := by
  simp [callsOn, h]

/-- Steps that leave a resource alone make no calls on it. -/
theorem callsOn_requests_eq_nil {P : Resource → Prop} {qs : List SyncStep} {k : Resource}
    (hqs : ∀ q ∈ qs, q.CallsOnly P) (hk : ¬ P k) : callsOn k (requests qs) = [] := by
  refine List.filter_eq_nil_iff.mpr fun r hr hrk => ?_
  obtain ⟨q, hq, hqr⟩ := List.mem_filterMap.mp hr
  obtain ⟨k', hk', hP⟩ := hqs q hq r hqr
  obtain rfl : k' = k := by simpa [hk'] using hrk
  exact hk hP

/-- Nobody gives up, and the broker accepts every request. -/
def accepted : (q : SyncStep) → Unit → q.Answer × Unit
  | .isCancelled, _ => (false, ())
  | .request .listActions, _ => ((.ok [] : Except Error (List RemoteAction)), ())
  | .request (.createAction _), _ => ((.ok () : Except Error Unit), ())
  | .request (.updateAction ..), _ => ((.ok () : Except Error Unit), ())
  | .request (.createRule _), _ => ((.ok .created : Except Error RuleCreation), ())
  | .request (.updateRule ..), _ => ((.ok () : Except Error Unit), ())
  | .log _, _ => ((), ())

/-! ## What a group calls on -/

section Asks

variable {P : Resource → Prop}

theorem asksOnly_isCancelled : isCancelled.AsksOnly (SyncStep.CallsOnly P) :=
  Dialogue.asksOnly_question fun _ h => nomatch h

theorem asksOnly_log (event : LogEvent) : (log event).AsksOnly (SyncStep.CallsOnly P) :=
  Dialogue.asksOnly_question fun _ h => nomatch h

theorem asksOnly_request {r : BrokerRequest} {k : Resource} (hr : r.resource? = some k)
    (hk : P k) : (request r).AsksOnly (SyncStep.CallsOnly P) := by
  refine Dialogue.asksOnly_question fun r' h => ?_
  obtain rfl : r = r' := by simpa [SyncStep.request?] using h
  exact ⟨k, hr, hk⟩

theorem asksOnly_report (measurement : String) (status : RouteStatus) :
    (report measurement status).AsksOnly (SyncStep.CallsOnly P) := by
  cases status with
  | synced => exact Dialogue.asksOnly_pure ()
  | failed stage error => exact asksOnly_log _

end Asks

/-- The action and the rule of a planned route. -/
def PlannedRoute.Owns (p : PlannedRoute) (k : Resource) : Prop :=
  k = .action p.actionName ∨ k = .rule p.route.rule.id

theorem asksOnly_writeAction (listed : List RemoteAction) (connector : String)
    (p : PlannedRoute) : (p.writeAction listed connector).AsksOnly (SyncStep.CallsOnly p.Owns) := by
  unfold PlannedRoute.writeAction
  split
  · exact asksOnly_request rfl (.inl rfl)
  · exact asksOnly_request rfl (.inl rfl)

theorem asksOnly_writeRule (p : PlannedRoute) :
    (writeRule p.route.rule).AsksOnly (SyncStep.CallsOnly p.Owns) := by
  refine (asksOnly_request rfl (.inr rfl)).bind fun answer => ?_
  match answer with
  | .error e => exact Dialogue.asksOnly_pure _
  | .ok .created => exact Dialogue.asksOnly_pure _
  | .ok (.rejected status body) =>
    refine (asksOnly_log _).bind fun _ => ?_
    exact (asksOnly_request rfl (.inr rfl)).bind fun _ => Dialogue.asksOnly_pure _

theorem asksOnly_sync (listed : List RemoteAction) (connector : String) (p : PlannedRoute) :
    (p.sync listed connector).AsksOnly (SyncStep.CallsOnly p.Owns) := by
  refine asksOnly_isCancelled.bind fun cancelled => ?_
  cases cancelled with
  | true => exact Dialogue.asksOnly_pure _
  | false =>
    refine (asksOnly_writeAction listed connector p).bind fun written => ?_
    cases written with
    | error e => exact Dialogue.asksOnly_pure _
    | ok _ =>
      refine asksOnly_isCancelled.bind fun cancelled => ?_
      cases cancelled with
      | true => exact Dialogue.asksOnly_pure _
      | false =>
        refine (asksOnly_writeRule p).bind fun rule => ?_
        cases rule with
        | error e => exact Dialogue.asksOnly_pure _
        | ok step => exact Dialogue.asksOnly_pure _

/-- A group calls on the action and the rules of its own routes. -/
theorem asksOnly_syncGroup (listed : List RemoteAction) (connector : String)
    (g : List PlannedRoute) : (syncGroup listed connector g).AsksOnly
      (SyncStep.CallsOnly fun k => ∃ p ∈ g, p.Owns k) := by
  induction g with
  | nil => exact Dialogue.asksOnly_pure []
  | cons p ps ih =>
    have hp := (asksOnly_sync listed connector p).mono fun q hq =>
      hq.mono fun k hk => (⟨p, by simp, hk⟩ : ∃ p' ∈ p :: ps, p'.Owns k)
    refine hp.bind fun status => (asksOnly_report _ status).bind fun _ => ?_
    refine (ih.mono fun q hq => hq.mono fun k => ?_).bind fun _ => Dialogue.asksOnly_pure _
    rintro ⟨p', hp', hk⟩
    exact ⟨p', by simp [hp'], hk⟩

end Sync

/-! ## The resources of an experiment -/

theorem Source.resourceName_inj {s s' : Source} {kind experiment : String} {p : NamingPolicy} :
    s.resourceName kind experiment p = s'.resourceName kind experiment p ↔
      s.measurement ++ p.suffix s.branch experiment =
        s'.measurement ++ p.suffix s'.branch experiment := by
  simp only [Source.resourceName, String.append_assoc, String.append_right_inj]

/-- Routes of an experiment share a rule if and only if they share an action. -/
theorem CompleteExperiment.ruleId_eq_iff {e : CompleteExperiment} {policy : NamingPolicy}
    {r r' : Route} (hr : r ∈ e.routes policy) (hr' : r' ∈ e.routes policy) :
    r.rule.id = r'.rule.id ↔ r.action.name = r'.action.name := by
  obtain ⟨s, -, rfl⟩ := List.mem_map.mp hr
  obtain ⟨s', -, rfl⟩ := List.mem_map.mp hr'
  exact Source.resourceName_inj.trans Source.resourceName_inj.symm

namespace Sync

/-- A group of planned routes owns what its routes own. -/
def Owner (gs : List (List PlannedRoute)) (i : Nat) (k : Resource) : Prop :=
  ∃ g, gs[i]? = some g ∧ ∃ p ∈ g, p.Owns k

/-- A group calls on what it owns. -/
theorem asksOnly_owner {gs : List (List PlannedRoute)} {listed : List RemoteAction}
    {connector : String} {i : Nat} {d : SyncDialogue (List (Nat × RouteOutcome))}
    (hd : (gs.map (syncGroup listed connector))[i]? = some d) :
    d.AsksOnly (SyncStep.CallsOnly (Owner gs i)) := by
  rw [List.getElem?_map, Option.map_eq_some_iff] at hd
  obtain ⟨g, hg, rfl⟩ := hd
  exact (asksOnly_syncGroup listed connector g).mono fun q hq => hq.mono fun k hk => ⟨g, hg, hk⟩

/-- No two groups own the same resource. -/
theorem owner_unique {e : CompleteExperiment} {policy : NamingPolicy}
    {listed : List RemoteAction} {i j : Nat} {k : Resource}
    (hi : Owner (groups (plan listed (e.routes policy))) i k)
    (hj : Owner (groups (plan listed (e.routes policy))) j k) : i = j := by
  obtain ⟨g, hg, p, hp, hpk⟩ := hi
  obtain ⟨g', hg', p', hp', hpk'⟩ := hj
  have hname : p.actionName = p'.actionName := by
    obtain rfl | rfl := hpk
    · obtain h | h := hpk'
      · simpa using h
      · cases h
    · obtain h | h := hpk'
      · cases h
      · have hr := route_mem_of_mem_groups (List.mem_of_getElem? hg) hp
        have hr' := route_mem_of_mem_groups (List.mem_of_getElem? hg') hp'
        exact (CompleteExperiment.ruleId_eq_iff hr hr').mp (by simpa using h)
  exact group_unique hg hg' hp hp' hname

end Sync

end Telemetry
