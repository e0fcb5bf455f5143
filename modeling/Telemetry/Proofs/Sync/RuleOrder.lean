import Telemetry.Proofs.Sync.Course
import Telemetry.Proofs.Sync.LastBody
import Telemetry.Proofs.Sync.Schedule

/-!
# No rule before its action

* `rule_after_own_action`: a rule is written only after the broker has written the action of the
  same route, and it is replaced only after its creation was refused; the rule of a route of an
  experiment feeds that action and no other.
-/

namespace Telemetry

/-- The rule of a route of an experiment feeds the action of the route. -/
theorem CompleteExperiment.actions_ofRule {e : CompleteExperiment} {policy : NamingPolicy}
    {r : Route} (hr : r ∈ e.routes policy) :
    (RulePayload.ofRule r.rule).actions = ["influxdb:" ++ r.action.name] := by
  obtain ⟨s, -, rfl⟩ := List.mem_map.mp hr
  rfl

namespace Sync

variable {listed : List RemoteAction} {connector : String} {rs : List Route} {bound : Nat}
  {pre post : List SyncEvent} {s : SyncPool} {i : Nat} {r : BrokerRequest} {p : PlannedRoute}
  {l : List SyncExchange}

/-- The exchanges of a route that goes on with its rule. -/
theorem PlannedRoute.Next.of_rule {id : String} (h : p.Next listed connector l (.request r))
    (hr : r.resource? = some (.rule id)) :
    p.route.rule.id = id ∧ p.actionExchange listed connector (.ok ()) ∈ l ∧
      (r = .createRule (.ofRule p.route.rule) ∨ r = .updateRule id (.ofRule p.route.rule) ∧
        ∃ status body, ruleCreation p.route.rule (.ok (.rejected status body)) ∈ l) := by
  cases h with
  | action =>
    rw [resource?_actionRequest] at hr
    cases hr
  | rule =>
    obtain rfl : p.route.rule.id = id := by simpa using hr
    exact ⟨rfl, by simp [actionDone], .inl rfl⟩
  | replacement status body =>
    obtain rfl : p.route.rule.id = id := by simpa using hr
    exact ⟨rfl, by simp [actionDone], .inr ⟨rfl, status, body, by simp⟩⟩

/-- However the groups are written side by side, whatever was listed, whatever the broker answers
and whenever the caller gives up: a request about a rule is made on behalf of a planned route `p`
for which, since its turn came, the broker has written its action; the rule is replaced only if its
creation was refused to this route; and the rule of a route of an experiment feeds the action that
was written, and it alone. -/
theorem rule_after_own_action {id : String} (hr : Pool.Runs bound (pool listed connector rs)
      (pre ++ .asked i (.request r) :: post) s) (hrule : r.resource? = some (.rule id)) :
    ∃ p l, AskedFor listed connector rs pre i (.request r) p l ∧ p.route.rule.id = id ∧
      (∀ x ∈ l, .answered i x.question x.answer ∈ pre) ∧
      p.actionExchange listed connector (.ok ()) ∈ l ∧
      (r = .createRule (.ofRule p.route.rule) ∨ r = .updateRule id (.ofRule p.route.rule) ∧
        ∃ status body, ruleCreation p.route.rule (.ok (.rejected status body)) ∈ l) ∧
      ∀ (e : CompleteExperiment) (policy : NamingPolicy), rs = e.routes policy →
        ∃ a, (p.actionExchange listed connector (.ok ())).question = .request a ∧
          a.resource? = some (.action p.actionName) ∧
          (RulePayload.ofRule p.route.rule).actions = ["influxdb:" ++ p.actionName] := by
  obtain ⟨p, l, h⟩ := exists_askedFor hr
  obtain ⟨hid, haction, hbody⟩ := h.next.of_rule hrule
  refine ⟨p, l, h, hid, fun x hx => h.answered hx, haction, hbody, ?_⟩
  rintro e policy rfl
  exact ⟨_, question_actionExchange _, resource?_actionRequest,
    CompleteExperiment.actions_ofRule h.route_mem⟩

/-- The rule of the second of two devices that share it is refused and then replaced, after the
action of the second device was replaced. -/
theorem rule_after_own_action_sharedSensor : ∃ pre post s i body p l,
    Pool.Runs 4 (pool [] "influx" (sharedSensor.routes .standard))
      (pre ++ .asked i (.request (.updateRule sharedRule body)) :: post) s ∧
    AskedFor [] "influx" (sharedSensor.routes .standard) pre i
      (.request (.updateRule sharedRule body)) p l ∧
    p.actionExchange [] "influx" (.ok ()) ∈ l ∧
    (∃ status text, ruleCreation p.route.rule (.ok (.rejected status text)) ∈ l) ∧
    (RulePayload.ofRule p.route.rule).actions = ["influxdb:" ++ p.actionName] := by
  let tour := (Tour.start (pool [] "influx" (sharedSensor.routes .standard)) []).visits
    LocalBroker.accepting.answer 4 (List.replicate 20 0)
  have hend : tour.map (fun t => (requests (Pool.questions t.events)).any
      fun r => r matches .updateRule ..) = some true := by
    decide +kernel
  obtain ⟨t, ht, hany⟩ := Option.map_eq_some_iff.mp hend
  obtain ⟨hruns, -⟩ := Tour.runs ht
  obtain ⟨r, hr, hupdate⟩ := List.any_eq_true.mp hany
  obtain ⟨i, pre, post, hes⟩ := exists_asked hr
  rw [hes] at hruns
  cases r with
  | updateRule id body =>
    obtain ⟨p, l, h, rfl, -, haction, hcreate | ⟨hbody, hrefused⟩, hactions⟩ :=
      rule_after_own_action hruns rfl
    · cases hcreate
    obtain ⟨-, -, -, hactions⟩ := hactions sharedSensor .standard rfl
    have hid : p.route.rule.id = sharedRule := by
      have hall : ∀ r ∈ sharedSensor.routes .standard, r.rule.id = sharedRule := by decide +kernel
      exact hall _ h.route_mem
    rw [hid] at hruns h
    exact ⟨pre, post, t.pool, i, body, p, l, hruns, h, haction, hrefused, hactions⟩
  | listActions => cases hupdate
  | createAction => cases hupdate
  | updateAction => cases hupdate
  | createRule => cases hupdate

end Sync

end Telemetry
