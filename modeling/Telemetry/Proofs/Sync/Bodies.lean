import Telemetry.Proofs.Sync.Replacement

/-!
# What requests carry

The body of a request follows from the route on whose behalf it is made and from the actions that
were listed, and from nothing that happens in between.

* `LastListed`: the listed action of a name; of several it is the last one.
* `Route.Carries`: what requests carry on behalf of a route; those of one kind carry the same
  (`carries_unique`).
* `PlannedRoute.Next.carries`: whatever a route was answered so far, its next request carries it.
* `requests_carry_route`: every request of a run carries it for one of the routes.
-/

namespace Telemetry

/-- The listed action of a name, if there is one; of several it is the last one. -/
inductive LastListed (listed : List RemoteAction) (name : String) : Option RemoteAction → Prop
  | last (before after : List RemoteAction) {a : RemoteAction}
      (hlisted : listed = before ++ a :: after) (hname : a.name = name)
      (hafter : ∀ b ∈ after, b.name ≠ name) : LastListed listed name (some a)
  | absent (h : ∀ a ∈ listed, a.name ≠ name) : LastListed listed name none

/-- What a request on behalf of a route carries, when these actions were listed. The actions are not
listed again, and the rule is replaced by what would have created it. -/
inductive Route.Carries (listed : List RemoteAction) (connector : String) (r : Route) :
    BrokerRequest → Prop
  | actionCreation {body : ActionPayload} (hbody : body = .create r.action connector)
      (hname : body.name = some r.action.name) (htype : body.type = some "influxdb")
      (hcreated : body.createdAt = none) (hmodified : body.lastModifiedAt = none) :
      Carries listed connector r (.createAction body)
  | actionReplacement {name : String} {body : ActionPayload} {known : Option RemoteAction}
      (hname : name = r.action.name) (hknown : LastListed listed r.action.name known)
      (hbody : body = { ActionPayload.create r.action connector with
        name := none
        type := none
        createdAt := known.bind (·.createdAt)
        lastModifiedAt := known.bind (·.lastModifiedAt) }) :
      Carries listed connector r (.updateAction name body)
  | ruleCreation {body : RulePayload} (hbody : body = .ofRule r.rule)
      (hactions : body.actions = ["influxdb:" ++ r.rule.actionName]) :
      Carries listed connector r (.createRule body)
  | ruleReplacement {id : String} {body : RulePayload} (hid : id = r.rule.id)
      (hbody : body = .ofRule r.rule)
      (hactions : body.actions = ["influxdb:" ++ r.rule.actionName]) :
      Carries listed connector r (.updateRule id body)

namespace Sync

variable {listed : List RemoteAction} {connector : String}

/-! ## The listed action of a name -/

theorem lastListed_listedAction (listed : List RemoteAction) (name : String) :
    LastListed listed name (listedAction listed name) := by
  cases h : listedAction listed name with
  | none =>
    have hnone := List.find?_eq_none.mp h
    exact .absent fun a ha => by simpa using hnone a (List.mem_reverse.mpr ha)
  | some a =>
    obtain ⟨hname, after, before, hlisted, hafter⟩ := List.find?_eq_some_iff_append.mp h
    refine .last before.reverse after.reverse ?_ (by simpa using hname) ?_
    · simpa using congrArg List.reverse hlisted
    · intro b hb
      simpa using hafter b (List.mem_reverse.mp hb)

/-- The listed action of a name is looked up among the actions. -/
theorem lastListed_iff {name : String} {known : Option RemoteAction} :
    LastListed listed name known ↔ listedAction listed name = known := by
  refine ⟨fun h => ?_, fun h => h ▸ lastListed_listedAction listed name⟩
  cases h with
  | last before after hlisted hname hafter =>
    rw [listedAction, List.find?_eq_some_iff_append]
    refine ⟨by simpa using hname, after.reverse, before.reverse, by simp [hlisted], ?_⟩
    intro b hb
    simpa using hafter b (List.mem_reverse.mp hb)
  | absent h =>
    rw [listedAction, List.find?_eq_none]
    intro a ha
    simpa using h a (List.mem_reverse.mp ha)

/-! ## The requests of a route -/

/-- The request that writes the action of a route carries it, whether it creates or replaces it. -/
theorem PlannedRoute.carries_actionRequest (p : PlannedRoute) :
    p.route.Carries listed connector (p.actionRequest listed connector) := by
  obtain ⟨index, route, step⟩ := p
  cases step with
  | create => exact .actionCreation rfl rfl rfl rfl rfl
  | update => exact .actionReplacement rfl (lastListed_listedAction listed route.action.name) rfl

/-- Whatever a route was answered so far, its next request carries it. -/
theorem PlannedRoute.Next.carries {p : PlannedRoute} {l : List SyncExchange} {r : BrokerRequest}
    (h : p.Next listed connector l (.request r)) : p.route.Carries listed connector r := by
  cases h with
  | action => exact p.carries_actionRequest
  | rule => exact .ruleCreation rfl rfl
  | replacement status body => exact .ruleReplacement rfl rfl rfl

/-- Requests of one kind on behalf of a route carry the same. -/
theorem carries_unique {route : Route} {r r' : BrokerRequest}
    (h : route.Carries listed connector r) (h' : route.Carries listed connector r')
    (hkind : r.ctorIdx = r'.ctorIdx) : r = r' := by
  cases h with
  | actionCreation hbody =>
    cases h' with
    | actionCreation hbody' => rw [hbody, hbody']
    | _ => cases hkind
  | actionReplacement hname hknown hbody =>
    cases h' with
    | actionReplacement hname' hknown' hbody' =>
      obtain rfl := lastListed_iff.mp hknown
      obtain rfl := lastListed_iff.mp hknown'
      rw [hname, hname', hbody, hbody']
    | _ => cases hkind
  | ruleCreation hbody =>
    cases h' with
    | ruleCreation hbody' => rw [hbody, hbody']
    | _ => cases hkind
  | ruleReplacement hid hbody =>
    cases h' with
    | ruleReplacement hid' hbody' => rw [hid, hid', hbody, hbody']
    | _ => cases hkind

/-! ## The requests of a run -/

/-- However the groups are written side by side, whatever was listed, whatever the broker answers
and whenever the caller gives up: a request is made on behalf of one of the routes, and carries what
follows from this route and from the listed actions; no other request of its kind does. -/
theorem requests_carry_route {rs : List Route} {bound : Nat} {pre post : List SyncEvent}
    {s : SyncPool} {i : Nat} {r : BrokerRequest}
    (hr : Pool.Runs bound (pool listed connector rs) (pre ++ .asked i (.request r) :: post) s) :
    ∃ p l, AskedFor listed connector rs pre i (.request r) p l ∧ p.route ∈ rs ∧
      p.route.Carries listed connector r ∧
      ∀ r', p.route.Carries listed connector r' → r'.ctorIdx = r.ctorIdx → r' = r := by
  obtain ⟨p, l, h⟩ := exists_askedFor hr
  exact ⟨p, l, h, h.route_mem, h.next.carries, fun r' h' => carries_unique h' h.next.carries⟩

/-- The action of both devices is listed twice; of the second one it is not said when it was made.
-/
def listedTwice : List RemoteAction :=
  [⟨sharedAction, some "influxdb", some (.int 1), some (.int 2)⟩,
    ⟨sharedAction, some "influxdb", none, some (.int 3)⟩]

/-- An action that is listed twice is replaced with the times of the second one. -/
theorem requests_carry_route_listedTwice : ∃ pre post s i body,
    Pool.Runs 4 (pool listedTwice "influx" (sharedSensor.routes .standard))
      (pre ++ .asked i (.request (.updateAction sharedAction body)) :: post) s ∧
    body.name = none ∧ body.type = none ∧ body.createdAt = none ∧
    body.lastModifiedAt = some (.int 3) := by
  obtain ⟨pre, post, s, i, body, hruns, -⟩ :=
    exists_replacement_sharedSensor listedTwice LocalBroker.accepting.answer [] 4
      (by decide +kernel)
  obtain ⟨p, l, -, -, hcarries, -⟩ := requests_carry_route hruns
  refine ⟨pre, post, s, i, body, hruns, ?_⟩
  cases hcarries with
  | actionReplacement hname hknown hbody =>
    rw [← hname] at hknown
    obtain rfl := lastListed_iff.mp hknown
    rw [hbody]
    exact ⟨rfl, rfl, rfl, rfl⟩

end Sync

end Telemetry
