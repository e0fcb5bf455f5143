import Telemetry.Proofs.Sync.LastBody
import Telemetry.Proofs.Sync.RuleOrder

/-!
# One creator, and one call at a time

* `creations`: the names of the actions that are created, one for each request to create one;
  `nodup_creations` says that none is created twice, whatever routes are written.
* `Exclusive`: what a sync of an experiment does to each of its actions and rules.
* `calls_exclusive`: this holds at every moment of every run.
-/

namespace Telemetry

/-- The name of the action that a request creates. -/
def BrokerRequest.created? : BrokerRequest → Option String
  | .createAction p => some (p.name.getD "")
  | .listActions | .updateAction .. | .createRule _ | .updateRule .. => none

/-- What a request creates it is about. -/
theorem BrokerRequest.resource?_of_created? {r : BrokerRequest} {name : String}
    (h : r.created? = some name) : r.resource? = some (.action name) := by
  cases r with
  | createAction p =>
    obtain rfl := Option.some.inj h
    rfl
  | listActions => cases h
  | updateAction => cases h
  | createRule => cases h
  | updateRule => cases h

namespace Sync

/-- The names of the actions that are created, one for each request to create one. -/
def creations (rs : List BrokerRequest) : List String := rs.filterMap BrokerRequest.created?

theorem creations_cons (r : BrokerRequest) (rs : List BrokerRequest) :
    creations (r :: rs) = r.created?.toList ++ creations rs := by
  cases hr : r.created? <;> simp [creations, hr]

theorem creations_append (rs rs' : List BrokerRequest) :
    creations (rs ++ rs') = creations rs ++ creations rs' := List.filterMap_append

/-- Only the calls on an action create it. -/
theorem count_creations (name : String) (rs : List BrokerRequest) :
    (creations rs).count name = (creations (callsOn (.action name) rs)).count name := by
  induction rs with
  | nil => rfl
  | cons r rs ih =>
    by_cases hk : r.resource? = some (.action name)
    · have hcalls : callsOn (.action name) (r :: rs) = r :: callsOn (.action name) rs := by
        simp [callsOn, hk]
      rw [hcalls, creations_cons, creations_cons, List.count_append, List.count_append, ih]
    · have hcalls : callsOn (.action name) (r :: rs) = callsOn (.action name) rs := by
        simp [callsOn, hk]
      have hnone : r.created?.toList.count name = 0 := by
        refine List.count_eq_zero.mpr fun hmem => hk ?_
        exact r.resource?_of_created? (Option.mem_toList.mp hmem)
      rw [hcalls, creations_cons, List.count_append, hnone, Nat.zero_add, ih]

section Plan

variable {listed : List RemoteAction} {connector : String} {rs : List Route} {p : PlannedRoute}

theorem created?_actionRequest : (p.actionRequest listed connector).created? =
    if p.step = .create then some p.actionName else none := by
  obtain ⟨index, route, step⟩ := p
  cases step <;> rfl

theorem creations_calls (g : List PlannedRoute) :
    creations (g.flatMap (·.calls listed connector)) =
      g.filterMap fun p => (p.actionRequest listed connector).created? := by
  induction g with
  | nil => rfl
  | cons p ps ih =>
    have hp : creations (p.calls listed connector) =
        (p.actionRequest listed connector).created?.toList := by
      rw [PlannedRoute.calls, creations_cons]
      exact List.append_nil _
    rw [List.flatMap_cons, creations_append, hp, ih, List.filterMap_cons]
    cases (p.actionRequest listed connector).created? <;> rfl

/-- A plan creates no action twice. -/
theorem nodup_creations_plan (listed : List RemoteAction) (connector : String)
    (rs : List Route) : ((plan listed rs).filterMap fun p =>
      (p.actionRequest listed connector).created?).Nodup := by
  refine List.pairwise_filterMap.mpr ((sorted_plan listed rs).imp_of_mem ?_)
  intro p p' hp hp' hindex name hname name' hname' heq
  simp only [created?_actionRequest, Option.ite_none_right_eq_some, Option.some.injEq] at hname hname'
  obtain ⟨hstep, rfl⟩ := hname
  obtain ⟨hstep', rfl⟩ := hname'
  obtain rfl | ⟨-, hupdate⟩ := (soleCreator_of_step hp hstep).2 p' hp' heq.symm
  · exact Nat.lt_irrefl _ hindex
  · rw [hstep'] at hupdate
    cases hupdate

end Plan

/-! ## Every run -/

section Run

variable {listed : List RemoteAction} {connector : String} {rs : List Route} {bound : Nat}
  {es : List SyncEvent} {s : SyncPool}

/-- No two groups write the same action. -/
theorem owner_action_unique {ps : List PlannedRoute} {i j : Nat} {name : String}
    (hi : Owner (groups ps) i (.action name)) (hj : Owner (groups ps) j (.action name)) :
    i = j := by
  obtain ⟨g, hg, p, hp, hpk⟩ := hi
  obtain ⟨g', hg', p', hp', hpk'⟩ := hj
  refine group_unique hg hg' hp hp' ?_
  obtain hname | h := hpk
  · obtain hname' | h := hpk'
    · exact Resource.action.inj (hname.symm.trans hname')
    · cases h
  · cases h

/-- No action is created twice, whatever routes are written. -/
theorem nodup_creations (hr : Pool.Runs bound (pool listed connector rs) es s) :
    (creations (requests (Pool.questions es))).Nodup := by
  refine List.nodup_iff_count_le_one.mpr fun name => ?_
  have hasked : ∀ i q, .asked i q ∈ es → q.CallsOnly (Owner (groups (plan listed rs)) i) :=
    fun i q hq => (hr.asked (fun _ _ hd => asksOnly_owner hd) hq).2
  rw [count_creations]
  by_cases hown : ∃ i, Owner (groups (plan listed rs)) i (.action name)
  · obtain ⟨i, hi⟩ := hown
    obtain ⟨g, hg, -⟩ := id hi
    have hd : ((groups (plan listed rs)).map (syncGroup listed connector))[i]? =
        some (syncGroup listed connector g) := by rw [List.getElem?_map, hg, Option.map_some]
    have hcalls := hr.asks_sublist hd (inOrder_syncGroup listed connector g)
    have hgroup := group_sublist (List.mem_of_getElem? hg)
    rw [callsOn_asks hasked fun j hj => owner_action_unique hj hi, ← count_creations]
    calc (creations (requests (Pool.asks i es))).count name
        ≤ (creations (g.flatMap (·.calls listed connector))).count name :=
          (hcalls.filterMap _).count_le name
      _ = (g.filterMap fun p => (p.actionRequest listed connector).created?).count name := by
          rw [creations_calls]
      _ ≤ ((plan listed rs).filterMap fun p =>
            (p.actionRequest listed connector).created?).count name :=
          (hgroup.filterMap _).count_le name
      _ ≤ 1 := List.nodup_iff_count_le_one.mp (nodup_creations_plan listed connector rs) name
  · have hnone : callsOn (.action name) (requests (Pool.questions es)) = [] := by
      refine callsOn_requests_eq_nil (P := fun k => ∃ i, Owner (groups (plan listed rs)) i k)
        (fun q hq => ?_) hown
      obtain ⟨i, hq⟩ := Pool.mem_questions.mp hq
      exact (hasked i q hq).mono fun k hk => ⟨i, hk⟩
    simp [hnone, creations]

/-- An action is created on behalf of the first route of its name, which was not listed. -/
theorem creation_by_first {pre post : List SyncEvent} {i : Nat} {body : ActionPayload}
    (hr : Pool.Runs bound (pool listed connector rs)
      (pre ++ .asked i (.request (.createAction body)) :: post) s) :
    ∃ p l, AskedFor listed connector rs pre i (.request (.createAction body)) p l ∧
      body = .create p.route.action connector ∧ SoleCreator listed rs p := by
  obtain ⟨p, l, h⟩ := exists_askedFor hr
  obtain ⟨hstep, hbody⟩ := h.next.of_creation
  exact ⟨p, l, h, hbody, soleCreator_of_step h.mem_plan hstep⟩

/-- What is created was not listed, and it is the action of a route. -/
theorem mem_creations {name : String} (hr : Pool.Runs bound (pool listed connector rs) es s)
    (hname : name ∈ creations (requests (Pool.questions es))) :
    name ∉ listed.map (·.name) ∧ ∃ r ∈ rs, r.action.name = name := by
  obtain ⟨r, hrequest, hcreated⟩ := List.mem_filterMap.mp hname
  obtain ⟨i, pre, post, rfl⟩ := exists_asked hrequest
  cases r with
  | createAction body =>
    obtain ⟨p, l, h, rfl, hsole⟩ := creation_by_first hr
    obtain rfl : p.actionName = name := Option.some.inj hcreated
    exact ⟨hsole.1, p.route, h.route_mem, rfl⟩
  | listActions => cases hcreated
  | updateAction => cases hcreated
  | createRule => cases hcreated
  | updateRule => cases hcreated

/-- What is asked about a rule is asked about the rule of a route. -/
theorem exists_route_of_rule {r : BrokerRequest} {id : String}
    (hr : Pool.Runs bound (pool listed connector rs) es s)
    (hrequest : r ∈ requests (Pool.questions es)) (hid : r.resource? = some (.rule id)) :
    ∃ r ∈ rs, r.rule.id = id := by
  obtain ⟨i, pre, post, rfl⟩ := exists_asked hrequest
  obtain ⟨p, l, h⟩ := exists_askedFor hr
  obtain hown | hown := h.next.owns hid
  · cases hown
  · exact ⟨p.route, h.route_mem, (Resource.rule.inj hown).symm⟩

/-- A call on a resource is made in a place that owns it. -/
theorem AskedFor.owner {pre : List SyncEvent} {i : Nat} {r : BrokerRequest} {p : PlannedRoute}
    {l : List SyncExchange} (h : AskedFor listed connector rs pre i (.request r) p l) {k : Resource}
    (hk : r.resource? = some k) : Owner (groups (plan listed rs)) i k := by
  obtain ⟨g, hg, hp⟩ := h.exists_group
  exact ⟨g, hg, p, hp, h.next.owns hk⟩

/-- A place takes its routes in the order of the plan. -/
theorem AskedFor.index_le {pre mid : List SyncEvent} {i : Nat} {q q' : SyncStep}
    {p p' : PlannedRoute} {l l' : List SyncExchange}
    (h : AskedFor listed connector rs pre i q p l)
    (h' : AskedFor listed connector rs (pre ++ mid) i q' p' l') : p.index ≤ p'.index := by
  obtain ⟨g, hg, h⟩ := h
  obtain ⟨g', hg', h'⟩ := h'
  obtain rfl := Option.some.inj (hg.symm.trans hg')
  rw [Pool.exchanges_append] at h'
  obtain rfl | hsub := h.in_order h'
  · exact Nat.le_refl _
  · have hsorted := (sorted_plan listed rs).sublist
      (hsub.trans (group_sublist (List.mem_of_getElem? hg)))
    simp only [List.pairwise_cons, List.mem_singleton, forall_eq] at hsorted
    exact Nat.le_of_lt hsorted.1

end Run

/-- The action or rule that a place is at: a call on it is about to be made, or it was made and
there is no answer yet. -/
def resourceAt? (s : SyncPool) (i : Nat) : Option Resource := do
  let m ← s.members[i]?
  let q ← m.current?
  let r ← q.request?
  r.resource?

/-- What a sync does to each of its actions and rules, as far as it has come. -/
structure Exclusive (listed : List RemoteAction) (connector : String) (rs : List Route)
    (es : List SyncEvent) (s : SyncPool) : Prop where
  /-- No action is created twice. -/
  created_once : (creations (requests (Pool.questions es))).Nodup
  /-- An action is created only if it was not listed, and on behalf of the first route of its name;
  every later route of this name is planned to replace it. -/
  created_by_first : ∀ pre i body post, es = pre ++ .asked i (.request (.createAction body)) :: post →
    ∃ p l, AskedFor listed connector rs pre i (.request (.createAction body)) p l ∧
      body = .create p.route.action connector ∧ SoleCreator listed rs p
  /-- The calls on an action or a rule are made in the order of the routes. -/
  in_order : ∀ pre i r mid j r' post k,
    es = pre ++ .asked i (.request r) :: (mid ++ .asked j (.request r') :: post) →
    r.resource? = some k → r'.resource? = some k →
    ∃ p l p' l', AskedFor listed connector rs pre i (.request r) p l ∧
      AskedFor listed connector rs (pre ++ .asked i (.request r) :: mid) j (.request r') p' l' ∧
      p.index ≤ p'.index
  /-- No two groups are at the same action or rule. -/
  one_at_a_time : ∀ i j k, resourceAt? s i = some k → resourceAt? s j = some k → i = j

/-- A place is at a resource that it owns. -/
theorem owner_of_resourceAt? {listed : List RemoteAction} {connector : String} {rs : List Route}
    {bound : Nat} {es : List SyncEvent} {s : SyncPool}
    (hr : Pool.Runs bound (pool listed connector rs) es s) {i : Nat} {k : Resource}
    (h : resourceAt? s i = some k) : Owner (groups (plan listed rs)) i k := by
  simp only [resourceAt?, Option.bind_eq_bind, Option.bind_eq_some_iff] at h
  obtain ⟨m, hm, q, hq, r, hqr, hk⟩ := h
  obtain ⟨d, hd, hasks⟩ := hr.asks_current hm hq
  obtain ⟨g, hg, rfl⟩ := exists_group_of_place hd
  obtain ⟨p, l, h⟩ | ⟨event, rfl⟩ := asks_syncGroup hasks
  · cases q with
    | request r' =>
      obtain rfl : r' = r := by simpa [SyncStep.request?] using hqr
      exact ⟨g, hg, p, h.mem, h.next.owns hk⟩
    | isCancelled => cases hqr
    | log => cases hqr
  · cases hqr

/-- Whatever was listed, whatever the broker answers, whenever the caller gives up and however the
groups are written side by side: at every moment of a sync of an experiment, no action has been
created twice or without need, the calls on each action and rule have been made in the order of the
routes, and no two calls on the same action or rule are under way. -/
theorem calls_exclusive {e : CompleteExperiment} {policy : NamingPolicy}
    {listed : List RemoteAction} {connector : String} {bound : Nat} {es : List SyncEvent}
    {s : SyncPool} (hr : Pool.Runs bound (pool listed connector (e.routes policy)) es s) :
    Exclusive listed connector (e.routes policy) es s where
  created_once := nodup_creations hr
  created_by_first := by
    rintro pre i body post rfl
    exact creation_by_first hr
  in_order := by
    rintro pre i r mid j r' post k rfl hk hk'
    obtain ⟨p, l, h⟩ := exists_askedFor hr
    rw [← List.cons_append, ← List.append_assoc] at hr
    obtain ⟨p', l', h'⟩ := exists_askedFor hr
    obtain rfl := owner_unique (h.owner hk) (h'.owner hk')
    exact ⟨p, l, p', l', h, h', h.index_le h'⟩
  one_at_a_time := by
    intro i j k hi hj
    exact owner_unique (owner_of_resourceAt? hr hi) (owner_of_resourceAt? hr hj)

/-- Two groups at calls on different actions: one action is created, and the other one, which was
created before, is replaced for a second route. -/
theorem calls_exclusive_threeStreams : ∃ es s,
    Pool.Runs 2 (pool [] "influx" (threeStreams.routes .standard)) es s ∧
    Exclusive [] "influx" (threeStreams.routes .standard) es s ∧
    creations (requests (Pool.questions es)) =
      ["action_th_t_6500000000000000000000aa", "action_th_h_6500000000000000000000aa"] ∧
    resourceAt? s 0 = some (.action "action_th_t_6500000000000000000000aa") ∧
    resourceAt? s 1 = some (.action "action_th_h_6500000000000000000000aa") ∧
    (callsOn (.action "action_th_t_6500000000000000000000aa")
      (requests (Pool.questions es))).length = 2 := by
  let tour := (Tour.start (pool [] "influx" (threeStreams.routes .standard)) []).visits
    LocalBroker.accepting.answer 2 (List.replicate 12 0 ++ List.replicate 4 1)
  have hend : tour.map (fun t => (creations (requests (Pool.questions t.events)),
      resourceAt? t.pool 0, resourceAt? t.pool 1,
      (callsOn (.action "action_th_t_6500000000000000000000aa")
        (requests (Pool.questions t.events))).length)) =
    some (["action_th_t_6500000000000000000000aa", "action_th_h_6500000000000000000000aa"],
      some (.action "action_th_t_6500000000000000000000aa"),
      some (.action "action_th_h_6500000000000000000000aa"), 2) := by
    decide +kernel
  obtain ⟨t, ht, hvalues⟩ := Option.map_eq_some_iff.mp hend
  simp only [Prod.mk.injEq] at hvalues
  obtain ⟨hruns, -⟩ := Tour.runs ht
  exact ⟨t.events, t.pool, hruns, calls_exclusive hruns, hvalues⟩

end Sync

end Telemetry
