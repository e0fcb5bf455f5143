import Telemetry.Join
import Telemetry.Proofs.Line.Reading
import Telemetry.Proofs.Sync.Course
import Telemetry.Proofs.Tour

/-!
# What a complete sync leaves behind

The broker keeps the last body that it receives for an action and for a rule. Sources whose actions
have the same name are written one after the other, so that the last one stays.

* `Routed`: a rule that stayed selects from the topic of a source and feeds an action that stayed
  and that writes the measurement of the source.
* `plays_syncGroup`: the requests of a group that succeeded end with those of its last route.
* `complete_sync_last_namesake`: a complete sync leaves the rule and the action of the last source
  of every name; `sharedSensor_unrouted`: so a source may be left without a rule.
-/

namespace Telemetry

namespace BrokerRequest

/-- The body of an action that a request sends. -/
def actionBody? : BrokerRequest → Option ActionPayload
  | .createAction p | .updateAction _ p => some p
  | .listActions | .createRule _ | .updateRule .. => none

/-- The body of a rule that a request sends. -/
def ruleBody? : BrokerRequest → Option RulePayload
  | .createRule p | .updateRule _ p => some p
  | .listActions | .createAction _ | .updateAction .. => none

end BrokerRequest

/-- The rule selects from a topic: its text is that of a selection, and ends with the topic. -/
structure RulePayload.SelectsFrom (p : RulePayload) (topic : String) : Prop where
  selection : ∃ s : Selection, p.sql = s.sql topic
  source : ∃ head, p.sql = head ++ (" FROM \"" ++ topic ++ "\"")

/-- The action writes a measurement: its text is a line of this measurement, which is also what is
read there. -/
structure ActionPayload.Writes (p : ActionPayload) (measurement : String) : Prop where
  line : ∃ line : LineReading, line.measurement = measurement ∧
    p.parameters.writeSyntax = line.text
  read : writtenMeasurement p.parameters.writeSyntax = measurement

/-- The text of a selection ends with its topic. -/
theorem Selection.exists_sql (s : Selection) (topic : String) :
    ∃ head, s.sql topic = head ++ (" FROM \"" ++ topic ++ "\"") := by
  cases s with
  | wildcard => exact ⟨_, rfl⟩
  | projections items => exact ⟨_, rfl⟩
  | forEach array element items => exact ⟨_, rfl⟩

namespace Sync

/-- The last body that the broker received for an action. -/
def lastAction? (name : String) (rs : List BrokerRequest) : Option ActionPayload :=
  (callsOn (.action name) rs).getLast?.bind BrokerRequest.actionBody?

/-- The last body that the broker received for a rule. -/
def lastRule? (id : String) (rs : List BrokerRequest) : Option RulePayload :=
  (callsOn (.rule id) rs).getLast?.bind BrokerRequest.ruleBody?

/-- Of the bodies that the broker received last, a rule selects from the topic of a source and feeds
an action that writes its measurement. -/
def Routed (rs : List BrokerRequest) (s : Source) : Prop :=
  ∃ id rule name action, lastRule? id rs = some rule ∧ rule.SelectsFrom s.topic ∧
    actionId name ∈ rule.actions ∧ lastAction? name rs = some action ∧
    action.Writes s.measurement

/-! ## The requests of a route -/

/-- The requests that a route makes until it is written: its action, its rule, and the rule once
more if it was refused. -/
def PlannedRoute.Written (p : PlannedRoute) (rs : List BrokerRequest) : Prop :=
  ∃ r body, r.resource? = some (.action p.actionName) ∧ r.actionBody? = some body ∧
    body.parameters.writeSyntax = p.route.action.writeSyntax ∧
    (rs = [r, .createRule (.ofRule p.route.rule)] ∨
      rs = [r, .createRule (.ofRule p.route.rule),
        .updateRule p.route.rule.id (.ofRule p.route.rule)])

/-- The requests of some exchanges. -/
def requested (l : List (Exchange SyncStep SyncStep.Answer)) : List BrokerRequest :=
  requests (l.map Exchange.question)

theorem requested_append (l l' : List (Exchange SyncStep SyncStep.Answer)) :
    requested (l ++ l') = requested l ++ requested l' := by
  simp [requested, requests]

variable {l : List (Exchange SyncStep SyncStep.Answer)} {listed : List RemoteAction}
  {connector : String} {p : PlannedRoute}

theorem requested_report {measurement : String} {status : RouteStatus} {x : Unit}
    (h : (report measurement status).Plays l (.done x)) : requested l = [] := by
  cases status with
  | synced =>
    obtain ⟨rfl, -⟩ := Dialogue.plays_pure h
    rfl
  | failed stage error =>
    rw [Dialogue.plays_question h]
    rfl

/-- The action of a route is written with its syntax. -/
theorem exists_body_actionRequest (listed : List RemoteAction) (connector : String)
    (p : PlannedRoute) : ∃ body, (p.actionRequest listed connector).actionBody? = some body ∧
      body.parameters.writeSyntax = p.route.action.writeSyntax := by
  unfold PlannedRoute.actionRequest
  split <;> exact ⟨_, rfl, rfl⟩

/-- A route that is synced has made all its requests. -/
theorem plays_sync {action : ActionStep} {rule : RuleStep}
    (h : (p.sync listed connector).Plays l (.done (.synced action rule))) :
    p.Written (requested l) := by
  obtain ⟨body, hbody, hline⟩ := exists_body_actionRequest listed connector p
  have hdone : requested (p.actionDone listed connector) = [p.actionRequest listed connector] := by
    simp only [requested, PlannedRoute.actionDone, List.map_cons, question_actionExchange]
    rfl
  refine ⟨_, body, resource?_actionRequest, hbody, hline, ?_⟩
  cases plays_sync_ends h with
  | created => exact .inl (by rw [requested_append, hdone]; rfl)
  | replaced status text => exact .inr (by rw [requested_append, hdone]; rfl)

/-- The requests of a group that succeeded end with those of its last route. -/
theorem plays_syncGroup {g : List PlannedRoute} {outcomes : List (Nat × RouteOutcome)}
    (h : (syncGroup listed connector g).Plays l (.done outcomes))
    (hall : ∀ o ∈ outcomes, o.2.succeeded = true) (hp : g.getLast? = some p) :
    ∃ pre rs, requested l = pre ++ rs ∧ p.Written rs := by
  induction g generalizing l outcomes with
  | nil => cases hp
  | cons p' ps ih =>
    obtain ⟨l₁, status, l₂, l₃, rest, rfl, h₁, h₂, h₃, rfl⟩ := plays_syncGroup_cons.mp h
    rw [requested_append, requested_append, requested_report h₂, List.nil_append]
    cases ps with
    | nil =>
      obtain rfl : p' = p := by simpa using hp
      obtain ⟨rfl, -⟩ := Dialogue.plays_pure h₃
      have hstatus := hall (p'.index, p'.outcome status) (by simp)
      cases status with
      | failed stage error => cases hstatus
      | synced action rule => exact ⟨[], requested l₁, List.append_nil _, plays_sync h₁⟩
    | cons p'' ps =>
      have hp : (p'' :: ps).getLast? = some p := by simpa using hp
      obtain ⟨pre, rs, hrest, hwritten⟩ := ih h₃ (fun o ho => hall o (by simp [ho])) hp
      exact ⟨requested l₁ ++ pre, rs, by rw [hrest, List.append_assoc], hwritten⟩

/-! ## What stays -/

theorem PlannedRoute.Written.lastAction_eq {rs : List BrokerRequest} (h : p.Written rs)
    (pre : List BrokerRequest) : ∃ body, lastAction? p.actionName (pre ++ rs) = some body ∧
      body.parameters.writeSyntax = p.route.action.writeSyntax := by
  obtain ⟨r, body, hresource, hbody, hline, hrs⟩ := h
  refine ⟨body, ?_, hline⟩
  have hcalls : callsOn (.action p.actionName) rs = [r] := by
    obtain rfl | rfl := hrs <;> simp [callsOn, hresource]
  rw [lastAction?, callsOn_append, hcalls, List.getLast?_concat]
  exact hbody

theorem PlannedRoute.Written.lastRule_eq {rs : List BrokerRequest} (h : p.Written rs)
    (pre : List BrokerRequest) :
    lastRule? p.route.rule.id (pre ++ rs) = some (.ofRule p.route.rule) := by
  obtain ⟨r, body, hresource, hbody, hline, rfl | rfl⟩ := h
  · have hcalls : callsOn (.rule p.route.rule.id) [r, .createRule (.ofRule p.route.rule)] =
        [.createRule (.ofRule p.route.rule)] := by
      simp [callsOn, hresource]
    rw [lastRule?, callsOn_append, hcalls, List.getLast?_concat]
    rfl
  · have hcalls : callsOn (.rule p.route.rule.id) [r, .createRule (.ofRule p.route.rule),
        .updateRule p.route.rule.id (.ofRule p.route.rule)] =
        [.createRule (.ofRule p.route.rule)] ++
          [.updateRule p.route.rule.id (.ofRule p.route.rule)] := by
      simp [callsOn, hresource]
    rw [lastRule?, callsOn_append, hcalls, ← List.append_assoc, List.getLast?_concat]
    rfl

/-- The calls on a resource are those of the place that owns it. -/
theorem callsOn_asks {gs : List (List PlannedRoute)}
    {es : List (PoolEvent SyncStep SyncStep.Answer)} {i : Nat} {k : Resource}
    (hasked : ∀ j q, .asked j q ∈ es → q.CallsOnly (Owner gs j))
    (howner : ∀ j, Owner gs j k → j = i) :
    callsOn k (requests (Pool.questions es)) = callsOn k (requests (Pool.asks i es)) := by
  induction es with
  | nil => rfl
  | cons e es ih =>
    have ih := ih fun j q hq => hasked j q (by simp [hq])
    cases e with
    | opened j => exact ih
    | answered j q x => exact ih
    | asked j q =>
      have hcons : ∀ qs, requests (q :: qs) = requests [q] ++ requests qs :=
        fun qs => List.filterMap_append (l := [q])
      have hquestions : Pool.questions (.asked j q :: es) = q :: Pool.questions es := rfl
      by_cases hj : j = i
      · have hask : Pool.asks i (.asked j q :: es) = q :: Pool.asks i es := by
          simp [Pool.asks, hj]
        rw [hquestions, hask, hcons (Pool.questions es), hcons (Pool.asks i es), callsOn_append,
          callsOn_append, ih]
      · have hask : Pool.asks i (.asked j q :: es) = Pool.asks i es := by
          simp [Pool.asks, hj]
        have hnone : callsOn k (requests [q]) = [] :=
          callsOn_requests_eq_nil (by simpa using hasked j q (by simp)) fun h => hj (howner j h)
        rw [hquestions, hask, hcons, callsOn_append, hnone, List.nil_append, ih]

section Run

variable {e : CompleteExperiment} {policy : NamingPolicy} {bound : Nat}
  {es : List (PoolEvent SyncStep SyncStep.Answer)} {q : SyncPool}

/-- Nobody but a group calls on what it owns. -/
theorem callsOn_owned (hr : Pool.Runs bound (pool listed connector (e.routes policy)) es q)
    {i : Nat} {k : Resource} (hk : Owner (groups (plan listed (e.routes policy))) i k) :
    callsOn k (requests (Pool.questions es)) = callsOn k (requests (Pool.asks i es)) :=
  callsOn_asks (fun _ _ hq => (hr.asked (fun _ _ hd => asksOnly_owner hd) hq).2)
    fun _ hj => owner_unique hj hk

/-- A group of a complete report has made the requests of its last route at last. -/
theorem group_requests (hr : Pool.Runs bound (pool listed connector (e.routes policy)) es q)
    (hfinished : q.isFinished = true)
    (hc : (Report.ofOutcomes q.completed.flatten).isComplete = true) {i : Nat}
    {g : List PlannedRoute} (hg : (groups (plan listed (e.routes policy)))[i]? = some g)
    (hp : g.getLast? = some p) :
    ∃ pre rs, requests (Pool.asks i es) = pre ++ rs ∧ p.Written rs := by
  have hd : ((groups (plan listed (e.routes policy))).map (syncGroup listed connector))[i]? =
      some (syncGroup listed connector g) := by rw [List.getElem?_map, hg, Option.map_some]
  obtain ⟨m, hm, hplays, hasks⟩ := hr.standing hd
  have hmem := List.mem_of_getElem? hm
  obtain ⟨outcomes, rfl⟩ := Pool.exists_result hfinished hmem
  have hall : ∀ o ∈ outcomes, o.2.succeeded = true := by
    intro o ho
    have hcompleted : outcomes ∈ q.completed :=
      (hr.completed_perm (Pool.completed_ofDialogues _)).mem_iff.mpr
        (List.mem_filterMap.mpr ⟨_, hmem, rfl⟩)
    rw [Report.isComplete_ofOutcomes] at hc
    exact List.all_eq_true.mp hc o (List.mem_flatten_of_mem hcompleted ho)
  obtain ⟨pre, rs, hrequested, hwritten⟩ := plays_syncGroup hplays hall hp
  refine ⟨pre, rs, ?_, hwritten⟩
  rw [hasks, ← hrequested]
  simp [Participant.owed, requested]

theorem report?_eq_some {report : Report} (h : report? q = some report) :
    q.isFinished = true ∧ Report.ofOutcomes q.completed.flatten = report := by
  unfold report? at h
  split at h
  · next hfinished => exact ⟨hfinished, Option.some.inj h⟩
  · cases h

/-- Of a group of a complete report, the action and the rule of the last route stay. -/
theorem group_stays {report : Report}
    (hr : Pool.Runs bound (pool listed connector (e.routes policy)) es q)
    (hreport : report? q = some report) (hc : report.isComplete = true)
    {g : List PlannedRoute} (hg : g ∈ groups (plan listed (e.routes policy)))
    (hp : g.getLast? = some p) :
    lastRule? p.route.rule.id (requests (Pool.questions es)) = some (.ofRule p.route.rule) ∧
      ∃ body, lastAction? p.actionName (requests (Pool.questions es)) = some body ∧
        body.parameters.writeSyntax = p.route.action.writeSyntax := by
  obtain ⟨hfinished, rfl⟩ := report?_eq_some hreport
  obtain ⟨i, hi⟩ := List.getElem?_of_mem hg
  obtain ⟨pre, rs, hplace, hwritten⟩ := group_requests hr hfinished hc hi hp
  have hown : ∀ k, p.Owns k →
      callsOn k (requests (Pool.questions es)) = callsOn k (pre ++ rs) := by
    intro k hk
    rw [callsOn_owned hr ⟨g, hi, p, List.mem_of_getLast? hp, hk⟩, hplace]
  obtain ⟨body, hbody, hline⟩ := hwritten.lastAction_eq pre
  refine ⟨?_, body, ?_, hline⟩
  · rw [lastRule?, hown _ (.inr rfl)]
    exact hwritten.lastRule_eq pre
  · rw [lastAction?, hown _ (.inl rfl)]
    exact hbody

end Run

end Sync

/-- The last source of an experiment whose action has the same name as that of a source. -/
def CompleteExperiment.lastNamesake? (e : CompleteExperiment) (policy : NamingPolicy)
    (s : Source) : Option Source :=
  (e.sources.filter (·.actionName e.id policy == s.actionName e.id policy)).getLast?

/-- Of sources that share an action, the last one is among the sources. -/
theorem CompleteExperiment.lastNamesake?_eq_some {e : CompleteExperiment} {policy : NamingPolicy}
    {s t : Source} (h : e.lastNamesake? policy s = some t) :
    t ∈ e.sources ∧ t.actionName e.id policy = s.actionName e.id policy := by
  have ht := List.mem_filter.mp (List.mem_of_getLast? h)
  exact ⟨ht.1, by simpa using ht.2⟩

theorem CompleteExperiment.exists_lastNamesake {e : CompleteExperiment} (policy : NamingPolicy)
    {s : Source} (hs : s ∈ e.sources) : ∃ t, e.lastNamesake? policy s = some t := by
  have hmem : s ∈ e.sources.filter (·.actionName e.id policy == s.actionName e.id policy) :=
    List.mem_filter.mpr ⟨hs, by simp⟩
  exact ⟨_, List.getLast?_eq_some_getLast (List.ne_nil_of_mem hmem)⟩

namespace Sync

/-- The sources that share an action are planned as one group, in their order. -/
theorem exists_group (listed : List RemoteAction) {e : CompleteExperiment} {policy : NamingPolicy}
    {s t : Source} (ht : e.lastNamesake? policy s = some t) :
    ∃ g ∈ groups (plan listed (e.routes policy)), ∃ p, g.getLast? = some p ∧
      p.route = t.route e.id policy := by
  let g := (plan listed (e.routes policy)).filter (·.actionName == s.actionName e.id policy)
  have hroutes : g.map PlannedRoute.route =
      (e.sources.filter (·.actionName e.id policy == s.actionName e.id policy)).map
        (·.route e.id policy) := by
    have hplan := map_route_plan listed (e.routes policy)
    have hfilter := congrArg
      (List.filter fun r : Route => r.action.name == s.actionName e.id policy) hplan
    rw [List.filter_map, CompleteExperiment.routes, List.filter_map] at hfilter
    exact hfilter
  have hlast : (g.map PlannedRoute.route).getLast? = some (t.route e.id policy) := by
    rw [hroutes, List.getLast?_map]
    exact congrArg (Option.map (·.route e.id policy)) ht
  rw [List.getLast?_map, Option.map_eq_some_iff] at hlast
  obtain ⟨p, hp, hroute⟩ := hlast
  refine ⟨g, List.mem_map.mpr ⟨s.actionName e.id policy, ?_, rfl⟩, p, hp, hroute⟩
  have hp := List.mem_filter.mp (List.mem_of_getLast? hp)
  rw [List.mem_eraseDups]
  exact List.mem_map.mpr ⟨p, hp.1, by simpa using hp.2⟩

/-- What a complete sync leaves behind, however its groups were written side by side and whatever
the broker answered: for every source, the rule and the action of the last source of the same name,
which writes the same measurement. So every source is routed that no later source of its name, with
another topic, replaced. -/
theorem complete_sync_last_namesake {e : CompleteExperiment} {policy : NamingPolicy}
    {listed : List RemoteAction} {connector : String} {bound : Nat}
    {es : List (PoolEvent SyncStep SyncStep.Answer)} {q : SyncPool} {report : Report}
    (hr : Pool.Runs bound (pool listed connector (e.routes policy)) es q)
    (hreport : report? q = some report) (hc : report.isComplete = true) {s : Source}
    (hs : s ∈ e.sources) :
    ∃ t, e.lastNamesake? policy s = some t ∧ t.measurement = s.measurement ∧
      lastRule? (s.route e.id policy).rule.id (requests (Pool.questions es)) =
        some (.ofRule (t.route e.id policy).rule) ∧
      (∃ body, lastAction? (s.actionName e.id policy) (requests (Pool.questions es)) = some body ∧
        body.parameters.writeSyntax = (t.line e.id).text ∧ body.Writes s.measurement) ∧
      (t.topic = s.topic → Routed (requests (Pool.questions es)) s) := by
  obtain ⟨t, ht⟩ := CompleteExperiment.exists_lastNamesake policy hs
  obtain ⟨htmem, hname⟩ := CompleteExperiment.lastNamesake?_eq_some ht
  obtain ⟨g, hg, p, hp, hroute⟩ := exists_group listed ht
  have hid : (t.route e.id policy).rule.id = (s.route e.id policy).rule.id :=
    (CompleteExperiment.ruleId_eq_iff (List.mem_map_of_mem htmem) (List.mem_map_of_mem hs)).mpr
      hname
  have hmeasurement : t.measurement = s.measurement := Source.measurement_eq htmem hs hname
  obtain ⟨hrule, body, hbody, hline⟩ := group_stays hr hreport hc hg hp
  have hpname : p.actionName = s.actionName e.id policy := by
    rw [PlannedRoute.actionName, hroute]
    exact hname
  rw [hroute] at hrule hline
  rw [hpname] at hbody
  rw [hid] at hrule
  have hwrites : body.Writes s.measurement := by
    refine ⟨⟨t.line e.id, hmeasurement, hline.trans (t.writeSyntax_eq e.id policy)⟩, ?_⟩
    rw [hline, ← hmeasurement]
    exact Source.writtenMeasurement_eq htmem e.id
  refine ⟨t, ht, hmeasurement, hrule, ⟨body, hbody, ?_, hwrites⟩, fun htopic => ?_⟩
  · exact hline.trans (t.writeSyntax_eq e.id policy)
  · refine ⟨_, _, _, _, hrule, ⟨⟨t.dispatch.selection, ?_⟩, ?_⟩, ?_, hbody, hwrites⟩
    · rw [← htopic]
      rfl
    · rw [← htopic]
      exact t.dispatch.selection.exists_sql t.topic
    · rw [← hname]
      exact List.mem_singleton.mpr rfl

/-! ## A source without a rule -/

/-- The text of a rule ends with the topic that it selects from. -/
theorem topic_suffix {rule : RulePayload} {topic : String} (h : rule.SelectsFrom topic) :
    (topic ++ "\"").toList <:+ rule.sql.toList := by
  obtain ⟨head, hsql⟩ := h.source
  refine ⟨(head ++ " FROM \"").toList, ?_⟩
  simp only [hsql, String.toList_append, List.append_assoc]

/-- A sensor with one characteristic. -/
def thermometer : Document :=
  [("name", .text "Thermo"),
    ("services", .list [.object [
      ("characteristics", .list [.object [("name", .text "Temperature"),
        ("structParser", .object [("fields", .list [.object [("name", .text "t")]])])]]),
      ("uuid", .text "env")]]),
    ("shortName", .text "th")]

/-- Two devices with that sensor. -/
def twoThermometers : List DeviceSlot :=
  ["AA:01", "AA:02"].map fun address => {
    sensorId := "650000000000000000000001"
    macAddress := address
    enabledServices := ["env"]
    name := none
    shortName := none
    dynamicSchema := none
    whiteboard := none }

/-- An experiment of these devices. -/
def sharedSensor : CompleteExperiment where
  id := "6500000000000000000000aa"
  description := ""
  devices := (twoThermometers.mapIdx fun i slot =>
    slot.join i "6500000000000000000000aa" "qiot" thermometer).filterMap Except.toOption

/-- The writing of these devices, from its beginning to its end. -/
def sharedSensorTour : Option (Tour SyncStep SyncStep.Answer (List (Nat × RouteOutcome)) Unit) :=
  (Tour.start (pool [] "influx" (sharedSensor.routes .standard)) ()).visits accepted 4
    (List.replicate 17 0)

/-- The action of both devices. -/
def sharedAction : String := "action_th_temperature_6500000000000000000000aa"

/-- The id of the rule of both devices. -/
def sharedRule : String := "rule_id_th_temperature_6500000000000000000000aa"

/-- The topic of the device with an address. -/
def thermometerTopic (address : String) : String :=
  "qiot/6500000000000000000000aa/Thermo/" ++ address ++ "/temperature"

/-- The report is complete, and the rule of the second device is the last one. -/
theorem sharedSensorTour_end : ∃ t, sharedSensorTour = some t ∧ t.pool.isFinished = true ∧
    (Report.ofOutcomes t.pool.completed.flatten).isComplete = true ∧
    (requests (Pool.questions t.events)).filterMap BrokerRequest.resource? =
      [.action sharedAction, .rule sharedRule, .action sharedAction, .rule sharedRule] ∧
    (lastRule? sharedRule (requests (Pool.questions t.events))).map (·.sql) =
      some (Selection.wildcard.sql (thermometerTopic "aa02")) := by
  have hend : sharedSensorTour.map (fun t => (t.pool.isFinished,
      t.pool.completed.flatten.all (·.2.succeeded),
      (requests (Pool.questions t.events)).filterMap BrokerRequest.resource?,
      (lastRule? sharedRule (requests (Pool.questions t.events))).map (·.sql))) =
    some (true, true,
      [.action sharedAction, .rule sharedRule, .action sharedAction, .rule sharedRule],
      some (Selection.wildcard.sql (thermometerTopic "aa02"))) := by
    decide +kernel
  simpa only [Option.map_eq_some_iff, Prod.mk.injEq, Report.isComplete_ofOutcomes] using hend

/-- The last namesake of both devices' sources is that of the second device. -/
theorem complete_sync_last_namesake_sharedSensor : ∃ es q report,
    Pool.Runs 4 (pool [] "influx" (sharedSensor.routes .standard)) es q ∧
    report? q = some report ∧ report.isComplete = true ∧ sharedSensor.sources.length = 2 ∧
    ∀ s ∈ sharedSensor.sources, ∃ t, sharedSensor.lastNamesake? .standard s = some t ∧
      lastRule? (s.route sharedSensor.id .standard).rule.id (requests (Pool.questions es)) =
        some (.ofRule (t.route sharedSensor.id .standard).rule) ∧
      ∃ body, lastAction? (s.actionName sharedSensor.id .standard)
        (requests (Pool.questions es)) = some body ∧ body.Writes s.measurement := by
  obtain ⟨t, ht, hfinished, hcomplete, -, -⟩ := sharedSensorTour_end
  obtain ⟨hruns, -⟩ := Tour.runs ht
  refine ⟨t.events, t.pool, _, hruns, if_pos hfinished, hcomplete, by decide +kernel,
    fun s hs => ?_⟩
  obtain ⟨t', ht', -, hrule, ⟨body, hbody, -, hwrites⟩, -⟩ :=
    complete_sync_last_namesake hruns (if_pos hfinished) hcomplete hs
  exact ⟨t', ht', hrule, body, hbody, hwrites⟩

/-- The rule of the second device replaces that of the first one, and yet the report is complete. -/
theorem sharedSensor_unrouted : ∃ es q report,
    Pool.Runs 4 (pool [] "influx" (sharedSensor.routes .standard)) es q ∧
    Pool.Served accepted () es ∧ report? q = some report ∧ report.isComplete = true ∧
    ∃ s ∈ sharedSensor.sources, ¬ Routed (requests (Pool.questions es)) s := by
  obtain ⟨t, ht, hfinished, hcomplete, hcalls, hsql⟩ := sharedSensorTour_end
  obtain ⟨hruns, hserved⟩ := Tour.runs ht
  obtain ⟨s, hs, htopic⟩ : ∃ s ∈ sharedSensor.sources, s.topic = thermometerTopic "aa01" := by
    have hmem : thermometerTopic "aa01" ∈ sharedSensor.sources.map Source.topic := by
      decide +kernel
    simpa using hmem
  refine ⟨t.events, t.pool, _, hruns, hserved, if_pos hfinished, hcomplete, s, hs, ?_⟩
  -- The only rule that stays is that of the second device.
  rintro ⟨id, rule, -, -, hrule, hselects, -⟩
  have hid : id = sharedRule := by
    obtain ⟨r, hr, -⟩ := Option.bind_eq_some_iff.mp hrule
    have hr := List.mem_filter.mp (List.mem_of_getLast? hr)
    have hmem : Resource.rule id ∈ (requests (Pool.questions t.events)).filterMap
        BrokerRequest.resource? := List.mem_filterMap.mpr ⟨r, hr.1, by simpa using hr.2⟩
    rw [hcalls] at hmem
    simpa using hmem
  rw [hid] at hrule
  rw [hrule, Option.map_some, Option.some.injEq] at hsql
  have hsuffix := topic_suffix hselects
  rw [hsql, htopic] at hsuffix
  exact absurd hsuffix (by decide +kernel)

end Sync

end Telemetry
