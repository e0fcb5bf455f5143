import Telemetry.Proofs.Sync.Calls
import Telemetry.Proofs.Tour
import Telemetry.Sync.Pool

/-!
# The order in which groups are written makes no difference

* `LocalBroker`: a broker whose answer to a request about a resource depends on the earlier requests
  about that resource alone.
* `independent_groups`: the groups of an experiment do not notice each other there.
* `pool_eq_sequential`: however the groups of an experiment are written side by side, the report and
  the calls on every resource are those of writing one group after the other.
-/

namespace Telemetry.Sync

/-- A broker whose answer to a request about a resource depends on the earlier requests about that
resource alone. -/
structure LocalBroker where
  reply : (past : List BrokerRequest) → (r : BrokerRequest) → r.Answer
  reply_eq : ∀ {past past' : List BrokerRequest} {r : BrokerRequest} {k : Resource},
    r.resource? = some k → callsOn k past = callsOn k past' → reply past r = reply past' r

namespace LocalBroker

/-- The steps of a sync that nobody gives up on, when the broker has had these requests. -/
def answer (b : LocalBroker) : (q : SyncStep) → List BrokerRequest →
    q.Answer × List BrokerRequest
  | .isCancelled, past => (false, past)
  | .request r, past => (b.reply past r, past ++ [r])
  | .log _, past => ((), past)

/-- The broker takes note of the request of a step. -/
theorem answer_snd (b : LocalBroker) (q : SyncStep) (past : List BrokerRequest) :
    (b.answer q past).2 = past ++ q.request?.toList := by
  cases q <;> simp [answer, SyncStep.request?]

/-- The broker has had the requests of a dialogue. -/
theorem run_snd {α : Type} (b : LocalBroker) (d : SyncDialogue α) (past : List BrokerRequest) :
    (d.run b.answer past).2 = past ++ requests (d.questions b.answer past) := by
  induction d generalizing past with
  | done a => simp [Dialogue.run, Dialogue.questions, requests]
  | ask q next ih =>
    have hstep := b.answer_snd q past
    simp only [Dialogue.run, Dialogue.questions, requests, List.filterMap_cons]
    rw [ih, hstep]
    cases hq : q.request? with
    | none => simp [requests]
    | some r => simp [requests]

/-- The broker has had the requests of a run. -/
theorem after_state (b : LocalBroker) (es : List (PoolEvent SyncStep SyncStep.Answer))
    (past : List BrokerRequest) :
    (Surroundings.after b.answer past es).state = past ++ requests (Pool.questions es) := by
  refine Surroundings.after_induct (fun qs t => t = past ++ requests qs) (by simp [requests]) ?_ es
  rintro qs q t rfl
  rw [answer_snd, requests_append, List.append_assoc]
  cases hq : q.request? <;> simp [requests, hq]

end LocalBroker

/-! ## Groups do not notice each other -/

/-- Two brokers that have had the same calls on what a group owns. -/
def SameCalls (gs : List (List PlannedRoute)) (i : Nat) (past past' : List BrokerRequest) : Prop :=
  ∀ k, Owner gs i k → callsOn k past = callsOn k past'

/-- The groups of an experiment do not notice each other. -/
theorem independent_groups (e : CompleteExperiment) (policy : NamingPolicy)
    (listed : List RemoteAction) (connector : String) (b : LocalBroker) :
    Independent b.answer
      ((groups (plan listed (e.routes policy))).map (syncGroup listed connector))
      (fun i => SyncStep.CallsOnly (Owner (groups (plan listed (e.routes policy))) i))
      (SameCalls (groups (plan listed (e.routes policy)))) where
  equivalence i :=
    ⟨fun _ _ _ => rfl, fun h k hk => (h k hk).symm, fun h h' k hk => (h k hk).trans (h' k hk)⟩
  asksOnly := asksOnly_owner
  answer_eq := by
    intro i q past past' hq hsame
    cases q with
    | isCancelled => rfl
    | log event => rfl
    | request r =>
      obtain ⟨k, hr, hk⟩ := hq r rfl
      exact b.reply_eq hr (hsame k hk)
  answer_alike := by
    intro i q past past' _ hsame k hk
    rw [b.answer_snd, b.answer_snd, callsOn_append, callsOn_append, hsame k hk]
  frame := by
    intro i j q past hij hq k hk
    rw [b.answer_snd]
    cases hr : q.request? with
    | none => simp
    | some r =>
      obtain ⟨k', hk', hown⟩ := hq r hr
      refine callsOn_concat_of_ne ?_ past
      rintro h
      obtain rfl : k' = k := by simpa [hk'] using h
      exact hij (owner_unique hown hk)

/-! ## One group after the other -/

theorem syncGroups_eq_mapM (listed : List RemoteAction) (connector : String)
    (gs : List (List PlannedRoute)) : syncGroups listed connector gs =
      List.flatten <$> (gs.map (syncGroup listed connector)).mapM id := by
  induction gs with
  | nil => rfl
  | cons g gs ih => simp [syncGroups, ih, List.mapM_cons]

/-- The places of the outcomes of a group are those of its routes. -/
theorem map_index_syncGroup {σ : Type} (answer : (q : SyncStep) → σ → q.Answer × σ)
    (listed : List RemoteAction) (connector : String) (g : List PlannedRoute) (s : σ) :
    ((syncGroup listed connector g).run answer s).1.map (·.1) = g.map PlannedRoute.index := by
  induction g generalizing s with
  | nil => rfl
  | cons p ps ih =>
    simp only [syncGroup, Dialogue.run_bind, Dialogue.run_pure, List.map_cons]
    rw [ih]

/-- The outcomes of all groups have different places. -/
theorem nodup_outcomes {σ : Type} (answer : (q : SyncStep) → σ → q.Answer × σ)
    (listed : List RemoteAction) (connector : String) (rs : List Route) (s : σ) :
    ((((groups (plan listed rs)).map (syncGroup listed connector)).map
      fun d => (d.run answer s).1).flatten.map (·.1)).Nodup := by
  have hindex := nodup_index_groups listed rs
  rw [List.map_flatten] at hindex ⊢
  rw [List.map_map, List.map_map]
  simpa only [Function.comp_def, map_index_syncGroup] using hindex

/-- Writing routes asks what its groups ask. -/
theorem asksOnly_apply (listed : List RemoteAction) (connector : String) (rs : List Route) :
    (apply listed connector rs).AsksOnly
      (SyncStep.CallsOnly fun k => ∃ i, Owner (groups (plan listed rs)) i k) := by
  refine .bind ?_ fun outcomes => (asksOnly_log _).bind fun _ => Dialogue.asksOnly_pure _
  rw [syncGroups_eq_mapM, ← bind_pure_comp]
  refine .bind (.mapM fun d hd => ?_) fun outcomes => Dialogue.asksOnly_pure _
  obtain ⟨i, hi⟩ := List.getElem?_of_mem hd
  exact (asksOnly_owner hi).mono fun q hq => hq.mono fun k hk => ⟨i, hk⟩

/-- What comes of writing routes one group after the other, and then telling of it. -/
theorem run_apply_answer {σ : Type} (answer : (q : SyncStep) → σ → q.Answer × σ)
    (listed : List RemoteAction) (connector : String) (rs : List Route) (s : σ) :
    (apply listed connector rs).run answer s =
      let outcomes := (((groups (plan listed rs)).map (syncGroup listed connector)).mapM id).run
        answer s
      (.ofOutcomes outcomes.1.flatten,
        (answer (.log (finished (.ofOutcomes outcomes.1.flatten))) outcomes.2).2) := by
  rw [apply, Dialogue.run_bind, syncGroups_eq_mapM, Dialogue.run_map]
  rfl

/-- What writing routes one group after the other asks. -/
theorem requests_apply {σ : Type} (answer : (q : SyncStep) → σ → q.Answer × σ)
    (listed : List RemoteAction) (connector : String) (rs : List Route) (s : σ) :
    requests ((apply listed connector rs).questions answer s) =
      requests ((((groups (plan listed rs)).map (syncGroup listed connector)).mapM id).questions
        answer s) := by
  rw [apply, Dialogue.questions_bind, syncGroups_eq_mapM, Dialogue.questions_map, requests_append]
  exact List.append_nil _

/-- What comes of writing routes one group after the other. -/
theorem run_apply (b : LocalBroker) (listed : List RemoteAction) (connector : String)
    (rs : List Route) (past : List BrokerRequest) :
    (apply listed connector rs).run b.answer past =
      (.ofOutcomes ((((groups (plan listed rs)).map (syncGroup listed connector)).mapM id).run
          b.answer past).1.flatten,
        (((groups (plan listed rs)).map (syncGroup listed connector)).mapM id).run
          b.answer past |>.2) :=
  run_apply_answer b.answer listed connector rs past

/-! ## Every schedule -/

/-- However the groups of an experiment are written side by side, with whatever was listed, when
the broker's answers to the requests about a resource depend on the earlier requests about it and
nobody gives up: there is no endless run, every run can go on to its end, and at the end the report
is that of writing one group after the other, and so are the calls on every resource. -/
theorem pool_eq_sequential (e : CompleteExperiment) (policy : NamingPolicy)
    (listed : List RemoteAction) (connector : String) (b : LocalBroker)
    (past : List BrokerRequest) {bound : Nat} (hb : 0 < bound) {p : SyncPool}
    {es : List (PoolEvent SyncStep SyncStep.Answer)}
    (hr : Pool.Runs bound (pool listed connector (e.routes policy)) es p)
    (hs : Pool.Served b.answer past es) :
    (WellFounded fun p' p : SyncPool => ∃ e, Pool.Step bound p e p') ∧
    (∃ es' p', Pool.Runs bound p es' p' ∧ p'.isFinished = true ∧
      Pool.Served b.answer past (es ++ es')) ∧
    (p.isFinished = true →
      report? p = some ((apply listed connector (e.routes policy)).run b.answer past).1 ∧
      ∀ k, callsOn k (requests (Pool.questions es)) =
        callsOn k (requests ((apply listed connector (e.routes policy)).questions
          b.answer past))) := by
  refine ⟨Pool.wellFounded_step bound, Pool.exists_served_end hb p hs, fun hp => ?_⟩
  have hind := independent_groups e policy listed connector b
  obtain ⟨hresults, halike⟩ := hind.run_inOrder past
  refine ⟨?_, fun k => ?_⟩
  · have hperm := (hind.completed_perm hr hs hp).flatten
    have hnodup := nodup_outcomes b.answer listed connector (e.routes policy) past
    rw [report?, if_pos hp, run_apply, hresults, Report.ofOutcomes_eq hperm.symm hnodup]
  by_cases hk : ∃ i, Owner (groups (plan listed (e.routes policy))) i k
  · -- A resource of a group has the calls of that group alone, in the pool and in sequence.
    obtain ⟨i, hi⟩ := hk
    obtain ⟨g, hg, -⟩ := id hi
    have hd : ((groups (plan listed (e.routes policy))).map (syncGroup listed connector))[i]? =
        some (syncGroup listed connector g) := by rw [List.getElem?_map, hg, Option.map_some]
    have hpool := (hind.run_alone hr hs hp hd).2 k hi
    have hsequence := halike hd k hi
    have hsame := hpool.trans hsequence.symm
    rw [b.after_state, ← congrArg Prod.snd (run_apply b listed connector _ past), b.run_snd,
      callsOn_append, callsOn_append] at hsame
    exact List.append_cancel_left hsame
  · have hpool : ∀ q ∈ Pool.questions es, q.CallsOnly fun k =>
        ∃ i, Owner (groups (plan listed (e.routes policy))) i k := by
      intro q hq
      obtain ⟨i, hq⟩ := Pool.mem_questions.mp hq
      exact (hr.asked (fun _ _ => hind.asksOnly) hq).2.mono fun k hk => ⟨i, hk⟩
    have hsequence := (asksOnly_apply listed connector (e.routes policy)).questions b.answer past
    rw [callsOn_requests_eq_nil hpool hk, callsOn_requests_eq_nil hsequence hk]

/-- A broker that accepts everything but to create a rule that is there. -/
def LocalBroker.accepting : LocalBroker where
  reply past r :=
    match r with
    | .listActions => (.ok [] : Except Error (List RemoteAction))
    | .createAction _ => (.ok () : Except Error Unit)
    | .updateAction .. => (.ok () : Except Error Unit)
    | .createRule p =>
      if (callsOn (.rule p.id) past).isEmpty then (.ok .created : Except Error RuleCreation)
      else (.ok (.rejected 400 "ALREADY_EXISTS") : Except Error RuleCreation)
    | .updateRule .. => (.ok () : Except Error Unit)
  reply_eq := by
    intro past past' r k hk h
    cases r with
    | createRule p =>
      obtain rfl : Resource.rule p.id = k := Option.some.inj hk
      simp only [h]
    | listActions => rfl
    | createAction => rfl
    | updateAction => rfl
    | updateRule => rfl

/-- A device with three characteristics, two of which write the same measurement. -/
def threeStreams : CompleteExperiment where
  id := "6500000000000000000000aa"
  description := ""
  devices := [{
    slot := "sensor_0"
    sensorId := "650000000000000000000001"
    name := "Thermo"
    shortName := "th"
    address := "AA:BB"
    services := [⟨"env", ["t", "h", "t."].map fun name =>
      ⟨name, name, { struct := some ⟨[]⟩ }, some ("env/" ++ name)⟩⟩]
    whiteboard := [] }]

/-- Two groups that take turns: the calls are made in another order than one group after the other,
and yet the report is the same. -/
theorem pool_eq_sequential_threeStreams : ∃ es p,
    Pool.Runs 2 (pool [] "influx" (threeStreams.routes .standard)) es p ∧
    Pool.Served LocalBroker.accepting.answer [] es ∧
    report? p = some ((apply [] "influx" (threeStreams.routes .standard)).run
      LocalBroker.accepting.answer []).1 ∧
    (requests (Pool.questions es)).map BrokerRequest.subject ≠
      (requests ((apply [] "influx" (threeStreams.routes .standard)).questions
        LocalBroker.accepting.answer [])).map BrokerRequest.subject := by
  let places := (List.replicate 9 [0, 1]).flatten ++ List.replicate 12 0
  let tour := (Tour.start (pool [] "influx" (threeStreams.routes .standard)) []).visits
    LocalBroker.accepting.answer 2 places
  have hend : tour.map (fun t => (t.pool.isFinished,
      (requests (Pool.questions t.events)).map BrokerRequest.subject ==
      (requests ((apply [] "influx" (threeStreams.routes .standard)).questions
        LocalBroker.accepting.answer [])).map BrokerRequest.subject)) = some (true, false) := by
    decide +kernel
  obtain ⟨t, ht, hfinished, horder⟩ : ∃ t, tour = some t ∧ t.pool.isFinished = true ∧
      ((requests (Pool.questions t.events)).map BrokerRequest.subject ==
        (requests ((apply [] "influx" (threeStreams.routes .standard)).questions
          LocalBroker.accepting.answer [])).map BrokerRequest.subject) = false := by
    simpa using hend
  obtain ⟨hruns, hserved⟩ := Tour.runs ht
  obtain ⟨-, -, hreport⟩ := pool_eq_sequential threeStreams .standard [] "influx"
    LocalBroker.accepting [] (by decide) hruns hserved
  exact ⟨t.events, t.pool, hruns, hserved, (hreport hfinished).1, by simpa using horder⟩

end Telemetry.Sync
