import Mathlib.Logic.Relation
import Telemetry.Proofs.Sync.Keeper
import Telemetry.Proofs.Sync.Outcomes
import Telemetry.Proofs.Sync.Sequence

/-!
# Syncs converge

* `Keeper.Syncs.outcomes`: in a sync in which nothing fails every route is written.
* `BrokerState.Gained`: the broker keeps what it kept, and the actions and rules of some routes.
* `AnySync`: what may come of a sync in which anything may fail, `AnySync.sync` that of writing one
  group after the other; `FlawlessSync`: every sync in which nothing fails ends so.
* `syncs_converge`: after whatever syncs, no name is there twice and nothing is lost; a sync in which
  nothing fails then adds what is missing, and one more changes nothing.
-/

namespace Telemetry

/-- The broker keeps what it kept, and beyond that the actions and the rules of these routes and
nothing else. -/
structure BrokerState.Gained (b : BrokerState) (rs : List Route) (b' : BrokerState) : Prop where
  actions : b.actions <+: b'.actions
  rules : b.rules <+: b'.rules
  mem_names : ∀ name, name ∈ b'.names ↔ name ∈ b.names ∨ ∃ r ∈ rs, r.action.name = name
  mem_rules : ∀ id, id ∈ b'.rules ↔ id ∈ b.rules ∨ ∃ r ∈ rs, r.rule.id = id

namespace Sync

/-! ## Routes in a sync in which nothing fails -/

section Route

variable {listed : List RemoteAction} {connector : String} {p : PlannedRoute}
  {l : List SyncExchange} {b b' : BrokerState}

/-- A request that is carried out does not fail. -/
theorem not_carried_failed {r : BrokerRequest} {e : Error} :
    ¬ Carried b (.request r) (r.failed e) b' := by
  rintro ⟨time, h⟩
  cases r <;> cases congrArg Prod.fst h

theorem not_carried_cancelled : ¬ Carried b .isCancelled true b' := by
  rintro ⟨h, -⟩
  cases h

theorem not_carried_actionExchange {e : Error} :
    ¬ Carried b (p.actionExchange listed connector (.error e)).question
      (p.actionExchange listed connector (.error e)).answer b' := by
  unfold PlannedRoute.actionExchange
  split
  · exact not_carried_failed
  · exact not_carried_failed

/-- A rule that is there is not created. -/
theorem not_carried_created {r : RuleSpec} (hid : r.id ∈ b.rules) :
    ¬ Carried b (.request (.createRule (.ofRule r))) (.ok .created : Except Error RuleCreation) b' := by
  rintro ⟨time, h⟩
  simp [BrokerState.perform, BrokerState.addRule, hid] at h
  cases h

/-- When nothing fails, a route is written. -/
theorem PlannedRoute.Ends.of_carried {status : RouteStatus} (h : p.Ends listed connector l status)
    (hl : ∀ x ∈ l, ∃ b b', Carried b x.question x.answer b') :
    p.actionExchange listed connector (.ok ()) ∈ l ∧ (∃ x, ruleCreation p.route.rule x ∈ l) ∧
      ∃ rule, status = .synced p.step rule ∧
        (rule = .created → ruleCreation p.route.rule (.ok .created) ∈ l) := by
  cases h with
  | skipped =>
    obtain ⟨b, b', hx⟩ := hl (look true) (by simp)
    exact (not_carried_cancelled hx).elim
  | action e =>
    obtain ⟨b, b', hx⟩ := hl (p.actionExchange listed connector (.error e)) (by simp)
    exact (not_carried_actionExchange hx).elim
  | ruleSkipped =>
    obtain ⟨b, b', hx⟩ := hl (look true) (by simp)
    exact (not_carried_cancelled hx).elim
  | rule e =>
    obtain ⟨b, b', hx⟩ := hl (ruleCreation p.route.rule (.error e)) (by simp)
    exact (not_carried_failed (r := .createRule (.ofRule p.route.rule)) hx).elim
  | created => exact ⟨by simp [actionDone], ⟨.ok .created, by simp⟩, .created, rfl, fun _ => by simp⟩
  | replacement status body e =>
    obtain ⟨b, b', hx⟩ := hl (ruleReplacement p.route.rule (.error e)) (by simp)
    exact (not_carried_failed (r := .updateRule p.route.rule.id (.ofRule p.route.rule)) hx).elim
  | replaced status body =>
    refine ⟨by simp [actionDone], ⟨.ok (.rejected status body), by simp⟩, .updated, rfl, ?_⟩
    intro h
    cases h

end Route

namespace Keeper

variable {σ : Type} {k : Keeper σ} {connector : String} {bound : Nat} {rs : List Route} {s s' : σ}
  {listed : List RemoteAction} {es : List SyncEvent} {p : SyncPool}

namespace Syncs

/-- Every exchange of a sync in which nothing fails is with a broker that has all that was there at
the beginning. -/
theorem carried (hk : k.Flawless) (h : k.Syncs connector bound rs s listed es p s') {i : Nat}
    {x : SyncExchange} (hx : x ∈ Pool.exchanges i es) :
    ∃ b b', (∀ r, (k.kept s).Has r → b.Has r) ∧ Carried b x.question x.answer b' := by
  obtain ⟨t, ht, hanswer⟩ := h.served.exists_state (fun t => ∀ r, (k.kept s).Has r → (k.kept t).Has r)
    (fun r hr => by rwa [kept_listing]) (fun q t ht r hr => (k.dealt q t).has (ht r hr))
    (Pool.mem_exchanges.mp hx)
  exact ⟨_, _, ht, hanswer ▸ hk x.question t⟩

/-- In a sync in which nothing fails every route is written: its action is created or replaced, as
planned, and its rule is asked for; a rule that was there is replaced. -/
theorem outcomes (hk : k.Flawless) (h : k.Syncs connector bound rs s listed es p s')
    {report : Report} (hreport : report? p = some report) :
    List.Forall₂ (fun pr o => pr.actionRequest listed connector ∈ requests (Pool.questions es) ∧
        .createRule (.ofRule pr.route.rule) ∈ requests (Pool.questions es) ∧
        ∃ rule, o = pr.outcome (.synced pr.step rule) ∧
          (rule = .created → pr.route.rule.id ∉ (k.kept s).rules))
      (plan listed rs) report.outcomes := by
  refine (report_outcomes h.runs hreport).imp ?_
  rintro pr o ⟨i, l, status, hl, hends, rfl⟩
  have hcarried : ∀ x ∈ l, ∃ b b', (∀ r, (k.kept s).Has r → b.Has r) ∧
      Carried b x.question x.answer b' := fun x hx => h.carried hk (hl.subset hx)
  obtain ⟨haction, ⟨x, hrule⟩, rule, rfl, hcreated⟩ := hends.of_carried fun x hx => by
    obtain ⟨b, b', -, hx⟩ := hcarried x hx
    exact ⟨b, b', hx⟩
  refine ⟨mem_requests_of_exchange h.runs (hl.subset haction) (question_actionExchange _),
    mem_requests_of_exchange h.runs (hl.subset hrule) rfl, rule, rfl, fun hrule hid => ?_⟩
  obtain ⟨b, b', hhas, hx⟩ := hcarried _ (hcreated hrule)
  exact not_carried_created (hhas (.createRule (.ofRule pr.route.rule)) hid) hx

/-- The action of every route is there after a sync in which nothing fails. -/
theorem has_action (hk : k.Flawless) (h : k.Syncs connector bound rs s listed es p s')
    {report : Report} (hreport : report? p = some report) {pr : PlannedRoute}
    (hpr : pr ∈ plan listed rs) : pr.actionName ∈ (k.kept s').names := by
  have hcreated : ∀ c ∈ plan listed rs, c.step = .create → c.actionName ∈ (k.kept s').names := by
    intro c hc hstep
    obtain ⟨-, -, hasked, -⟩ := exists_partner (h.outcomes hk hreport) hc
    rw [PlannedRoute.actionRequest, hstep] at hasked
    exact h.has hk _ hasked
  cases hstep : pr.step with
  | create => exact hcreated pr hpr hstep
  | update =>
    obtain hlisted | ⟨c, hc, hname, hcstep, -⟩ := exists_creator hpr hstep
    · rw [h.names_listed] at hlisted
      exact h.grown.names_subset hlisted
    · rw [← hname]
      exact hcreated c hc hcstep

/-- After a sync in which nothing fails there is what was there before, and the actions and the
rules of the routes. -/
theorem gained (hk : k.Flawless) (h : k.Syncs connector bound rs s listed es p s')
    {report : Report} (hreport : report? p = some report) :
    (k.kept s).Gained rs (k.kept s') where
  actions := h.grown.actions_prefix
  rules := h.grown.rules_prefix
  mem_names name := by
    constructor
    · intro hname
      obtain hname | hname := h.grown.mem_names hname
      · exact .inl hname
      · exact .inr (mem_creations h.runs hname).2
    · rintro (hname | ⟨r, hr, rfl⟩)
      · exact h.grown.names_subset hname
      · obtain ⟨pr, hpr, rfl⟩ := exists_planned listed hr
        exact h.has_action hk hreport hpr
  mem_rules id := by
    constructor
    · intro hid
      obtain hid | ⟨-, r, hr, hrule⟩ := h.grown.mem_rules hid
      · exact .inl hid
      · exact .inr (exists_route_of_rule h.runs hr hrule)
    · rintro (hid | ⟨r, hr, rfl⟩)
      · exact h.grown.rules_prefix.subset hid
      · obtain ⟨pr, hpr, rfl⟩ := exists_planned listed hr
        obtain ⟨-, -, -, hasked, -⟩ := exists_partner (h.outcomes hk hreport) hpr
        exact h.has hk _ hasked

/-- A sync in which nothing fails is complete. -/
theorem isComplete (hk : k.Flawless) (h : k.Syncs connector bound rs s listed es p s')
    {report : Report} (hreport : report? p = some report) : report.isComplete = true := by
  refine List.all_eq_true.mpr fun o ho => ?_
  obtain ⟨pr, -, -, -, rule, rfl, -⟩ := exists_partner (h.outcomes hk hreport).flip ho
  rfl

/-- A sync of routes whose actions and rules are there creates no action and changes nothing,
whatever fails and whenever the caller gives up. -/
theorem unchanged (h : k.Syncs connector bound rs s listed es p s')
    (hnames : ∀ r ∈ rs, r.action.name ∈ (k.kept s).names)
    (hrules : ∀ r ∈ rs, r.rule.id ∈ (k.kept s).rules) :
    creations (requests (Pool.questions es)) = [] ∧ k.kept s' = k.kept s := by
  have hnone : creations (requests (Pool.questions es)) = [] := by
    refine List.eq_nil_iff_forall_not_mem.mpr fun name hname => ?_
    obtain ⟨hnew, r, hr, rfl⟩ := mem_creations h.runs hname
    rw [h.names_listed] at hnew
    exact hnew (hnames r hr)
  refine ⟨hnone, ?_⟩
  obtain ⟨⟨as, has, hsub⟩, ⟨ids, hids, hnew⟩⟩ := h.grown
  obtain rfl : as = [] := by simpa [hnone] using hsub
  obtain rfl : ids = [] := by
    refine List.eq_nil_iff_forall_not_mem.mpr fun id hid => ?_
    obtain ⟨habsent, r, hr, hrule⟩ := hnew id hid
    obtain ⟨r, hr, rfl⟩ := exists_route_of_rule h.runs hr hrule
    exact habsent (hrules r hr)
  rw [List.append_nil] at has hids
  exact BrokerState.ext has hids

/-- When its actions and rules are there, every route is reported as replaced. -/
theorem outcomes_again (hk : k.Flawless) (h : k.Syncs connector bound rs s listed es p s')
    {report : Report} (hreport : report? p = some report)
    (hnames : ∀ r ∈ rs, r.action.name ∈ (k.kept s).names)
    (hrules : ∀ r ∈ rs, r.rule.id ∈ (k.kept s).rules) :
    report.outcomes =
      rs.map fun r => ⟨r.measurement, r.action.name, r.rule.id, .synced .update .updated⟩ := by
  have hthere : ∀ pr ∈ plan listed rs, pr.step = .update ∧ pr.route.rule.id ∈ (k.kept s).rules := by
    intro pr hpr
    have hroute := route_mem_of_mem_plan hpr
    refine ⟨?_, hrules _ hroute⟩
    cases hstep : pr.step with
    | update => rfl
    | create =>
      have hnew := (soleCreator_of_step hpr hstep).1
      rw [h.names_listed] at hnew
      exact absurd (hnames _ hroute) hnew
  have hsame : List.Forall₂ (· = ·) report.outcomes
      ((plan listed rs).map fun pr => pr.outcome (.synced .update .updated)) := by
    rw [List.forall₂_map_right_iff]
    refine ((List.forall₂_and_left _ _).mpr ⟨hthere, h.outcomes hk hreport⟩).flip.imp ?_
    rintro o pr ⟨⟨hstep, hid⟩, -, -, rule, rfl, hcreated⟩
    cases rule with
    | created => exact absurd hid (hcreated rfl)
    | updated => rw [hstep]
  rw [List.forall₂_eq_eq_eq] at hsame
  rw [hsame]
  calc (plan listed rs).map (fun pr => pr.outcome (.synced .update .updated))
      = ((plan listed rs).map PlannedRoute.route).map fun r =>
          ⟨r.measurement, r.action.name, r.rule.id, .synced .update .updated⟩ := by
        rw [List.map_map]
        rfl
    _ = _ := by rw [map_route_plan]

end Syncs

end Keeper

/-! ## Syncs after syncs -/

/-- What the broker may keep after a sync in which anything may fail, also if the sync does not come
to its end. -/
inductive AnySync : BrokerState → BrokerState → Prop
  | unlisted {σ : Type} (k : Keeper σ) (s : σ) {e : Error} :
      (k.answer (.request .listActions) s).1 = .error e →
      AnySync (k.kept s) (k.kept (k.listing s))
  | listed {σ : Type} {k : Keeper σ} {connector : String} {bound : Nat} {rs : List Route}
      {s s' : σ} {listed : List RemoteAction} {es : List SyncEvent} {p : SyncPool} :
      k.Syncs connector bound rs s listed es p s' → AnySync (k.kept s) (k.kept s')

/-- From `b`, every sync of the routes that nobody gives up on and in which nothing fails comes to
its end, be it that one group is written after the other or that they are written side by side in
whatever order, and then `P` holds of what the broker keeps, of the requests after the listing, and
of the report. -/
def FlawlessSync (b : BrokerState) (rs : List Route)
    (P : BrokerState → List BrokerRequest → Report → Prop) : Prop :=
  ∀ (σ : Type) (k : Keeper σ), k.Flawless → ∀ (connector : String) (s : σ), k.kept s = b →
    (∃ report s' calls, (sync connector rs).run k.answer s = (.ok report, s') ∧
      requests ((sync connector rs).questions k.answer s) = .listActions :: calls ∧
      P (k.kept s') calls report) ∧
    ∀ bound, 0 < bound → (WellFounded fun p' p : SyncPool => ∃ e, Pool.Step bound p e p') ∧
      ∀ listed es p s', k.Syncs connector bound rs s listed es p s' →
        (∃ es' p' s'', k.Syncs connector bound rs s listed (es ++ es') p' s'' ∧
          p'.isFinished = true) ∧
        (p.isFinished = true → ∃ report, report? p = some report ∧
          P (k.kept s') (requests (Pool.questions es)) report)

/-- No sync leaves a name twice, and none loses anything. -/
theorem AnySync.keeps {b b' : BrokerState} (h : AnySync b b') :
    (b.names.Nodup → b'.names.Nodup) ∧ b.actions <+: b'.actions ∧ b.rules <+: b'.rules := by
  cases h with
  | unlisted k s _ =>
    rw [Keeper.kept_listing]
    exact ⟨id, List.prefix_rfl, List.prefix_rfl⟩
  | listed h => exact ⟨h.nodup_names, h.grown.actions_prefix, h.grown.rules_prefix⟩

/-- A sync that writes one group after the other is such a sync. -/
theorem AnySync.sync {σ : Type} (k : Keeper σ) (connector : String) (rs : List Route) (s : σ) :
    AnySync (k.kept s) (k.kept ((Telemetry.sync connector rs).run k.answer s).2) := by
  cases hlisted : (k.answer (.request .listActions) s).1 with
  | error e =>
    have hfirst : (request .listActions).run k.answer s = (.error e, k.listing s) :=
      Prod.ext hlisted rfl
    rw [Telemetry.sync, Dialogue.run_bind, hfirst]
    exact .unlisted k s hlisted
  | ok listed =>
    obtain ⟨es, p, s', report, t, h, -, hrun, hkept, -⟩ :=
      k.sync_syncs Nat.one_pos connector rs hlisted
    rw [hrun, hkept]
    exact .listed h

/-- A sync in which nothing fails comes to its end. -/
theorem flawlessSync {b : BrokerState} {rs : List Route}
    {P : BrokerState → List BrokerRequest → Report → Prop}
    (hP : ∀ {σ : Type} {k : Keeper σ} {connector : String} {bound : Nat} {s s' : σ}
      {listed : List RemoteAction} {es : List SyncEvent} {p : SyncPool} {report : Report},
      k.Flawless → k.kept s = b → k.Syncs connector bound rs s listed es p s' →
      report? p = some report → P (k.kept s') (requests (Pool.questions es)) report) :
    FlawlessSync b rs P := by
  intro σ k hk connector s hs
  refine ⟨?_, fun bound hbound => ⟨Pool.wellFounded_step bound, fun listed es p s' h => ⟨?_, ?_⟩⟩⟩
  · obtain ⟨es, p, s', report, t, h, hreport, hrun, hkept, hcalls⟩ :=
      k.sync_syncs Nat.one_pos connector rs (hk.listed s)
    exact ⟨report, t, _, hrun, hcalls, hkept ▸ hP hk hs h hreport⟩
  · obtain ⟨es', p', hruns, hfinished, hserved⟩ := Pool.exists_served_end hbound p h.served
    exact ⟨es', p', _, ⟨h.listed_eq, h.runs.append hruns, hserved, rfl⟩, hfinished⟩
  · exact fun hfinished => ⟨_, if_pos hfinished, hP hk hs h (if_pos hfinished)⟩

/-- Whatever syncs there were, of whatever routes, with whatever failures and given up at any time:
no name is there twice if none was at first, and nothing is lost. A sync in which nothing fails is
then complete and leaves what was there and the actions and the rules of its routes; one more sync
of these routes is complete, creates no action, replaces every action and rule, and changes nothing. -/
theorem syncs_converge {b₀ b : BrokerState} (hnodup : b₀.names.Nodup)
    (h : Relation.ReflTransGen AnySync b₀ b) :
    (b.names.Nodup ∧ b₀.actions <+: b.actions ∧ b₀.rules <+: b.rules) ∧
    ∀ rs, FlawlessSync b rs fun b' _ report => report.isComplete = true ∧ b.Gained rs b' ∧
      FlawlessSync b' rs fun b'' calls again => again.isComplete = true ∧ creations calls = [] ∧
        again.outcomes =
          rs.map (fun r => ⟨r.measurement, r.action.name, r.rule.id, .synced .update .updated⟩) ∧
        b'' = b' := by
  refine ⟨?_, fun rs => ?_⟩
  · induction h with
    | refl => exact ⟨hnodup, List.prefix_rfl, List.prefix_rfl⟩
    | tail _ hstep ih =>
      obtain ⟨hnames, hactions, hrules⟩ := ih
      obtain ⟨hkeeps, hactions', hrules'⟩ := hstep.keeps
      exact ⟨hkeeps hnames, hactions.trans hactions', hrules.trans hrules'⟩
  refine flawlessSync ?_
  intro σ k connector bound s s' listed es p report hk hs h hreport
  have hgained := h.gained hk hreport
  rw [hs] at hgained
  refine ⟨h.isComplete hk hreport, hgained, ?_⟩
  -- Now the actions and the rules of the routes are there.
  have hnames : ∀ r ∈ rs, r.action.name ∈ (k.kept s').names :=
    fun r hr => (hgained.mem_names _).mpr (.inr ⟨r, hr, rfl⟩)
  have hrules : ∀ r ∈ rs, r.rule.id ∈ (k.kept s').rules :=
    fun r hr => (hgained.mem_rules _).mpr (.inr ⟨r, hr, rfl⟩)
  refine flawlessSync ?_
  intro σ' k' connector' bound' t t' listed' es' p' again hk' ht h' hagain
  rw [← ht] at hnames hrules ⊢
  obtain ⟨hnone, hsame⟩ := h'.unchanged hnames hrules
  exact ⟨h'.isComplete hk' hagain, hnone, h'.outcomes_again hk' hagain hnames hrules, hsame⟩

/-- The answers of a broker that carries out every request, when nobody gives up. -/
def carryOut : (q : SyncStep) → BrokerState → q.Answer × BrokerState
  | .isCancelled, b => (false, b)
  | .request r, b => b.perform .null r
  | .log _, b => ((), b)

theorem carried_carryOut (q : SyncStep) (b : BrokerState) :
    Carried b q (carryOut q b).1 (carryOut q b).2 := by
  cases q with
  | isCancelled => exact ⟨rfl, rfl⟩
  | request r => exact ⟨.null, rfl⟩
  | log => rfl

/-- Surroundings in which nothing fails. -/
def Keeper.faithful : Keeper BrokerState where
  answer := carryOut
  kept b := b
  dealt q b := (carried_carryOut q b).dealt

theorem Keeper.flawless_faithful : faithful.Flawless := carried_carryOut

/-- The broker carries out so many requests, then all others fail and the caller gives up. -/
def Keeper.interrupted : Keeper (BrokerState × Nat) where
  answer
    | .isCancelled, (b, n) => (n == 0, (b, n))
    | .request r, (b, 0) => (r.failed (.transport "connection lost"), (b, 0))
    | .request r, (b, n + 1) => ((b.perform .null r).1, ((b.perform .null r).2, n))
    | .log _, s => ((), s)
  kept s := s.1
  dealt := by
    rintro q ⟨b, n⟩
    cases q with
    | isCancelled => rfl
    | log => rfl
    | request r =>
      cases n with
      | zero => exact ⟨.null, .inr ⟨r.declined_failed _, .inl rfl⟩⟩
      | succ n => exact ⟨.null, .inl rfl⟩

/-- A broker that knows one of the actions of the three streams. -/
def knownStream : BrokerState := ⟨[⟨"action_th_h_6500000000000000000000aa", none, none, none⟩], []⟩

/-- A sync that is interrupted after it has created the action that was missing. -/
theorem interrupted_threeStreams : ∃ b, AnySync knownStream b ∧
    b.names = ["action_th_h_6500000000000000000000aa", "action_th_t_6500000000000000000000aa"] ∧
    b.rules = [] := by
  let tour := (Tour.start (pool knownStream.actions "influx" (threeStreams.routes .standard))
    (Keeper.interrupted.listing (knownStream, 2))).visits Keeper.interrupted.answer 2
      [0, 0, 0, 1, 1, 1, 0, 0, 1, 1, 0, 0]
  have hend : tour.map (fun t => (t.surroundings.state.1.names, t.surroundings.state.1.rules)) =
      some (["action_th_h_6500000000000000000000aa", "action_th_t_6500000000000000000000aa"],
        []) := by
    decide +kernel
  obtain ⟨t, ht, hkept⟩ := Option.map_eq_some_iff.mp hend
  obtain ⟨hnames, hrules⟩ := Prod.mk.inj hkept
  obtain ⟨hruns, hserved⟩ := Tour.runs ht
  have hsyncs : Keeper.interrupted.Syncs "influx" 2 (threeStreams.routes .standard) (knownStream, 2)
      knownStream.actions t.events t.pool t.surroundings.state :=
    ⟨rfl, hruns, hserved, by rw [← Tour.surroundings_eq ht]⟩
  exact ⟨t.surroundings.state.1, .listed hsyncs, hnames, hrules⟩

/-- After a sync that was interrupted, one sync adds what is missing, and another one changes
nothing. -/
theorem syncs_converge_threeStreams : ∃ b, Relation.ReflTransGen AnySync knownStream b ∧
    b.names = ["action_th_h_6500000000000000000000aa", "action_th_t_6500000000000000000000aa"] ∧
    b.rules = [] ∧
    ∃ report b' again calls,
      (sync "influx" (threeStreams.routes .standard)).run carryOut b = (.ok report, b') ∧
      report.isComplete = true ∧ b.Gained (threeStreams.routes .standard) b' ∧
      (sync "influx" (threeStreams.routes .standard)).run carryOut b' = (.ok again, b') ∧
      requests ((sync "influx" (threeStreams.routes .standard)).questions carryOut b') =
        .listActions :: calls ∧
      creations calls = [] ∧ again.isComplete = true := by
  obtain ⟨b, hany, hnames, hrules⟩ := interrupted_threeStreams
  have hnodup : knownStream.names.Nodup := by decide +kernel
  obtain ⟨-, hsync⟩ := syncs_converge hnodup (.single hany)
  obtain ⟨⟨report, b', -, hrun, -, hcomplete, hgained, hagain⟩, -⟩ :=
    hsync (threeStreams.routes .standard) _ _ Keeper.flawless_faithful "influx" b rfl
  obtain ⟨⟨again, b'', calls, hrun', hcalls, hcomplete', hnone, -, hsame⟩, -⟩ :=
    hagain _ _ Keeper.flawless_faithful "influx" b' rfl
  obtain rfl : b'' = b' := hsame
  exact ⟨b, .single hany, hnames, hrules, report, b'', again, calls, hrun, hcomplete, hgained, hrun',
    hcalls, hnone, hcomplete'⟩

end Sync

end Telemetry
