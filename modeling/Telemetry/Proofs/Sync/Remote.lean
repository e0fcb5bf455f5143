import Telemetry.Proofs.Broker.Listing
import Telemetry.Proofs.Sync.Conveyed
import Telemetry.Proofs.Sync.InTurn
import Telemetry.Sync.Remote

/-!
# Syncs over the network

What comes of a sync over the network is decided by the statuses and the bodies of the responses:
that to the listing decides whether it fails, and those to the messages of a route decide what comes
of this route.

* `BrokerClient.pool`: groups of routes that are written over the network side by side.
* `pool_responses`: what comes of the routes of a finished pool.
* `BrokerClient.Syncs`: a whole sync; `BrokerClient.Decided`: what the responses make of it.
* `responses_decide`: every sync is decided by its responses, and comes to its end.
-/

namespace Telemetry

open Http

/-- What happens to a group of routes that is written over the network. -/
abbrev HttpEvent := PoolEvent HttpStep HttpStep.Answer

namespace BrokerClient

/-- The groups of routes over the network, when the broker listed these actions. -/
def pool (c : BrokerClient) (listed : List RemoteAction) (connector : String) (rs : List Route) :
    Pool HttpStep HttpStep.Answer (List (Nat × Sync.RouteOutcome)) :=
  .ofDialogues ((Sync.groups (Sync.plan listed rs)).map fun g =>
    c.overNetwork (Sync.syncGroup listed connector g))

/-- A sync over the network that writes at most `bound` groups at a time: what it does to list the
actions, what it does to write the groups, and what comes of it. -/
inductive Syncs (c : BrokerClient) (connector : String) (rs : List Route) (bound : Nat) :
    List HttpExchange → List HttpEvent → Except Error Sync.Report → Prop
  | unlisted {l : List HttpExchange} {e : Error} :
      (c.perform .listActions).Plays l (.done (.error e : Except Error (List RemoteAction))) →
      Syncs c connector rs bound l [] (.error e)
  | written {l : List HttpExchange} {listed : List RemoteAction} {es : List HttpEvent}
      {q : Pool HttpStep HttpStep.Answer (List (Nat × Sync.RouteOutcome))} :
      (c.perform .listActions).Plays l (.done (.ok listed : Except Error (List RemoteAction))) →
      Pool.Runs bound (c.pool listed connector rs) es q → q.isFinished = true →
      Syncs c connector rs bound l es (.ok (.ofOutcomes q.completed.flatten))

/-- What the responses make of a sync, if the listing was answered with this status and body. -/
structure Decided (c : BrokerClient) (connector : String) (rs : List Route) (status : Nat)
    (body : String) (es : List HttpEvent) (result : Except Error Sync.Report) : Prop where
  refused : isSuccess status = false → result = .error (.remote status body)
  unreadable : isSuccess status = true → (∀ listed, ¬ RemoteAction.Lists body listed) →
    ∃ text, readActions body = .error (.serialization text) ∧
      result = .error (.serialization text)
  reported : isSuccess status = true → ∀ listed, RemoteAction.Lists body listed →
    ∃ responses : Sync.PlannedRoute → Sync.RouteResponses,
      (∀ i g, (Sync.groups (Sync.plan listed rs))[i]? = some g → rounds (Pool.exchanges i es) =
        g.flatMap fun p => (responses p).rounds c listed connector p) ∧
      result = .ok ⟨(Sync.plan listed rs).map fun p => p.outcome ((responses p).status p.step)⟩

end BrokerClient

namespace Sync

variable {c : BrokerClient} {listed : List RemoteAction} {connector : String} {rs : List Route}
  {bound : Nat} {es : List HttpEvent}

theorem delivered_exchanges {l : List HttpExchange} (h : Delivered (l ++ Pool.answers es))
    (i : Nat) : Delivered (Pool.exchanges i es) := by
  intro x hx
  have hmem : x ∈ Pool.answers es :=
    List.mem_filterMap.mpr ⟨_, Pool.mem_exchanges.mp hx, rfl⟩
  exact (delivered_append.mp h).2 x hmem

/-- The messages of each place are those of the routes of its group, and the report has what the
responses make of the routes, in their order. -/
theorem pool_responses (hc : c.Addressed)
    {q : Pool HttpStep HttpStep.Answer (List (Nat × RouteOutcome))}
    (hr : Pool.Runs bound (c.pool listed connector rs) es q) (hfinished : q.isFinished = true)
    (hdelivered : ∀ i, Delivered (Pool.exchanges i es)) :
    ∃ responses : PlannedRoute → RouteResponses,
      (∀ i g, (groups (plan listed rs))[i]? = some g → rounds (Pool.exchanges i es) =
        g.flatMap fun p => (responses p).rounds c listed connector p) ∧
      Report.ofOutcomes q.completed.flatten =
        ⟨(plan listed rs).map fun p => p.outcome ((responses p).status p.step)⟩ := by
  obtain ⟨results, hperm, hlen, hplaces⟩ := hr.exists_results hfinished
  let known (i : Nat) (g : List PlannedRoute) (responses : PlannedRoute → RouteResponses) : Prop :=
    rounds (Pool.exchanges i es) = g.flatMap fun p => (responses p).rounds c listed connector p
  have hknown : ∀ i g f f', (∀ p ∈ g, f p = f' p) → known i g f → known i g f' :=
    fun i g f f' hsame hf => hf.trans (List.flatMap_congr fun p hp => by rw [hsame p hp])
  obtain ⟨responses, hrounds, houtcomes⟩ := exists_reported hperm (by simpa using hlen)
    (fun p a => a.status p.step) hknown fun i g outcomes hg houtcomes => by
      have hplays := hplaces i _ _ (by rw [List.getElem?_map, hg, Option.map_some]) houtcomes
      obtain ⟨l, hplays, hconveyed⟩ := conveyed_overNetwork hc hplays (hdelivered i)
      exact exists_group_responses (nodup_group (List.mem_of_getElem? hg)) hplays hconveyed
  exact ⟨responses, hrounds, congrArg Report.mk houtcomes⟩

/-- What comes of the listing is decided by its response. -/
theorem listing_decided (hc : c.Addressed) {l : List HttpExchange}
    {listing : Except Error (List RemoteAction)}
    (h : (c.perform .listActions).Plays l (.done listing)) (hl : Delivered l) :
    ∃ status body, rounds l = [⟨c.messageOf .listActions, status, body⟩] ∧
      (isSuccess status = false → listing = .error (.remote status body)) ∧
      (isSuccess status = true → listing = BrokerClient.readActions body) := by
  obtain ⟨status, body, hround, hx⟩ := BrokerClient.plays_perform hc h hl
  refine ⟨status, body, hround, fun hstatus => ?_, fun hstatus => ?_⟩
  · exact hx.trans (if_neg (by simp [hstatus]))
  · exact hx.trans (if_pos hstatus)

/-- A sync is decided by the responses to its messages. -/
theorem syncs_decided (hc : c.Addressed) {l : List HttpExchange} {result : Except Error Report}
    (h : c.Syncs connector rs bound l es result) (hdelivered : Delivered (l ++ Pool.answers es)) :
    ∃ status body, rounds l = [⟨c.messageOf .listActions, status, body⟩] ∧
      c.Decided connector rs status body es result := by
  have hlisting := (delivered_append.mp hdelivered).1
  cases h with
  | @unlisted e hplays =>
    obtain ⟨status, body, hround, hrefused, hread⟩ := listing_decided hc hplays hlisting
    refine ⟨status, body, hround, ?_, ?_, ?_⟩
    · intro hstatus
      rw [Except.error.inj (hrefused hstatus)]
    · intro hstatus hnone
      obtain ⟨text, htext⟩ := BrokerClient.exists_readActions_error_iff.mpr hnone
      exact ⟨text, htext, by rw [Except.error.inj ((hread hstatus).trans htext)]⟩
    · intro hstatus listed hlisted
      cases (hread hstatus).trans (BrokerClient.readActions_eq_ok_iff.mpr hlisted)
  | @written listed _ q hplays hruns hfinished =>
    obtain ⟨status, body, hround, hrefused, hread⟩ := listing_decided hc hplays hlisting
    refine ⟨status, body, hround, ?_, ?_, ?_⟩
    · intro hstatus
      cases hrefused hstatus
    · intro hstatus hnone
      exact absurd (BrokerClient.readActions_eq_ok_iff.mp (hread hstatus).symm) (hnone listed)
    · intro hstatus listed' hlisted
      obtain rfl := Except.ok.inj
        ((hread hstatus).trans (BrokerClient.readActions_eq_ok_iff.mpr hlisted))
      obtain ⟨responses, hrounds, hreport⟩ :=
        pool_responses hc hruns hfinished (delivered_exchanges hdelivered)
      exact ⟨responses, hrounds, by rw [hreport]⟩

/-! ## One group after the other -/

theorem overNetwork_bind {α β : Type} (d : SyncDialogue α) (f : α → SyncDialogue β) :
    c.overNetwork (d >>= f) = c.overNetwork d >>= fun a => c.overNetwork (f a) :=
  Dialogue.translate_bind d f

theorem overNetwork_request (r : BrokerRequest) : c.overNetwork (request r) = c.perform r :=
  Dialogue.translate_question (SyncStep.request r)

theorem overNetwork_log (event : LogEvent) : c.overNetwork (log event) = Http.log event :=
  Dialogue.translate_question (SyncStep.log event)

theorem overNetwork_mapM {α : Type} (ds : List (SyncDialogue α)) :
    c.overNetwork (ds.mapM id) = (ds.map c.overNetwork).mapM id := by
  induction ds with
  | nil => rfl
  | cons d ds ih =>
    rw [List.map_cons, List.mapM_cons, List.mapM_cons, overNetwork_bind]
    refine congrArg (c.overNetwork d >>= ·) (funext fun a => ?_)
    rw [overNetwork_bind, ih]
    rfl

theorem overNetwork_syncGroups (gs : List (List PlannedRoute)) :
    c.overNetwork (syncGroups listed connector gs) = List.flatten <$>
      (gs.map fun g => c.overNetwork (syncGroup listed connector g)).mapM id := by
  rw [syncGroups_eq_mapM, ← bind_pure_comp, overNetwork_bind, overNetwork_mapM, List.map_map,
    ← bind_pure_comp]
  rfl

/-- A sync that writes one group after the other is one that writes one group at a time. -/
theorem syncs_of_plays {l : List HttpExchange} {result : Except Error Report}
    (h : (c.sync connector rs).Plays l (.done result)) :
    ∃ l₁ es told, c.Syncs connector rs 1 l₁ es result ∧ l = l₁ ++ (Pool.answers es ++ told) ∧
      rounds told = [] := by
  change (c.overNetwork (Telemetry.sync connector rs)).Plays l (.done result) at h
  rw [Telemetry.sync, overNetwork_bind, overNetwork_request] at h
  obtain ⟨l₁, listing, l₂, rfl, h₁, h₂⟩ := h.bind_inv
  match listing with
  | .error e =>
    obtain ⟨rfl, rfl⟩ := Dialogue.plays_pure h₂
    exact ⟨l₁, [], [], .unlisted h₁, rfl, rfl⟩
  | .ok listed =>
    simp only [overNetwork_bind, apply, overNetwork_syncGroups, overNetwork_log] at h₂
    obtain ⟨l₃, report, l₄, rfl, h₃, h₄⟩ := h₂.bind_inv
    obtain ⟨rfl, rfl⟩ := Dialogue.plays_pure h₄
    obtain ⟨l₅, outcomes, l₆, rfl, h₅, h₆⟩ := Dialogue.Plays.bind_inv h₃
    obtain ⟨l₇, _, l₈, rfl, h₇, h₈⟩ := Dialogue.Plays.bind_inv h₆
    obtain ⟨rfl, rfl⟩ := Dialogue.plays_pure h₈
    rw [← bind_pure_comp] at h₅
    obtain ⟨l₉, results, l₀, rfl, h₉, h₀⟩ := Dialogue.Plays.bind_inv h₅
    obtain ⟨rfl, rfl⟩ := Dialogue.plays_pure h₀
    obtain ⟨es, q, hruns, hfinished, rfl, rfl⟩ := Pool.runs_of_plays Nat.one_pos h₉
    exact ⟨l₁, es, l₇, .written h₁ hruns hfinished, by simp, plays_log h₇⟩

/-! ## All syncs -/

/-- Every message has the same response. -/
def respond (status : Nat) (body : String) : (s : HttpStep) → s.Answer
  | .send .. => (.answered ⟨status, some body⟩ : Delivery)
  | .log _ => ()

/-- The actions can be listed with every response. -/
theorem exists_listing (hc : c.Addressed) (status : Nat) (body : String) :
    ∃ l x, (c.perform .listActions).Plays l (.done x) ∧ Delivered l ∧
      rounds l = [⟨c.messageOf .listActions, status, body⟩] := by
  obtain ⟨l, x, hplays, hl⟩ := Dialogue.exists_plays (respond status body) (c.perform .listActions)
  have hround : ∀ y ∈ l, IsAnswered y ∧ ∀ round ∈ round? y, round.status = status ∧
      round.body = body := by
    intro y hy
    obtain ⟨s, answer⟩ := y
    obtain rfl : answer = respond status body s := hl _ hy
    cases s with
    | send r u =>
      refine ⟨⟨status, body, rfl⟩, fun round hround => ?_⟩
      obtain rfl := Option.some.inj hround
      exact ⟨rfl, rfl⟩
    | log event => exact ⟨trivial, fun round hround => nomatch hround⟩
  have hdelivered : Delivered l := fun y hy => (hround y hy).1
  obtain ⟨status', body', hrounds, -⟩ := BrokerClient.plays_perform hc hplays hdelivered
  have hmem : (⟨c.messageOf .listActions, status', body'⟩ : Round) ∈ rounds l := by
    rw [hrounds]
    exact .head _
  obtain ⟨y, hy, hround'⟩ := List.mem_filterMap.mp hmem
  obtain ⟨rfl, rfl⟩ := (hround y hy).2 _ hround'
  exact ⟨l, x, hplays, hdelivered, hrounds⟩

/-- A sync can fail with every body that lists no actions. -/
theorem exists_unlisted (hc : c.Addressed) {body : String} {e : Error}
    (h : BrokerClient.readActions body = .error e) :
    ∃ l, c.Syncs connector rs bound l [] (.error e) ∧ Delivered l ∧
      rounds l = [⟨c.messageOf .listActions, 200, body⟩] := by
  obtain ⟨l, x, hplays, hl, hround⟩ := exists_listing hc 200 body
  obtain ⟨status, body', hrounds, hx⟩ := BrokerClient.plays_perform hc hplays hl
  obtain ⟨rfl, rfl⟩ : status = 200 ∧ body' = body := by simpa using hrounds.symm.trans hround
  obtain rfl : x = .error e := hx.trans h
  exact ⟨l, .unlisted hplays, hl, hround⟩

/-- If the address of the broker can be read and every message is answered, then a sync is decided
by the statuses and the bodies of the responses, however many groups are written side by side in
whatever order: it fails if and only if the listing is no success or no list of actions; otherwise
the report has, in the order of the routes, what the responses to the messages of each route make of
it. To write one group after the other is one of these syncs. The listing may be answered in every
way; after that there is no endless run, and a run that is not finished can go on, whatever its
messages are answered. -/
theorem responses_decide (c : BrokerClient) (hc : c.Addressed) (connector : String)
    (rs : List Route) :
    (∀ bound l es result, c.Syncs connector rs bound l es result →
      Delivered (l ++ Pool.answers es) →
      ∃ status body, rounds l = [⟨c.messageOf .listActions, status, body⟩] ∧
        c.Decided connector rs status body es result) ∧
    (∀ l result, (c.sync connector rs).Plays l (.done result) →
      ∃ l₁ es told, c.Syncs connector rs 1 l₁ es result ∧ l = l₁ ++ (Pool.answers es ++ told) ∧
        rounds told = []) ∧
    (∀ status body, ∃ l x, (c.perform .listActions).Plays l (.done x) ∧ Delivered l ∧
      rounds l = [⟨c.messageOf .listActions, status, body⟩]) ∧
    ∀ (listed : List RemoteAction) (bound : Nat), 0 < bound →
      (WellFounded fun p' p : Pool HttpStep HttpStep.Answer (List (Nat × RouteOutcome)) =>
        ∃ e, Pool.Step bound p e p') ∧
      ∀ es q, Pool.Runs bound (c.pool listed connector rs) es q → q.isFinished = false →
        ∀ reply : Nat → (s : HttpStep) → s.Answer, ∃ e q',
          Pool.Step bound q e q' ∧ ∀ i s x, e = .answered i s x → x = reply i s :=
  ⟨fun _ _ _ _ h hdelivered => syncs_decided hc h hdelivered, fun _ _ h => syncs_of_plays h,
    fun status body => exists_listing hc status body,
    fun _ bound hb => ⟨Pool.wellFounded_step bound, fun _ _ _ hq => Pool.exists_step hb hq⟩⟩

/-- A client for a broker on the same machine. -/
def localClient : BrokerClient := .ofAddress "http://localhost:18083/" "admin" "public" 30000

/-- A broker that has every rule already, cannot replace one of them, and is down when an action is
to be replaced. -/
def refusing : (s : HttpStep) → Unit → s.Answer × Unit
  | .log _, s => ((), s)
  | .send r _, s =>
    let response : Nat × String :=
      if r.address = localClient.base ++ BrokerClient.rulesPath then (400, "ALREADY_EXISTS")
      else if r.address = localClient.base ++
          BrokerClient.rulePath "rule_id_th_h_6500000000000000000000aa" then (404, "gone")
      else if r.address = localClient.base ++
          BrokerClient.actionPath "action_th_t_6500000000000000000000aa" then (503, "down")
      else (200, "[]")
    ((.answered ⟨response.1, some response.2⟩ : Delivery), s)

theorem delivered_refusing {es : List HttpEvent} (h : Pool.Served refusing () es) :
    Delivered (Pool.answers es) := by
  intro x hx
  obtain ⟨e, he, hex⟩ := List.mem_filterMap.mp hx
  cases e with
  | opened => cases hex
  | asked => cases hex
  | answered i s y =>
    obtain rfl := Option.some.inj hex
    obtain ⟨_, -, rfl⟩ := h.exists_state (fun _ => True) trivial (fun _ _ _ => trivial) he
    cases s with
    | send r u => exact ⟨_, _, rfl⟩
    | log event => trivial

/-- A listing with the action of the second route, as the broker lists it: with more than is read. -/
def humidityListing : String :=
  "[\x7b\"name\":\"action_th_h_6500000000000000000000aa\",\"type\":\"influxdb\"," ++
    "\"status\":\x7b\"nodes\":[1,\"up\"]\x7d,\"created_at\":1714557600000\x7d]"

def humidityAction : RemoteAction :=
  ⟨"action_th_h_6500000000000000000000aa", some "influxdb", some (.int 1714557600000), none⟩

/-- Two groups side by side: the rule of the first route is replaced, that of the second one cannot
be, and the action of the third one is not replaced. Nothing is written if the body of the listing is
an object, or a list with an action of two names. -/
theorem responses_decide_threeStreams : localClient.Addressed ∧
    (∃ l es report, localClient.Syncs "influx" (threeStreams.routes .standard) 2 l es (.ok report) ∧
      Delivered (l ++ Pool.answers es) ∧
      rounds l = [⟨localClient.messageOf .listActions, 200, humidityListing⟩] ∧
      localClient.Decided "influx" (threeStreams.routes .standard) 200 humidityListing es
        (.ok report) ∧
      report.outcomes.map (·.status) = [.synced .create .updated,
        .failed .rule (.remote 404 "gone"), .failed .action (.remote 503 "down")]) ∧
    ∀ p ∈ [("\x7b\"data\":[]\x7d", "invalid type: map, expected a sequence"),
        ("[\x7b\"name\":\"a\",\"name\":\"b\"\x7d]", "duplicate field `name`")],
      ∃ l, localClient.Syncs "influx" (threeStreams.routes .standard) 2 l []
          (.error (.serialization p.2)) ∧
        Delivered (l ++ Pool.answers []) ∧
        rounds l = [⟨localClient.messageOf .listActions, 200, p.1⟩] ∧
        localClient.Decided "influx" (threeStreams.routes .standard) 200 p.1 []
          (.error (.serialization p.2)) := by
  have haddressed : localClient.Addressed :=
    Url.exists_parse_iff.mpr ⟨"//localhost:18083/".toList, by decide +kernel, by decide +kernel,
      by decide +kernel, ("localhost", some 18083), by decide +kernel⟩
  obtain ⟨hdecided, -, hlisting, -⟩ :=
    responses_decide localClient haddressed "influx" (threeStreams.routes .standard)
  refine ⟨haddressed, ?_, ?_⟩
  · let tour := (Tour.start (localClient.pool [humidityAction] "influx"
      (threeStreams.routes .standard)) ()).visits
      refusing 2 ((List.replicate 31 [0, 1]).flatten ++ List.replicate 8 0)
    have hend : tour.map (fun t => (t.pool.isFinished,
        t.pool.completed.flatten.map fun x => (x.1, x.2.status))) =
      some (true, [(1, .failed .rule (.remote 404 "gone")), (0, .synced .create .updated),
        (2, .failed .action (.remote 503 "down"))]) := by
      decide +kernel
    obtain ⟨t, ht, hvalues⟩ := Option.map_eq_some_iff.mp hend
    obtain ⟨hfinished, hcompleted⟩ := Prod.mk.inj hvalues
    obtain ⟨hruns, hserved⟩ := Tour.runs ht
    obtain ⟨l, x, hplays, hl, hround⟩ := hlisting 200 humidityListing
    obtain ⟨status, body, hrounds, hx⟩ := BrokerClient.plays_perform haddressed hplays hl
    obtain ⟨rfl, rfl⟩ : status = 200 ∧ body = humidityListing := by
      simpa using hrounds.symm.trans hround
    have hread : BrokerClient.readActions humidityListing = .ok [humidityAction] := by
      decide +kernel
    obtain rfl : x = .ok [humidityAction] := hx.trans hread
    have hsyncs := BrokerClient.Syncs.written hplays hruns hfinished
    have hdelivered := delivered_append.mpr ⟨hl, delivered_refusing hserved⟩
    obtain ⟨status, body, hrounds, hresult⟩ := hdecided _ _ _ _ hsyncs hdelivered
    obtain ⟨rfl, rfl⟩ : status = 200 ∧ body = humidityListing := by
      simpa using hrounds.symm.trans hround
    refine ⟨l, t.events, _, hsyncs, hdelivered, hround, hresult, ?_⟩
    rw [Report.statuses_ofOutcomes, hcompleted]
    simp [List.mergeSort, List.MergeSort.Internal.splitInTwo]
  · intro p hp
    have hread : BrokerClient.readActions p.1 = .error (.serialization p.2) := by
      obtain rfl | rfl := List.mem_pair.mp hp <;> decide +kernel
    obtain ⟨l, hsyncs, hl, hround⟩ := exists_unlisted haddressed hread
    have hdelivered := delivered_append.mpr ⟨hl, fun _ hx => absurd hx List.not_mem_nil⟩
    obtain ⟨status, body, hrounds, hresult⟩ := hdecided _ _ _ _ hsyncs hdelivered
    obtain ⟨rfl, rfl⟩ : status = 200 ∧ body = p.1 := by simpa using hrounds.symm.trans hround
    exact ⟨l, hsyncs, hdelivered, hround, hresult⟩

end Sync

end Telemetry
