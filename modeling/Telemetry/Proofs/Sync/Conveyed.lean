import Telemetry.Proofs.Broker.Responses
import Telemetry.Proofs.Sync.Outcomes
import Telemetry.Sync.Remote

/-!
# Routes over the network

Over the network every request of a sync is one message, and nobody gives up on it. What comes of a
route is decided by the statuses and the bodies of at most three responses.

* `BrokerClient.overNetwork`: what a dialogue of a sync is over the network.
* `Conveyed`: which messages convey the exchanges of a sync, and with which responses;
  `conveyed_overNetwork` says that messages convey whatever is done over the network.
* `RouteResponses`: the responses to the messages of a route; `RouteResponses.status` is what they
  make of it, and `PlannedRoute.Ends.exists_responses` says that this is how routes end.
* `exists_group_responses`: the messages of a group, and what comes of its routes.
-/

namespace Telemetry

open Http

/-- What a dialogue of a sync is over the network. -/
def BrokerClient.overNetwork {α : Type} (c : BrokerClient) (d : SyncDialogue α) : HttpDialogue α :=
  Dialogue.translate (A := SyncStep.Answer) c.step d

namespace Sync

variable {c : BrokerClient} {listed : List RemoteAction} {connector : String} {rs : List Route}

/-! ## Exchanges that are conveyed by messages -/

/-- The exchanges of a sync that nobody gives up on are conveyed by these rounds: every request is
one message, the response to which decides the answer. -/
inductive Conveyed (c : BrokerClient) : List SyncExchange → List Round → Prop
  | nil : Conveyed c [] []
  | look {l : List SyncExchange} {rounds : List Round} :
      Conveyed c l rounds → Conveyed c (look false :: l) rounds
  | log {event : LogEvent} {l : List SyncExchange} {rounds : List Round} :
      Conveyed c l rounds → Conveyed c (logged event :: l) rounds
  | request {r : BrokerRequest} {x : r.Answer} {l : List SyncExchange} {rounds : List Round}
      (status : Nat) (body : String) (answer : x = BrokerClient.answerTo r status body) :
      Conveyed c l rounds →
        Conveyed c (⟨.request r, x⟩ :: l) (⟨c.messageOf r, status, body⟩ :: rounds)

theorem ok_eq_accepted_iff {status : Nat} {body : String} :
    (.ok () : Except Error Unit) =
        (if isSuccess status then .ok () else .error (.remote status body)) ↔
      isSuccess status = true := by
  split <;> simp [*]

theorem created_eq_creation_iff {code : Nat} {text : String} :
    (.ok .created : Except Error RuleCreation) =
        .ok (if code = BrokerClient.createdStatus then .created else .rejected code text) ↔
      code = 201 := by
  unfold BrokerClient.createdStatus
  split <;> simp [*]

theorem rejected_eq_creation_iff {status code : Nat} {body text : String} :
    (.ok (.rejected status body) : Except Error RuleCreation) =
        .ok (if code = BrokerClient.createdStatus then .created else .rejected code text) ↔
      code ≠ 201 ∧ status = code ∧ body = text := by
  unfold BrokerClient.createdStatus
  split <;> simp [*]

theorem error_eq_accepted_iff {status : Nat} {body : String} {e : Error} :
    (.error e : Except Error Unit) =
        (if isSuccess status then .ok () else .error (.remote status body)) ↔
      isSuccess status = false ∧ e = .remote status body := by
  split <;> simp [*]

namespace Conveyed

variable {l l' : List SyncExchange} {rounds : List Round} {p : PlannedRoute}

theorem look_inv {cancelled : Bool} (h : Conveyed c (Sync.look cancelled :: l) rounds) :
    cancelled = false ∧ Conveyed c l rounds := by
  cases h with
  | look h => exact ⟨rfl, h⟩

theorem log_inv {event : LogEvent} (h : Conveyed c (logged event :: l) rounds) :
    Conveyed c l rounds := by
  cases h with
  | log h => exact h

theorem request_inv {r : BrokerRequest} {x : r.Answer}
    (h : Conveyed c (⟨.request r, x⟩ :: l) rounds) : ∃ status body rest,
      rounds = ⟨c.messageOf r, status, body⟩ :: rest ∧
      x = BrokerClient.answerTo r status body ∧ Conveyed c l rest := by
  cases h with
  | request status body hx h => exact ⟨status, body, _, rfl, hx, h⟩

theorem append_inv (h : Conveyed c (l ++ l') rounds) :
    ∃ rounds₁ rounds₂,
      rounds = rounds₁ ++ rounds₂ ∧ Conveyed c l rounds₁ ∧ Conveyed c l' rounds₂ := by
  induction l generalizing rounds with
  | nil => exact ⟨[], rounds, rfl, .nil, h⟩
  | cons x l ih =>
    rw [List.cons_append] at h
    cases h with
    | look h =>
      obtain ⟨rounds₁, rounds₂, rfl, h₁, h₂⟩ := ih h
      exact ⟨rounds₁, rounds₂, rfl, .look h₁, h₂⟩
    | log h =>
      obtain ⟨rounds₁, rounds₂, rfl, h₁, h₂⟩ := ih h
      exact ⟨rounds₁, rounds₂, rfl, .log h₁, h₂⟩
    | request status body hx h =>
      obtain ⟨rounds₁, rounds₂, rfl, h₁, h₂⟩ := ih h
      exact ⟨_ :: rounds₁, rounds₂, rfl, .request status body hx h₁, h₂⟩

/-- What is conveyed for routes one after the other is conveyed for each of them. -/
theorem flatMap_inv {g : List PlannedRoute} (hg : g.Nodup) {f : PlannedRoute → List SyncExchange}
    (h : Conveyed c (g.flatMap f) rounds) :
    ∃ part : PlannedRoute → List Round, rounds = g.flatMap part ∧
      ∀ p ∈ g, Conveyed c (f p) (part p) := by
  induction g generalizing rounds with
  | nil =>
    cases h
    exact ⟨fun _ => [], rfl, by simp⟩
  | cons p ps ih =>
    obtain ⟨hp, hps⟩ := List.nodup_cons.mp hg
    obtain ⟨first, rest, rfl, hfirst, hrest⟩ := append_inv h
    obtain ⟨part, rfl, hpart⟩ := ih hps hrest
    obtain ⟨part', hfirst', hsame⟩ := exists_extension hp part first
    refine ⟨part', ?_, List.forall_mem_cons.mpr ⟨?_, fun p' hp' => ?_⟩⟩
    · rw [List.flatMap_cons, hfirst']
      congr 1
      exact List.flatMap_congr fun p' hp' => (hsame p' hp').symm
    · rwa [hfirst']
    · rw [hsame p' hp']
      exact hpart p' hp'

/-- The action of a route is written by one message. -/
theorem action_inv {x : Except Error Unit}
    (h : Conveyed c (p.actionExchange listed connector x :: l) rounds) : ∃ status body rest,
      rounds = ⟨c.messageOf (p.actionRequest listed connector), status, body⟩ :: rest ∧
      x = (if isSuccess status then .ok () else .error (.remote status body)) ∧
      Conveyed c l rest := by
  obtain ⟨index, route, step⟩ := p
  cases step with
  | create => exact request_inv h
  | update => exact request_inv h

/-- The action of a route is written, and the route goes on. -/
theorem actionDone_inv (h : Conveyed c (p.actionDone listed connector ++ l) rounds) :
    ∃ status body rest, isSuccess status = true ∧
      rounds = ⟨c.messageOf (p.actionRequest listed connector), status, body⟩ :: rest ∧
      Conveyed c l rest := by
  obtain ⟨status, body, rest, rfl, hx, h⟩ := action_inv h.look_inv.2
  exact ⟨status, body, rest, ok_eq_accepted_iff.mp hx, rfl, h.look_inv.2⟩

theorem telling_inv {status : RouteStatus} (h : Conveyed c (p.telling status) rounds) :
    rounds = [] := by
  cases status with
  | synced =>
    cases h
    rfl
  | failed =>
    cases h.log_inv
    rfl

end Conveyed

/-- What a step of a sync does over the network. -/
theorem conveyed_step (hc : c.Addressed) {s : SyncStep} {x : s.Answer} {l : List HttpExchange}
    (h : (c.step s).Plays l (.done x)) (hl : Delivered l) {l' : List SyncExchange}
    {rest : List Round} (hrest : Conveyed c l' rest) :
    Conveyed c (⟨s, x⟩ :: l') (rounds l ++ rest) := by
  cases s with
  | isCancelled =>
    obtain ⟨rfl, rfl⟩ := Dialogue.plays_pure h
    exact .look hrest
  | log event =>
    rw [plays_log h]
    exact .log hrest
  | request r =>
    obtain ⟨status, body, hround, hx⟩ := BrokerClient.plays_perform hc h hl
    rw [hround]
    exact .request status body hx hrest

/-- What a dialogue of a sync does over the network is conveyed by messages. -/
theorem conveyed_overNetwork (hc : c.Addressed) {α : Type} {d : SyncDialogue α} {a : α}
    {l : List HttpExchange} (h : (c.overNetwork d).Plays l (.done a)) (hl : Delivered l) :
    ∃ l', d.Plays l' (.done a) ∧ Conveyed c l' (rounds l) := by
  obtain ⟨l', hplays, hspelled⟩ := Dialogue.Plays.translate_inv h
  refine ⟨l', hplays, ?_⟩
  clear hplays h
  induction hspelled with
  | nil => exact .nil
  | cons hq _ ih =>
    obtain ⟨hl₁, hl₂⟩ := delivered_append.mp hl
    rw [rounds_append]
    exact conveyed_step hc hq hl₁ (ih hl₂)

/-! ## One route -/

/-- The statuses and the bodies of the responses to the messages of a route: to the one that writes
its action, to the one that creates its rule, and to the one that replaces it. The later ones count
only if their messages are sent. -/
structure RouteResponses where
  action : Nat × String
  creation : Nat × String
  replacement : Nat × String

instance : Nonempty RouteResponses := ⟨⟨(0, ""), (0, ""), (0, "")⟩⟩

namespace RouteResponses

/-- What comes of a route. -/
def status (a : RouteResponses) (step : ActionStep) : RouteStatus :=
  if isSuccess a.action.1 then
    if a.creation.1 = 201 then .synced step .created
    else if isSuccess a.replacement.1 then .synced step .updated
    else .failed .rule (.remote a.replacement.1 a.replacement.2)
  else .failed .action (.remote a.action.1 a.action.2)

/-- The messages of a route with the responses. -/
def rounds (c : BrokerClient) (listed : List RemoteAction) (connector : String) (p : PlannedRoute)
    (a : RouteResponses) : List Round :=
  ⟨c.messageOf (p.actionRequest listed connector), a.action.1, a.action.2⟩ ::
    if isSuccess a.action.1 then
      ⟨c.messageOf (.createRule (.ofRule p.route.rule)), a.creation.1, a.creation.2⟩ ::
        if a.creation.1 = 201 then []
        else [⟨c.messageOf (.updateRule p.route.rule.id (.ofRule p.route.rule)),
          a.replacement.1, a.replacement.2⟩]
    else []

end RouteResponses

/-- The rule of a route was refused and then replaced: it took all three messages. -/
theorem Conveyed.replacement_inv {p : PlannedRoute} {status : Nat} {body : String} {e : LogEvent}
    {x : Except Error Unit} {sent : List Round}
    (h : Conveyed c (p.actionDone listed connector ++
      [ruleCreation p.route.rule (.ok (.rejected status body)), logged e,
        ruleReplacement p.route.rule x]) sent) :
    ∃ a : RouteResponses, sent = a.rounds c listed connector p ∧ isSuccess a.action.1 = true ∧
      a.creation.1 ≠ 201 ∧
      x = if isSuccess a.replacement.1 then .ok ()
        else .error (.remote a.replacement.1 a.replacement.2) := by
  obtain ⟨status, body, _, hstatus, rfl, hrule⟩ := h.actionDone_inv
  obtain ⟨code, text, _, rfl, hx, hreplacement⟩ := hrule.request_inv
  obtain ⟨hcode, -, -⟩ := rejected_eq_creation_iff.mp hx
  obtain ⟨last, answer, _, rfl, hx, hend⟩ := hreplacement.log_inv.request_inv
  cases hend
  exact ⟨⟨(status, body), (code, text), (last, answer)⟩,
    by simp [RouteResponses.rounds, hstatus, hcode], hstatus, hcode, hx⟩

/-- A route that ended has sent these messages, and has the status that the responses make. -/
theorem PlannedRoute.Ends.exists_responses {p : PlannedRoute} {l : List SyncExchange}
    {status : RouteStatus} {sent : List Round} (h : p.Ends listed connector l status)
    (hc : Conveyed c l sent) : ∃ a : RouteResponses,
      sent = a.rounds c listed connector p ∧ status = a.status p.step := by
  cases h with
  | skipped => cases hc.look_inv.1
  | action e =>
    obtain ⟨status, body, rest, rfl, hx, hend⟩ := hc.look_inv.2.action_inv
    obtain ⟨hstatus, rfl⟩ := error_eq_accepted_iff.mp hx
    cases hend
    exact ⟨⟨(status, body), (0, ""), (0, "")⟩, by simp [RouteResponses.rounds, hstatus],
      by simp [RouteResponses.status, hstatus]⟩
  | ruleSkipped =>
    obtain ⟨_, _, _, -, -, hend⟩ := hc.look_inv.2.action_inv
    cases hend.look_inv.1
  | rule e =>
    obtain ⟨_, _, _, -, -, hrule⟩ := hc.actionDone_inv
    obtain ⟨_, _, _, -, hx, -⟩ := hrule.request_inv
    cases hx
  | created =>
    obtain ⟨status, body, _, hstatus, rfl, hrule⟩ := hc.actionDone_inv
    obtain ⟨code, text, _, rfl, hx, hend⟩ := hrule.request_inv
    obtain rfl := created_eq_creation_iff.mp hx
    cases hend
    exact ⟨⟨(status, body), (201, text), (0, "")⟩, by simp [RouteResponses.rounds, hstatus],
      by simp [RouteResponses.status, hstatus]⟩
  | replacement _ _ e =>
    obtain ⟨a, rfl, haction, hcreation, hx⟩ := hc.replacement_inv
    obtain ⟨hreplacement, rfl⟩ := error_eq_accepted_iff.mp hx
    exact ⟨a, rfl, by simp [RouteResponses.status, haction, hcreation, hreplacement]⟩
  | replaced _ _ =>
    obtain ⟨a, rfl, haction, hcreation, hx⟩ := hc.replacement_inv
    have hreplacement := ok_eq_accepted_iff.mp hx
    exact ⟨a, rfl, by simp [RouteResponses.status, haction, hcreation, hreplacement]⟩

/-! ## One group -/

/-- The messages of a group are those of its routes, one after the other, and its outcomes are what
the responses make of the routes. -/
theorem exists_group_responses {g : List PlannedRoute} (hg : g.Nodup) {l : List SyncExchange}
    {sent : List Round} {outcomes : List (Nat × RouteOutcome)}
    (h : (syncGroup listed connector g).Plays l (.done outcomes)) (hc : Conveyed c l sent) :
    ∃ responses : PlannedRoute → RouteResponses,
      sent = g.flatMap (fun p => (responses p).rounds c listed connector p) ∧
      outcomes = g.map fun p => (p.index, p.outcome ((responses p).status p.step)) := by
  obtain ⟨course, rfl, rfl, hends⟩ := exists_courses hg h
  obtain ⟨part, rfl, hpart⟩ := hc.flatMap_inv hg
  have hroute : ∀ p ∈ g, ∃ a : RouteResponses, part p = a.rounds c listed connector p ∧
      (course p).status = a.status p.step := by
    intro p hp
    obtain ⟨sent, told, heq, hsent, htold⟩ := (hpart p hp).append_inv
    rw [heq, htold.telling_inv, List.append_nil]
    exact (hends p hp).exists_responses hsent
  choose! responses hresponses using hroute
  refine ⟨responses, List.flatMap_congr fun p hp => (hresponses p hp).1,
    List.map_congr_left fun p hp => ?_⟩
  rw [Course.placed, (hresponses p hp).2]

end Sync

end Telemetry
