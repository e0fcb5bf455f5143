import Telemetry.Proofs.Pool
import Telemetry.Proofs.Sync.Calls
import Telemetry.Sync.Pool

/-!
# The course of a route

All that a route does follows from two lists: what it asks after which exchanges, and with which
exchanges it ends and how.

* `PlannedRoute.Next`, `asks_sync`: what a route asks next; `PlannedRoute.Ends`, `plays_sync_ends`:
  how it ends.
* `PlannedRoute.calls`, `inOrder_syncGroup`: the requests of a route and of a group, in their order.
* `AsksFor`: a group asks for one of its routes, when the routes before it are through;
  `asks_syncGroup` says that every request of a group is one of these, `plays_syncGroup_outcomes`
  what its outcomes are.
* `AskedFor`: on behalf of which planned route a place of a pool asks; `exists_askedFor` says that
  every request is made on behalf of one.
-/

namespace Telemetry.Sync

/-- A question of a sync and its answer. -/
abbrev SyncExchange := Exchange SyncStep SyncStep.Answer

/-- What happens to a group of routes in a pool. -/
abbrev SyncEvent := PoolEvent SyncStep SyncStep.Answer

/-- A look at whether the caller has given up. -/
def look (cancelled : Bool) : SyncExchange := ⟨.isCancelled, cancelled⟩

/-- An event for the log. -/
def logged (event : LogEvent) : SyncExchange := ⟨.log event, ()⟩

/-- A rule is created, and this is the answer. -/
def ruleCreation (r : RuleSpec) (x : Except Error RuleCreation) : SyncExchange :=
  ⟨.request (.createRule (.ofRule r)), x⟩

/-- A rule is replaced, and this is the answer. -/
def ruleReplacement (r : RuleSpec) (x : Except Error Unit) : SyncExchange :=
  ⟨.request (.updateRule r.id (.ofRule r)), x⟩

namespace PlannedRoute

variable (listed : List RemoteAction) (connector : String) (p : PlannedRoute)

/-- The request that writes the action of a route. -/
def actionRequest : BrokerRequest :=
  match p.step with
  | .create => .createAction (.create p.route.action connector)
  | .update => .updateAction p.actionName
      (.update p.route.action connector (listedAction listed p.actionName))

/-- The action of a route is written, and this is the answer. -/
def actionExchange (x : Except Error Unit) : SyncExchange :=
  match p.step with
  | .create => ⟨.request (.createAction (.create p.route.action connector)), x⟩
  | .update => ⟨.request (.updateAction p.actionName
      (.update p.route.action connector (listedAction listed p.actionName))), x⟩

/-- The exchanges of a route whose action is written and that goes on with its rule. -/
def actionDone : List SyncExchange :=
  [look false, p.actionExchange listed connector (.ok ()), look false]

/-- What a route asks next, after its exchanges. -/
inductive Next : List SyncExchange → SyncStep → Prop
  | look : Next [] .isCancelled
  | action : Next [look false] (.request (p.actionRequest listed connector))
  | lookAgain : Next [look false, p.actionExchange listed connector (.ok ())] .isCancelled
  | rule : Next (p.actionDone listed connector) (.request (.createRule (.ofRule p.route.rule)))
  | refusal (status : Nat) (body : String) :
      Next (p.actionDone listed connector ++
          [ruleCreation p.route.rule (.ok (.rejected status body))])
        (.log (ruleRefused p.route.rule.id status))
  | replacement (status : Nat) (body : String) :
      Next (p.actionDone listed connector ++
          [ruleCreation p.route.rule (.ok (.rejected status body)),
            logged (ruleRefused p.route.rule.id status)])
        (.request (.updateRule p.route.rule.id (.ofRule p.route.rule)))

/-- How a route ends, with its exchanges. -/
inductive Ends : List SyncExchange → RouteStatus → Prop
  | skipped : Ends [look true] (.failed .action (skipped p.actionName))
  | action (e : Error) :
      Ends [look false, p.actionExchange listed connector (.error e)] (.failed .action e)
  | ruleSkipped : Ends [look false, p.actionExchange listed connector (.ok ()), look true]
      (.failed .rule (Sync.skipped p.route.rule.id))
  | rule (e : Error) : Ends (p.actionDone listed connector ++
      [ruleCreation p.route.rule (.error e)]) (.failed .rule e)
  | created : Ends (p.actionDone listed connector ++
      [ruleCreation p.route.rule (.ok .created)]) (.synced p.step .created)
  | replacement (status : Nat) (body : String) (e : Error) : Ends (p.actionDone listed connector ++
      [ruleCreation p.route.rule (.ok (.rejected status body)),
        logged (ruleRefused p.route.rule.id status), ruleReplacement p.route.rule (.error e)])
      (.failed .rule e)
  | replaced (status : Nat) (body : String) : Ends (p.actionDone listed connector ++
      [ruleCreation p.route.rule (.ok (.rejected status body)),
        logged (ruleRefused p.route.rule.id status), ruleReplacement p.route.rule (.ok ())])
      (.synced p.step .updated)

end PlannedRoute

/-- The requests of a route that is not stopped and whose rule is refused. -/
def PlannedRoute.calls (listed : List RemoteAction) (connector : String) (p : PlannedRoute) :
    List BrokerRequest :=
  [p.actionRequest listed connector, .createRule (.ofRule p.route.rule),
    .updateRule p.route.rule.id (.ofRule p.route.rule)]

/-! ## One route -/

section Route

variable {listed : List RemoteAction} {connector : String} {p : PlannedRoute}
  {l : List SyncExchange} {q : SyncStep}

theorem question_actionExchange (x : Except Error Unit) :
    (p.actionExchange listed connector x).question =
      .request (p.actionRequest listed connector) := by
  unfold PlannedRoute.actionExchange PlannedRoute.actionRequest
  split <;> rfl

theorem resource?_actionRequest :
    (p.actionRequest listed connector).resource? = some (.action p.actionName) := by
  unfold PlannedRoute.actionRequest
  split <;> rfl

theorem plays_isCancelled {cancelled : Bool} (h : isCancelled.Plays l (.done cancelled)) :
    l = [look cancelled] := Dialogue.plays_question h

theorem asks_writeAction (h : (p.writeAction listed connector).Asks l q) :
    l = [] ∧ q = .request (p.actionRequest listed connector) := by
  obtain ⟨index, route, step⟩ := p
  cases step with
  | create => exact Dialogue.asks_question h
  | update => exact Dialogue.asks_question h

theorem plays_writeAction_eq {x : Except Error Unit}
    (h : (p.writeAction listed connector).Plays l (.done x)) :
    l = [p.actionExchange listed connector x] := by
  obtain ⟨index, route, step⟩ := p
  cases step with
  | create => exact Dialogue.plays_question h
  | update => exact Dialogue.plays_question h

/-- What the writing of a rule asks after which exchanges. -/
theorem asks_writeRule {r : RuleSpec} (h : (writeRule r).Asks l q) :
    (l = [] ∧ q = .request (.createRule (.ofRule r))) ∨
    ∃ status body, (l = [ruleCreation r (.ok (.rejected status body))] ∧
        q = .log (ruleRefused r.id status)) ∨
      (l = [ruleCreation r (.ok (.rejected status body)), logged (ruleRefused r.id status)] ∧
        q = .request (.updateRule r.id (.ofRule r))) := by
  obtain h | ⟨l₁, answer, l₂, rfl, h₁, h₂⟩ := h.bind_inv
  · exact .inl (Dialogue.asks_question h)
  obtain rfl := Dialogue.plays_question h₁
  match answer with
  | .error e => exact (Dialogue.not_asks_pure h₂).elim
  | .ok .created => exact (Dialogue.not_asks_pure h₂).elim
  | .ok (.rejected status body) =>
    refine .inr ⟨status, body, ?_⟩
    obtain h | ⟨l₃, _, l₄, rfl, h₃, h₄⟩ := Dialogue.Asks.bind_inv h₂
    · obtain ⟨rfl, rfl⟩ := Dialogue.asks_question h
      exact .inl ⟨rfl, rfl⟩
    obtain rfl := Dialogue.plays_question h₃
    obtain h | ⟨l₅, _, l₆, rfl, h₅, h₆⟩ := Dialogue.Asks.bind_inv h₄
    · obtain ⟨rfl, rfl⟩ := Dialogue.asks_question h
      exact .inr ⟨rfl, rfl⟩
    · exact (Dialogue.not_asks_pure h₆).elim

/-- All that a route can ask. -/
theorem asks_sync (h : (p.sync listed connector).Asks l q) : p.Next listed connector l q := by
  obtain h | ⟨l₁, cancelled, l₂, rfl, h₁, h₂⟩ := h.bind_inv
  · obtain ⟨rfl, rfl⟩ := Dialogue.asks_question h
    exact .look
  obtain rfl := plays_isCancelled h₁
  cases cancelled with
  | true => exact (Dialogue.not_asks_pure h₂).elim
  | false =>
    obtain h | ⟨l₃, written, l₄, rfl, h₃, h₄⟩ := Dialogue.Asks.bind_inv h₂
    · obtain ⟨rfl, rfl⟩ := asks_writeAction h
      exact .action
    obtain rfl := plays_writeAction_eq h₃
    cases written with
    | error e => exact (Dialogue.not_asks_pure h₄).elim
    | ok _ =>
      obtain h | ⟨l₅, cancelled, l₆, rfl, h₅, h₆⟩ := Dialogue.Asks.bind_inv h₄
      · obtain ⟨rfl, rfl⟩ := Dialogue.asks_question h
        exact .lookAgain
      obtain rfl := plays_isCancelled h₅
      cases cancelled with
      | true => exact (Dialogue.not_asks_pure h₆).elim
      | false =>
        obtain h | ⟨l₇, step, l₈, rfl, h₇, h₈⟩ := Dialogue.Asks.bind_inv h₆
        · obtain ⟨rfl, rfl⟩ | ⟨status, body, ⟨rfl, rfl⟩ | ⟨rfl, rfl⟩⟩ := asks_writeRule h
          · exact .rule
          · exact .refusal status body
          · exact .replacement status body
        · cases step with
          | error e => exact (Dialogue.not_asks_pure h₈).elim
          | ok rule => exact (Dialogue.not_asks_pure h₈).elim

/-- A route that creates an action was planned to. -/
theorem PlannedRoute.Next.of_creation {body : ActionPayload}
    (h : p.Next listed connector l (.request (.createAction body))) :
    p.step = .create ∧ body = .create p.route.action connector := by
  generalize hq : SyncStep.request (.createAction body) = q at h
  cases h with
  | action =>
    obtain ⟨index, route, step⟩ := p
    cases step with
    | create =>
      cases hq
      exact ⟨rfl, rfl⟩
    | update => cases hq
  | look => cases hq
  | lookAgain => cases hq
  | rule => cases hq
  | refusal => cases hq
  | replacement => cases hq

/-- A route that replaces an action was planned to. -/
theorem PlannedRoute.Next.of_replacement {name : String} {body : ActionPayload}
    (h : p.Next listed connector l (.request (.updateAction name body))) :
    l = [Sync.look false] ∧ p.step = .update ∧ p.actionName = name := by
  generalize hq : SyncStep.request (.updateAction name body) = q at h
  cases h with
  | action =>
    obtain ⟨index, route, step⟩ := p
    cases step with
    | create => cases hq
    | update =>
      cases hq
      exact ⟨rfl, rfl, rfl⟩
  | look => cases hq
  | lookAgain => cases hq
  | rule => cases hq
  | refusal => cases hq
  | replacement => cases hq

/-- A route makes requests about its own action and rule. -/
theorem PlannedRoute.Next.owns {r : BrokerRequest} (h : p.Next listed connector l (.request r))
    {k : Resource} (hk : r.resource? = some k) : p.Owns k := by
  cases h with
  | action =>
    rw [resource?_actionRequest] at hk
    exact .inl (Option.some.inj hk).symm
  | rule => exact .inr (Option.some.inj hk).symm
  | replacement => exact .inr (Option.some.inj hk).symm

/-- With which exchanges the writing of a rule ends, and how. -/
theorem plays_writeRule_eq {r : RuleSpec} {x : Except Error RuleStep}
    (h : (writeRule r).Plays l (.done x)) :
    (∃ e, l = [ruleCreation r (.error e)] ∧ x = .error e) ∨
    (l = [ruleCreation r (.ok .created)] ∧ x = .ok .created) ∨
    ∃ status body y, l = [ruleCreation r (.ok (.rejected status body)),
      logged (ruleRefused r.id status), ruleReplacement r y] ∧ x = y.map fun _ => .updated := by
  obtain ⟨l₁, answer, l₂, rfl, h₁, h₂⟩ := h.bind_inv
  obtain rfl := Dialogue.plays_question h₁
  match answer with
  | .error e =>
    obtain ⟨rfl, rfl⟩ := Dialogue.plays_pure h₂
    exact .inl ⟨e, rfl, rfl⟩
  | .ok .created =>
    obtain ⟨rfl, rfl⟩ := Dialogue.plays_pure h₂
    exact .inr (.inl ⟨rfl, rfl⟩)
  | .ok (.rejected status body) =>
    obtain ⟨l₃, _, l₄, rfl, h₃, h₄⟩ := Dialogue.Plays.bind_inv h₂
    obtain ⟨l₅, y, l₆, rfl, h₅, h₆⟩ := Dialogue.Plays.bind_inv h₄
    obtain rfl := Dialogue.plays_question h₃
    obtain rfl := Dialogue.plays_question h₅
    obtain ⟨rfl, rfl⟩ := Dialogue.plays_pure h₆
    exact .inr (.inr ⟨status, body, y, rfl, rfl⟩)

/-- All the ways in which a route can end. -/
theorem plays_sync_ends {status : RouteStatus}
    (h : (p.sync listed connector).Plays l (.done status)) :
    p.Ends listed connector l status := by
  obtain ⟨l₁, cancelled, l₂, rfl, h₁, h₂⟩ := h.bind_inv
  obtain rfl := plays_isCancelled h₁
  cases cancelled with
  | true =>
    obtain ⟨rfl, rfl⟩ := Dialogue.plays_pure h₂
    exact .skipped
  | false =>
    obtain ⟨l₃, written, l₄, rfl, h₃, h₄⟩ := Dialogue.Plays.bind_inv h₂
    obtain rfl := plays_writeAction_eq h₃
    cases written with
    | error e =>
      obtain ⟨rfl, rfl⟩ := Dialogue.plays_pure h₄
      exact .action e
    | ok _ =>
      obtain ⟨l₅, cancelled, l₆, rfl, h₅, h₆⟩ := Dialogue.Plays.bind_inv h₄
      obtain rfl := plays_isCancelled h₅
      cases cancelled with
      | true =>
        obtain ⟨rfl, rfl⟩ := Dialogue.plays_pure h₆
        exact .ruleSkipped
      | false =>
        obtain ⟨l₇, step, l₈, rfl, h₇, h₈⟩ := Dialogue.Plays.bind_inv h₆
        obtain ⟨e, rfl, rfl⟩ | ⟨rfl, rfl⟩ | ⟨code, body, y, rfl, rfl⟩ := plays_writeRule_eq h₇
        · obtain ⟨rfl, rfl⟩ := Dialogue.plays_pure h₈
          exact .rule e
        · obtain ⟨rfl, rfl⟩ := Dialogue.plays_pure h₈
          exact .created
        · cases y with
          | error e =>
            obtain ⟨rfl, rfl⟩ := Dialogue.plays_pure h₈
            exact .replacement code body e
          | ok _ =>
            obtain ⟨rfl, rfl⟩ := Dialogue.plays_pure h₈
            exact .replaced code body

end Route

/-! ## The order of requests -/

section Order

variable {listed : List RemoteAction} {connector : String} {p : PlannedRoute}

theorem inOrder_isCancelled : isCancelled.AsksInOrder SyncStep.request? [] :=
  Dialogue.asksInOrder_question _

theorem inOrder_log (event : LogEvent) : (log event).AsksInOrder SyncStep.request? [] :=
  Dialogue.asksInOrder_question _

theorem inOrder_request (r : BrokerRequest) : (request r).AsksInOrder SyncStep.request? [r] :=
  Dialogue.asksInOrder_question _

theorem inOrder_report (measurement : String) (status : RouteStatus) :
    (report measurement status).AsksInOrder SyncStep.request? [] := by
  cases status with
  | synced => exact Dialogue.asksInOrder_pure ()
  | failed stage e => exact inOrder_log _

theorem inOrder_writeAction : (p.writeAction listed connector).AsksInOrder SyncStep.request?
    [p.actionRequest listed connector] := by
  obtain ⟨index, route, step⟩ := p
  cases step with
  | create => exact inOrder_request _
  | update => exact inOrder_request _

theorem inOrder_writeRule (r : RuleSpec) : (writeRule r).AsksInOrder SyncStep.request?
    [.createRule (.ofRule r), .updateRule r.id (.ofRule r)] := by
  refine (inOrder_request _).bind fun answer => ?_
  match answer with
  | .error e => exact Dialogue.asksInOrder_pure _
  | .ok .created => exact Dialogue.asksInOrder_pure _
  | .ok (.rejected status body) =>
    refine (inOrder_log _).bind fun _ => ?_
    exact (inOrder_request _).bind_silent fun _ => Dialogue.asksInOrder_pure _

/-- A route makes its requests in this order, as far as it makes them. -/
theorem inOrder_sync : (p.sync listed connector).AsksInOrder SyncStep.request?
    (p.calls listed connector) := by
  refine inOrder_isCancelled.bind fun cancelled => ?_
  cases cancelled with
  | true => exact Dialogue.asksInOrder_pure _
  | false =>
    refine inOrder_writeAction.bind fun written => ?_
    cases written with
    | error e => exact Dialogue.asksInOrder_pure _
    | ok _ =>
      refine inOrder_isCancelled.bind fun cancelled => ?_
      cases cancelled with
      | true => exact Dialogue.asksInOrder_pure _
      | false =>
        refine (inOrder_writeRule _).bind_silent fun rule => ?_
        cases rule with
        | error e => exact Dialogue.asksInOrder_pure _
        | ok step => exact Dialogue.asksInOrder_pure _

/-- A group makes the requests of its routes, one route after the other. -/
theorem inOrder_syncGroup (listed : List RemoteAction) (connector : String)
    (g : List PlannedRoute) : (syncGroup listed connector g).AsksInOrder SyncStep.request?
      (g.flatMap (·.calls listed connector)) := by
  induction g with
  | nil => exact Dialogue.asksInOrder_pure []
  | cons p ps ih =>
    rw [List.flatMap_cons]
    refine inOrder_sync.bind fun status => ?_
    refine (inOrder_report _ status).bind fun _ => ?_
    exact ih.bind_silent fun _ => Dialogue.asksInOrder_pure _

end Order

/-! ## One group -/

section Group

variable {listed : List RemoteAction} {connector : String} {p : PlannedRoute}
  {ps ps' g : List PlannedRoute} {l l' : List SyncExchange} {q q' : SyncStep}
  {outcomes : List (Nat × RouteOutcome)}

/-- A group that is through has written its first route, told of it, and written the others. -/
theorem plays_syncGroup_cons : (syncGroup listed connector (p :: ps)).Plays l (.done outcomes) ↔
    ∃ l₁ status l₂ l₃ rest, l = l₁ ++ (l₂ ++ l₃) ∧
      (p.sync listed connector).Plays l₁ (.done status) ∧
      (report p.route.measurement status).Plays l₂ (.done ()) ∧
      (syncGroup listed connector ps).Plays l₃ (.done rest) ∧
      outcomes = (p.index, p.outcome status) :: rest := by
  constructor
  · intro h
    obtain ⟨l₁, status, l₂, rfl, h₁, h₂⟩ := Dialogue.Plays.bind_inv h
    obtain ⟨l₃, _, l₄, rfl, h₃, h₄⟩ := Dialogue.Plays.bind_inv h₂
    obtain ⟨l₅, rest, l₆, rfl, h₅, h₆⟩ := Dialogue.Plays.bind_inv h₄
    obtain ⟨rfl, rfl⟩ := Dialogue.plays_pure h₆
    exact ⟨l₁, status, l₃, l₅, rest, by simp, h₁, h₃, h₅, rfl⟩
  · rintro ⟨l₁, status, l₂, l₃, rest, rfl, h₁, h₂, h₃, rfl⟩
    have hlast : (syncGroup listed connector ps >>= fun rest =>
        pure ((p.index, p.outcome status) :: rest)).Plays (l₃ ++ [])
          (.done ((p.index, p.outcome status) :: rest)) := h₃.bind (.nil _)
    rw [List.append_nil] at hlast
    exact h₁.bind (h₂.bind hlast)

/-- A group that is through has first written the one part of its routes, and then the other. -/
theorem plays_syncGroup_append
    (h : (syncGroup listed connector (ps ++ ps')).Plays l (.done outcomes)) :
    ∃ l₁ l₂ o₁ o₂, l = l₁ ++ l₂ ∧ (syncGroup listed connector ps).Plays l₁ (.done o₁) ∧
      (syncGroup listed connector ps').Plays l₂ (.done o₂) := by
  induction ps generalizing l outcomes with
  | nil => exact ⟨[], l, [], outcomes, rfl, .nil _, h⟩
  | cons p ps ih =>
    obtain ⟨l₁, status, l₂, l₃, rest, rfl, h₁, h₂, h₃, -⟩ := plays_syncGroup_cons.mp h
    obtain ⟨l₄, l₅, o₁, o₂, rfl, h₄, h₅⟩ := ih h₃
    exact ⟨l₁ ++ (l₂ ++ l₄), l₅, _, o₂, by simp,
      plays_syncGroup_cons.mpr ⟨l₁, status, l₂, l₄, o₁, rfl, h₁, h₂, h₄, rfl⟩, h₅⟩

/-- The outcomes of a group are those of its routes, each with exchanges of its own. -/
theorem plays_syncGroup_outcomes
    (h : (syncGroup listed connector g).Plays l (.done outcomes)) :
    List.Forall₂ (fun p o => ∃ l' status, l' <:+: l ∧ p.Ends listed connector l' status ∧
      o = (p.index, p.outcome status)) g outcomes := by
  induction g generalizing l outcomes with
  | nil =>
    obtain ⟨-, rfl⟩ := Dialogue.plays_pure h
    exact .nil
  | cons p ps ih =>
    obtain ⟨l₁, status, l₂, l₃, rest, rfl, h₁, -, h₃, rfl⟩ := plays_syncGroup_cons.mp h
    refine .cons ⟨l₁, status, ⟨[], l₂ ++ l₃, rfl⟩, plays_sync_ends h₁, rfl⟩ ?_
    refine (ih h₃).imp fun p o => ?_
    rintro ⟨l', status', hl', hends, rfl⟩
    exact ⟨l', status', hl'.trans ⟨l₁ ++ l₂, [], by simp⟩, hends, rfl⟩

/-- What is in one of two lists that are paired has a partner in the other one. -/
theorem exists_partner {α β : Type} {R : α → β → Prop} {as : List α} {bs : List β}
    (h : List.Forall₂ R as bs) {a : α} (ha : a ∈ as) : ∃ b ∈ bs, R a b := by
  obtain ⟨k, hk, rfl⟩ := List.getElem_of_mem ha
  have hk' : k < bs.length := h.length_eq ▸ hk
  exact ⟨bs[k], List.getElem_mem hk', h.get hk hk'⟩

/-- After the exchanges `l` a group asks `q` for the route `p`: the routes before it are through,
and `l'` are the exchanges of the route so far. -/
def AsksFor (listed : List RemoteAction) (connector : String) (g : List PlannedRoute)
    (l : List SyncExchange) (q : SyncStep) (p : PlannedRoute) (l' : List SyncExchange) : Prop :=
  ∃ ps ps' l₁ outcomes, g = ps ++ p :: ps' ∧ l = l₁ ++ l' ∧
    (syncGroup listed connector ps).Plays l₁ (.done outcomes) ∧
    (p.sync listed connector).Asks l' q

/-- What a group asks it asks for one of its routes, or it tells of a route that failed. -/
theorem asks_syncGroup (h : (syncGroup listed connector g).Asks l q) :
    (∃ p l', AsksFor listed connector g l q p l') ∨ ∃ event, q = .log event := by
  induction g generalizing l with
  | nil => exact (Dialogue.not_asks_pure h).elim
  | cons p ps ih =>
    obtain h | ⟨l₁, status, l₂, rfl, h₁, h₂⟩ := Dialogue.Asks.bind_inv h
    · exact .inl ⟨p, l, [], ps, [], [], rfl, rfl, .nil _, h⟩
    obtain h | ⟨l₃, _, l₄, rfl, h₃, h₄⟩ := Dialogue.Asks.bind_inv h₂
    · cases status with
      | synced => exact (Dialogue.not_asks_pure h).elim
      | failed stage e =>
        obtain ⟨-, rfl⟩ := Dialogue.asks_question h
        exact .inr ⟨_, rfl⟩
    obtain h | ⟨l₅, rest, l₆, rfl, h₅, h₆⟩ := Dialogue.Asks.bind_inv h₄
    · obtain ⟨p', l', ps₁, ps₂, l₅, o, rfl, rfl, hplays, hasks⟩ | hlog := ih h
      · have hthrough := plays_syncGroup_cons.mpr ⟨l₁, status, l₃, l₅, o, rfl, h₁, h₃, hplays, rfl⟩
        exact .inl ⟨p', l', p :: ps₁, ps₂, _, _, rfl, by simp, hthrough, hasks⟩
      · exact .inr hlog
    · exact (Dialogue.not_asks_pure h₆).elim

theorem AsksFor.next (h : AsksFor listed connector g l q p l') : p.Next listed connector l' q := by
  obtain ⟨-, -, -, -, -, -, -, hasks⟩ := h
  exact asks_sync hasks

theorem AsksFor.mem (h : AsksFor listed connector g l q p l') : p ∈ g := by
  obtain ⟨ps, ps', -, -, rfl, -⟩ := h
  simp

theorem AsksFor.suffix (h : AsksFor listed connector g l q p l') : l' <:+ l := by
  obtain ⟨-, -, l₁, -, -, rfl, -⟩ := h
  exact List.suffix_append l₁ l'

/-- A group takes its routes in their order: what it asks later it asks for the same route or for
one that comes after it. -/
theorem AsksFor.in_order {m l'' : List SyncExchange} {p' : PlannedRoute}
    (h : AsksFor listed connector g l q p l')
    (h' : AsksFor listed connector g (l ++ m) q' p' l'') : p' = p ∨ [p, p'].Sublist g := by
  obtain ⟨ps, t, l₁, o, rfl, rfl, hplays, -⟩ := h
  obtain ⟨ps', t', l₂, o', hg, hl, hplays', hasks⟩ := h'
  obtain ⟨u, rfl, hu⟩ | ⟨u, rfl, hu⟩ := List.append_eq_append_iff.mp hg
  · cases u with
    | nil => exact .inl (List.cons.inj hu).1.symm
    | cons x u =>
      obtain ⟨rfl, rfl⟩ := List.cons.inj hu
      refine .inr ((List.Sublist.cons_cons p ?_).trans (List.sublist_append_right ps _))
      simp
  · cases u with
    | nil => exact .inl (List.cons.inj hu).1
    | cons x u =>
      -- Then the later route was through already when the earlier one asked.
      obtain ⟨rfl, rfl⟩ := List.cons.inj hu
      obtain ⟨a, b, o₁, o₂, rfl, ha, hb⟩ := plays_syncGroup_append hplays
      obtain ⟨b₁, status, b₂, b₃, rest, rfl, hb₁, -⟩ := plays_syncGroup_cons.mp hb
      simp only [List.append_assoc] at hl
      obtain rfl := ha.eq_of_append_eq hplays' hl
      obtain rfl := List.append_cancel_left hl
      exact (hasks.not_done hb₁).elim

end Group

/-! ## A pool of groups -/

section Pool

variable {listed : List RemoteAction} {connector : String} {rs : List Route} {bound : Nat}
  {es pre post : List SyncEvent} {s : SyncPool} {i : Nat} {q : SyncStep}

/-- After the events `pre` the place `i` asks `q` for the planned route `p`, whose exchanges so far
are `l`. -/
def AskedFor (listed : List RemoteAction) (connector : String) (rs : List Route)
    (pre : List SyncEvent) (i : Nat) (q : SyncStep) (p : PlannedRoute)
    (l : List SyncExchange) : Prop :=
  ∃ g, (groups (plan listed rs))[i]? = some g ∧
    AsksFor listed connector g (Pool.exchanges i pre) q p l

theorem exists_group_of_place {d : SyncDialogue (List (Nat × RouteOutcome))}
    (hd : ((groups (plan listed rs)).map (syncGroup listed connector))[i]? = some d) :
    ∃ g, (groups (plan listed rs))[i]? = some g ∧ syncGroup listed connector g = d := by
  simpa using hd

/-- Every request is made on behalf of a planned route. -/
theorem exists_askedFor {r : BrokerRequest} (hr : Pool.Runs bound (pool listed connector rs)
      (pre ++ .asked i (.request r) :: post) s) :
    ∃ p l, AskedFor listed connector rs pre i (.request r) p l := by
  obtain ⟨d, hd, hasks⟩ := hr.asks_exchanges
  obtain ⟨g, hg, rfl⟩ := exists_group_of_place hd
  obtain ⟨p, l, h⟩ | ⟨event, h⟩ := asks_syncGroup hasks
  · exact ⟨p, l, g, hg, h⟩
  · cases h

/-- Every request of a run was made at some time in some place. -/
theorem exists_asked {r : BrokerRequest} (hr : r ∈ requests (Pool.questions es)) :
    ∃ i pre post, es = pre ++ .asked i (.request r) :: post := by
  obtain ⟨q, hq, hqr⟩ := List.mem_filterMap.mp hr
  cases q with
  | isCancelled => cases hqr
  | log => cases hqr
  | request r' =>
    obtain rfl : r' = r := by simpa [SyncStep.request?] using hqr
    obtain ⟨i, hi⟩ := Pool.mem_questions.mp hq
    obtain ⟨pre, post, rfl⟩ := List.append_of_mem hi
    exact ⟨i, pre, post, rfl⟩

/-- A request that is asked in a place is one of the requests. -/
theorem mem_requests_of_asked (h : .asked i q ∈ es) {r : BrokerRequest} (hq : q = .request r) :
    r ∈ requests (Pool.questions es) :=
  List.mem_filterMap.mpr ⟨q, Pool.mem_questions.mpr ⟨i, h⟩, by rw [hq]; rfl⟩

/-- What was answered in a place was asked for. -/
theorem mem_requests_of_exchange (hr : Pool.Runs bound (pool listed connector rs) es s)
    {x : SyncExchange} (hx : x ∈ Pool.exchanges i es) {r : BrokerRequest}
    (hq : x.question = .request r) : r ∈ requests (Pool.questions es) :=
  mem_requests_of_asked (hr.asked_of_answered (Pool.mem_exchanges.mp hx)) hq

theorem AskedFor.next {p : PlannedRoute} {l : List SyncExchange}
    (h : AskedFor listed connector rs pre i q p l) : p.Next listed connector l q := by
  obtain ⟨g, -, h⟩ := h
  exact h.next

/-- The planned route is one of the group in the place. -/
theorem AskedFor.exists_group {p : PlannedRoute} {l : List SyncExchange}
    (h : AskedFor listed connector rs pre i q p l) :
    ∃ g, (groups (plan listed rs))[i]? = some g ∧ p ∈ g := by
  obtain ⟨g, hg, h⟩ := h
  exact ⟨g, hg, h.mem⟩

theorem AskedFor.mem_plan {p : PlannedRoute} {l : List SyncExchange}
    (h : AskedFor listed connector rs pre i q p l) : p ∈ plan listed rs := by
  obtain ⟨g, hg, hp⟩ := h.exists_group
  exact (group_sublist (List.mem_of_getElem? hg)).subset hp

theorem AskedFor.route_mem {p : PlannedRoute} {l : List SyncExchange}
    (h : AskedFor listed connector rs pre i q p l) : p.route ∈ rs :=
  route_mem_of_mem_plan h.mem_plan

/-- The exchanges of the route are the last ones of the place. -/
theorem AskedFor.suffix {p : PlannedRoute} {l : List SyncExchange}
    (h : AskedFor listed connector rs pre i q p l) : l <:+ Pool.exchanges i pre := by
  obtain ⟨g, -, h⟩ := h
  exact h.suffix

/-- What was answered to a route was answered before. -/
theorem AskedFor.answered {p : PlannedRoute} {l : List SyncExchange}
    (h : AskedFor listed connector rs pre i q p l) {x : SyncExchange} (hx : x ∈ l) :
    .answered i x.question x.answer ∈ pre :=
  Pool.mem_exchanges.mp (h.suffix.subset hx)

end Pool

end Telemetry.Sync
