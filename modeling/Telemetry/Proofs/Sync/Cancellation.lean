import Telemetry.Proofs.Sync.Account
import Telemetry.Proofs.Sync.Schedule

/-!
# What a sync still asks when the caller has given up

A route looks whether the caller has given up before it writes its action and before it creates its
rule. It does not look again before it replaces a rule that was refused.

* `GivenUp`: whoever looks is told that the caller has given up.
* `Late`, `late_of_asked`: how a request can be made all the same.
* `Replaced`, `replaced_of_finished`: a rule that was refused is replaced.
* `requests_given_up`: if the open groups await the broker when the caller gives up, then there is a
  further request only if a rule is refused from then on; `replacement_given_up` has one.
-/

namespace Telemetry

/-- A request that replaces a rule. -/
def BrokerRequest.isRuleReplacement : BrokerRequest → Bool
  | updateRule .. => true
  | listActions | createAction _ | updateAction .. | createRule _ => false

namespace Sync

variable {listed : List RemoteAction} {connector : String} {rs : List Route} {bound : Nat}
  {pre mid post : List SyncEvent} {s s' : SyncPool} {i : Nat} {r : BrokerRequest}
  {p : PlannedRoute} {l : List SyncExchange}

/-- Whoever looks during these events is told that the caller has given up. -/
def GivenUp (es : List SyncEvent) : Prop := ∀ i, look false ∉ Pool.exchanges i es

theorem GivenUp.of_append (h : GivenUp (mid ++ post)) : GivenUp mid := by
  intro i hi
  refine h i ?_
  rw [Pool.exchanges_append]
  exact List.mem_append_left _ hi

/-- The question that a place is at: it is about to ask it, or it waits for the answer. -/
def questionAt? (s : SyncPool) (i : Nat) : Option SyncStep :=
  s.members[i]?.bind Participant.current?

/-- The open dialogues await answers of the broker. -/
def awaitsBroker (s : SyncPool) : Bool :=
  s.members.all fun
    | .pending (.request _) _ | .waiting _ | .finished _ => true
    | .pending .isCancelled _ | .pending (.log _) _ | .ready .. => false

/-! ## Late requests -/

/-- How a request comes to be made for a planned route after the caller has given up. The pool was
`s` then, and `es` are the events since. -/
inductive Late (s : SyncPool) (i : Nat) (es : List SyncEvent) (p : PlannedRoute) :
    BrokerRequest → Prop
  /-- It was about to be made: the route had looked before. -/
  | ready {r : BrokerRequest} {next : r.Answer → SyncDialogue (List (Nat × RouteOutcome))}
      (h : s.members[i]? = some (.ready (.request r) next)) : Late s i es p r
  /-- The rule had been refused, and this was about to be logged. -/
  | refused (status : Nat)
      (h : questionAt? s i = some (.log (ruleRefused p.route.rule.id status))) :
      Late s i es p (.updateRule p.route.rule.id (.ofRule p.route.rule))
  /-- The rule was about to be created, or the answer was awaited; and then it was refused. -/
  | refusal (status : Nat) (body : String)
      (h : questionAt? s i = some (.request (.createRule (.ofRule p.route.rule))))
      (answered : ruleCreation p.route.rule (.ok (.rejected status body)) ∈ Pool.exchanges i es) :
      Late s i es p (.updateRule p.route.rule.id (.ofRule p.route.rule))

/-- An end of a list without `x` is an end of what comes after the last `x`. -/
theorem suffix_of_not_mem {α : Type} {l l' t : List α} {x : α} (h : x :: t <:+ l ++ l')
    (hx : x ∉ l') : l' <:+ t := by
  obtain hle | hle := List.suffix_or_suffix_of_suffix h (List.suffix_append l l')
  · exact absurd (hle.subset List.mem_cons_self) hx
  · obtain rfl | hle := List.suffix_cons_iff.mp hle
    · exact absurd List.mem_cons_self hx
    · exact hle

/-- A route looked before it made a request. -/
theorem PlannedRoute.Next.looked (h : p.Next listed connector l (.request r)) :
    Sync.look false ∈ l := by
  cases h with
  | action => simp
  | rule => simp [actionDone]
  | replacement => simp [actionDone]

/-- What a route has done since its last look when it makes a request. -/
theorem PlannedRoute.Next.since_look {before since : List SyncExchange}
    (h : p.Next listed connector l (.request r)) (hl : l <:+ before ++ since)
    (hsince : Sync.look false ∉ since) : since = [] ∨
      r = .updateRule p.route.rule.id (.ofRule p.route.rule) ∧ ∃ status body,
        since = [logged (ruleRefused p.route.rule.id status)] ∨
        since = [ruleCreation p.route.rule (.ok (.rejected status body)),
          logged (ruleRefused p.route.rule.id status)] := by
  cases h with
  | action => exact .inl (List.suffix_nil.mp (suffix_of_not_mem hl hsince))
  | rule =>
    have hlast : [Sync.look false] <:+ p.actionDone listed connector := ⟨[_, _], rfl⟩
    exact .inl (List.suffix_nil.mp (suffix_of_not_mem (hlast.trans hl) hsince))
  | replacement status body =>
    have hlast : Sync.look false :: [ruleCreation p.route.rule (.ok (.rejected status body)),
        logged (ruleRefused p.route.rule.id status)] <:+ p.actionDone listed connector ++
          [ruleCreation p.route.rule (.ok (.rejected status body)),
            logged (ruleRefused p.route.rule.id status)] := ⟨[_, _], rfl⟩
    have hle := suffix_of_not_mem (hlast.trans hl) hsince
    obtain rfl | hle := List.suffix_cons_iff.mp hle
    · exact .inr ⟨rfl, status, body, .inr rfl⟩
    obtain rfl | hle := List.suffix_cons_iff.mp hle
    · exact .inr ⟨rfl, status, body, .inl rfl⟩
    · exact .inl (List.suffix_nil.mp hle)

/-- A place whose dialogue is open and goes on with an exchange is at its question. -/
theorem questionAt?_of_plays {m : Participant SyncStep SyncStep.Answer (List (Nat × RouteOutcome))}
    {d : SyncDialogue (List (Nat × RouteOutcome))} {x : SyncExchange} (hm : s.members[i]? = some m)
    (hopen : ∀ d, m ≠ .waiting d) (h : m.dialogue.Plays (x :: l) d) :
    questionAt? s i = some x.question := by
  cases m with
  | waiting d' => exact absurd rfl (hopen d')
  | ready q next =>
    cases h
    exact Option.bind_eq_some_iff.mpr ⟨_, hm, rfl⟩
  | pending q next =>
    cases h
    exact Option.bind_eq_some_iff.mpr ⟨_, hm, rfl⟩
  | finished a => cases h

/-- Whatever was listed, whatever the broker answers and however the groups are written side by
side: a request that is made after the caller has given up is a late one. -/
theorem late_of_asked (hpre : Pool.Runs bound (pool listed connector rs) pre s)
    (hpost : Pool.Runs bound s (mid ++ .asked i (.request r) :: post) s') (hgiven : GivenUp mid) :
    ∃ p ∈ plan listed rs, Late s i mid p r := by
  have hruns := hpre.append hpost
  rw [← List.append_assoc] at hruns
  obtain ⟨p, l, h⟩ := exists_askedFor hruns
  refine ⟨p, h.mem_plan, ?_⟩
  have hsuffix : l <:+ Pool.exchanges i pre ++ Pool.exchanges i mid := by
    rw [← Pool.exchanges_append]
    exact h.suffix
  obtain ⟨m, next, hm, hplays, howed⟩ := hpost.since_asked
  -- The last look came before, so the place was open when the caller gave up.
  have hopen : ∀ d, m ≠ .waiting d := by
    rintro d rfl
    rw [hpre.exchanges_of_waiting hm] at hsuffix
    exact hgiven i (hsuffix.subset h.next.looked)
  obtain hnone | ⟨rfl, status, body, hone | htwo⟩ := h.next.since_look hsuffix (hgiven i)
  · rw [hnone] at hplays howed
    cases m with
    | ready q next' =>
      cases hplays
      exact .ready hm
    | pending q next' => cases howed
    | waiting d => exact absurd rfl (hopen d)
    | finished a => cases hplays
  · rw [hone] at hplays
    exact .refused status (questionAt?_of_plays hm hopen hplays)
  · rw [htwo] at hplays
    exact .refusal status body (questionAt?_of_plays hm hopen hplays) (by simp [htwo])

/-- If the open groups await the broker when the caller gives up, a late request replaces a rule
that was refused since. -/
theorem Late.refused_since (h : Late s i mid p r) (hs : awaitsBroker s = true) :
    ∃ status body,
      ruleCreation p.route.rule (.ok (.rejected status body)) ∈ Pool.exchanges i mid := by
  cases h with
  | ready hm =>
    have hawaits := List.all_eq_true.mp hs _ (List.mem_of_getElem? hm)
    cases hawaits
  | refused status hq =>
    obtain ⟨m, hm, hcurrent⟩ := Option.bind_eq_some_iff.mp hq
    have hawaits := List.all_eq_true.mp hs _ (List.mem_of_getElem? hm)
    cases m with
    | ready => cases hawaits
    | pending q next =>
      cases hcurrent
      cases hawaits
    | waiting => cases hcurrent
    | finished => cases hcurrent
  | refusal status body _ hanswered => exact ⟨status, body, hanswered⟩

/-! ## Refused rules -/

/-- After every refusal of a rule comes the answer to the replacement of this rule. -/
def Replaced : List SyncExchange → Prop
  | [] => True
  | x :: l => (∀ r status body, x = ruleCreation r (.ok (.rejected status body)) →
      ∃ y, ruleReplacement r y ∈ l) ∧ Replaced l

theorem Replaced.cons {x : SyncExchange} (hl : Replaced l)
    (hx : ∀ status body, reply x ≠ .creation (.ok (.rejected status body))) : Replaced (x :: l) :=
  ⟨fun _ status body h => absurd (congrArg reply h) (hx status body), hl⟩

theorem Replaced.append {l' : List SyncExchange} (h : Replaced l) (h' : Replaced l') :
    Replaced (l ++ l') := by
  induction l with
  | nil => exact h'
  | cons x l ih =>
    refine ⟨fun r status body hx => ?_, ih h.2⟩
    obtain ⟨y, hy⟩ := h.1 r status body hx
    exact ⟨y, List.mem_append_left _ hy⟩

theorem Replaced.of_append {l' : List SyncExchange} (h : Replaced (l ++ l')) : Replaced l' := by
  induction l with
  | nil => exact h
  | cons x l ih => exact ih h.2

/-- Two rules with the same body are replaced alike. -/
theorem ruleReplacement_eq {r r' : RuleSpec} {x y : Except Error RuleCreation}
    (h : ruleCreation r x = ruleCreation r' y) : ruleReplacement r = ruleReplacement r' := by
  have hbody : RulePayload.ofRule r = .ofRule r' := by
    have hquestion := congrArg Exchange.question h
    exact BrokerRequest.createRule.inj (SyncStep.request.inj hquestion)
  have hid : r.id = r'.id := congrArg RulePayload.id hbody
  unfold ruleReplacement
  rw [hbody, hid]

theorem replaced_refusal (r : RuleSpec) (status : Nat) (body : String) (event : LogEvent)
    (x : Except Error Unit) : Replaced [ruleCreation r (.ok (.rejected status body)),
      logged event, ruleReplacement r x] := by
  refine ⟨fun r' status' body' h => ⟨x, ?_⟩, .cons (.cons trivial (by simp)) (by simp)⟩
  simp [ruleReplacement_eq h]

namespace PlannedRoute

theorem replaced_actionDone (h : Replaced l) : Replaced (p.actionDone listed connector ++ l) :=
  .cons (.cons (.cons h (by simp)) (by simp)) (by simp)

/-- A route that ends has replaced its rule if it was refused. -/
theorem Ends.replaces_refused {status : RouteStatus} (h : p.Ends listed connector l status) :
    Replaced l := by
  cases h with
  | skipped => exact .cons trivial (by simp)
  | action e => exact .cons (.cons trivial (by simp)) (by simp)
  | ruleSkipped => exact .cons (.cons (.cons trivial (by simp)) (by simp)) (by simp)
  | rule e => exact replaced_actionDone (.cons trivial (by simp))
  | created => exact replaced_actionDone (.cons trivial (by simp))
  | replacement code body e => exact replaced_actionDone (replaced_refusal ..)
  | replaced code body => exact replaced_actionDone (replaced_refusal ..)

theorem replaced_telling (status : RouteStatus) : Replaced (p.telling status) := by
  cases status with
  | synced => trivial
  | failed stage e => exact .cons trivial (by simp)

end PlannedRoute

/-- In a finished run every rule that was refused was replaced. -/
theorem replaced_of_finished {es : List SyncEvent}
    (hr : Pool.Runs bound (pool listed connector rs) es s) (hfinished : s.isFinished = true)
    {g : List PlannedRoute} (hg : (groups (plan listed rs))[i]? = some g) :
    Replaced (Pool.exchanges i es) := by
  obtain ⟨course, hexchanges, hends, -⟩ := report_courses hr hfinished
  rw [hexchanges i g hg]
  have hgroup : ∀ p ∈ g, Replaced ((course p).all p) := by
    intro p hp
    have hplan := (group_sublist (List.mem_of_getElem? hg)).subset hp
    exact (hends p hplan).replaces_refused.append (PlannedRoute.replaced_telling _)
  clear hg
  induction g with
  | nil => trivial
  | cons p ps ih =>
    obtain ⟨hp, hps⟩ := List.forall_mem_cons.mp hgroup
    rw [List.flatMap_cons]
    exact hp.append (ih hps)

/-- A rule that is refused from some moment on is replaced after this moment. -/
theorem replacement_of_refusal (hpre : Pool.Runs bound (pool listed connector rs) pre s)
    (hpost : Pool.Runs bound s post s') (hfinished : s'.isFinished = true) {r : RuleSpec}
    {status : Nat} {body : String}
    (hx : ruleCreation r (.ok (.rejected status body)) ∈ Pool.exchanges i post) :
    .updateRule r.id (.ofRule r) ∈ requests (Pool.questions post) := by
  have hruns := hpre.append hpost
  have hplace := hruns.place_lt _ (List.mem_append_right _ (Pool.mem_exchanges.mp hx))
  have hi : i < (groups (plan listed rs)).length := by
    simpa [pool, Pool.ofDialogues, PoolEvent.place] using hplace
  have hreplaced := replaced_of_finished hruns hfinished (List.getElem?_eq_getElem hi)
  obtain ⟨l, l', hl⟩ := List.append_of_mem hx
  rw [Pool.exchanges_append, hl] at hreplaced
  obtain ⟨y, hy⟩ := hreplaced.of_append.of_append.1 r status body rfl
  exact mem_requests_of_asked (hpost.asked_between hl hy) rfl

/-! ## Every run -/

/-- Whatever was listed, whatever the broker answers, whenever the caller gives up and however the
groups are written side by side: a request that is made from then on was about to be made, or it
replaces a rule that was refused. So there is none if the open groups await the broker when the
caller gives up, and no rule is refused from then on; and every rule that is refused from then on is
replaced all the same. -/
theorem requests_given_up (hpre : Pool.Runs bound (pool listed connector rs) pre s)
    (hpost : Pool.Runs bound s post s') (hgiven : GivenUp post) :
    (∀ mid i r rest, post = mid ++ .asked i (.request r) :: rest →
      ∃ p ∈ plan listed rs, Late s i mid p r) ∧
    (awaitsBroker s = true →
      (∀ i r status body,
        ruleCreation r (.ok (.rejected status body)) ∉ Pool.exchanges i post) →
      requests (Pool.questions post) = []) ∧
    (s'.isFinished = true → ∀ i r status body,
      ruleCreation r (.ok (.rejected status body)) ∈ Pool.exchanges i post →
      .updateRule r.id (.ofRule r) ∈ requests (Pool.questions post)) := by
  have hlate : ∀ mid i r rest, post = mid ++ .asked i (.request r) :: rest →
      ∃ p ∈ plan listed rs, Late s i mid p r := by
    rintro mid i r rest rfl
    exact late_of_asked hpre hpost hgiven.of_append
  refine ⟨hlate, fun hawaits hrefused => ?_, fun hfinished i r status body hx => ?_⟩
  · refine List.eq_nil_iff_forall_not_mem.mpr fun r hr => ?_
    obtain ⟨i, mid, rest, rfl⟩ := exists_asked hr
    obtain ⟨p, -, h⟩ := hlate mid i r rest rfl
    obtain ⟨status, body, hanswered⟩ := h.refused_since hawaits
    refine hrefused i p.route.rule status body ?_
    rw [Pool.exchanges_append]
    exact List.mem_append_left _ hanswered
  · exact replacement_of_refusal hpre hpost hfinished hx

/-- A broker that answers every creation of a rule with `x` and accepts everything else. The caller
has given up or not, and stays so. -/
def creatingRules (x : RuleCreation) : (q : SyncStep) → Bool → q.Answer × Bool
  | .isCancelled, cancelled => (cancelled, cancelled)
  | .request (.createRule _), cancelled => ((.ok x : Except Error RuleCreation), cancelled)
  | q, cancelled => ((accepted q ()).1, cancelled)

theorem creatingRules_keeps {x : RuleCreation} (q : SyncStep) (cancelled : Bool) :
    (creatingRules x q cancelled).2 = cancelled := by
  cases q with
  | request r => cases r <;> rfl
  | isCancelled => rfl
  | log => rfl

theorem givenUp_of_served {x : RuleCreation} {es : List SyncEvent}
    (h : Pool.Served (creatingRules x) true es) : GivenUp es := by
  intro i hlook
  obtain ⟨cancelled, rfl, hanswer⟩ := h.exists_state (· = true) rfl
    (fun q t ht => (creatingRules_keeps q t).trans ht) (Pool.mem_exchanges.mp hlook)
  cases hanswer

theorem creation_of_served {x : RuleCreation} {y : Except Error RuleCreation} {r : RuleSpec}
    {cancelled : Bool} {es : List SyncEvent} (h : Pool.Served (creatingRules x) cancelled es)
    (hy : ruleCreation r y ∈ Pool.exchanges i es) : y = .ok x := by
  obtain ⟨_, -, hanswer⟩ :=
    h.exists_state (fun _ => True) trivial (fun _ _ _ => trivial) (Pool.mem_exchanges.mp hy)
  exact hanswer

/-- Two groups are written until the one creates a rule and the other one an action; then the caller
gives up, and the group of the rule makes this many moves. -/
theorem exists_given_up_threeStreams (x : RuleCreation) (moves : Nat) (replaces : Bool)
    (h : ((Tour.start (pool [] "influx" (threeStreams.routes .standard)) false).visits
        (creatingRules x) 2 (List.replicate 8 0 ++ List.replicate 4 1)).bind (fun t =>
      ((Tour.start t.pool true).visits (creatingRules x) 2
        (List.replicate moves 0 ++ List.replicate 5 1)).map fun t' =>
      (awaitsBroker t.pool, t'.pool.isFinished, (requests (Pool.questions t'.events)).any
        BrokerRequest.isRuleReplacement)) = some (true, true, replaces)) :
    ∃ pre s post s',
      Pool.Runs 2 (pool [] "influx" (threeStreams.routes .standard)) pre s ∧
      Pool.Runs 2 s post s' ∧ Pool.Served (creatingRules x) true post ∧
      awaitsBroker s = true ∧ s'.isFinished = true ∧
      (requests (Pool.questions post)).any BrokerRequest.isRuleReplacement = replaces := by
  obtain ⟨t, ht, h⟩ := Option.bind_eq_some_iff.mp h
  obtain ⟨t', ht', h⟩ := Option.map_eq_some_iff.mp h
  simp only [Prod.mk.injEq] at h
  obtain ⟨hruns, -⟩ := Tour.runs ht
  obtain ⟨hruns', hserved⟩ := Tour.runs ht'
  exact ⟨t.events, t.pool, t'.events, t'.pool, hruns, hruns', hserved, h⟩

/-- A rule is created when the caller gives up, and it is not refused: nothing is asked any more. -/
theorem requests_given_up_threeStreams : ∃ pre s post s',
    Pool.Runs 2 (pool [] "influx" (threeStreams.routes .standard)) pre s ∧
    Pool.Runs 2 s post s' ∧ GivenUp post ∧ awaitsBroker s = true ∧ s'.isFinished = true ∧
    requests (Pool.questions post) = [] := by
  obtain ⟨pre, s, post, s', hpre, hpost, hserved, hawaits, hfinished, -⟩ :=
    exists_given_up_threeStreams .created 5 false (by decide +kernel)
  have hgiven := givenUp_of_served hserved
  obtain ⟨-, hnone, -⟩ := requests_given_up hpre hpost hgiven
  refine ⟨pre, s, post, s', hpre, hpost, hgiven, hawaits, hfinished,
    hnone hawaits fun i r status body hrefused => ?_⟩
  cases creation_of_served hserved hrefused

/-- A rule is created when the caller gives up, and it is refused: then it is replaced. -/
theorem replacement_given_up : ∃ pre s post s' i id body,
    Pool.Runs 2 (pool [] "influx" (threeStreams.routes .standard)) pre s ∧
    Pool.Runs 2 s post s' ∧ GivenUp post ∧ awaitsBroker s = true ∧
    .asked i (.request (.updateRule id body)) ∈ post := by
  obtain ⟨pre, s, post, s', hpre, hpost, hserved, hawaits, -, hany⟩ :=
    exists_given_up_threeStreams (.rejected 400 "ALREADY_EXISTS") 9 true (by decide +kernel)
  obtain ⟨r, hr, hupdate⟩ := List.any_eq_true.mp hany
  obtain ⟨i, mid, rest, rfl⟩ := exists_asked hr
  cases r with
  | updateRule id body =>
    exact ⟨pre, s, _, s', i, id, body, hpre, hpost, givenUp_of_served hserved, hawaits, by simp⟩
  | listActions => cases hupdate
  | createAction => cases hupdate
  | updateAction => cases hupdate
  | createRule => cases hupdate

end Sync

end Telemetry
