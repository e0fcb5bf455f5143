import Telemetry.Proofs.Sync.Course
import Telemetry.Proofs.Sync.LastBody
import Telemetry.Proofs.Sync.Schedule

/-!
# Which actions are replaced

Whether an action is created or replaced is planned before anything is written, and a route that
fails does not stop the others.

* `CreationAnswered`: the request to create an action was answered.
* `replacement_after_creation`: an action that is replaced was listed, or the request to create it
  was answered before; `replacement_without_creation`: the answer may be that it failed.
-/

namespace Telemetry.Sync

/-- Who was told that the caller has given up is never told the contrary. -/
def StaysCancelled (es : List SyncEvent) : Prop :=
  ∀ i l l', Pool.exchanges i es = l ++ l' → look true ∈ l → look false ∉ l'

/-- A request to create the action of a name was answered so. -/
def CreationAnswered (es : List SyncEvent) (name : String) (x : Except Error Unit) : Prop :=
  ∃ i body, body.name = some name ∧ .answered i (.request (.createAction body)) x ∈ es

variable {listed : List RemoteAction} {connector : String} {rs : List Route} {bound : Nat}
  {pre post : List SyncEvent} {s : SyncPool} {i : Nat} {p : PlannedRoute} {l : List SyncExchange}

/-- A route that ended was told that the caller has given up, or its action has its answer. -/
theorem PlannedRoute.Ends.skipped_or_answered {status : RouteStatus}
    (h : p.Ends listed connector l status) :
    look true ∈ l ∧ status = .failed .action (Sync.skipped p.actionName) ∨
      ∃ x, p.actionExchange listed connector x ∈ l := by
  cases h with
  | skipped => exact .inl ⟨by simp, rfl⟩
  | action e => exact .inr ⟨.error e, by simp⟩
  | ruleSkipped => exact .inr ⟨.ok (), by simp⟩
  | rule e => exact .inr ⟨.ok (), by simp [actionDone]⟩
  | created => exact .inr ⟨.ok (), by simp [actionDone]⟩
  | replacement status body e => exact .inr ⟨.ok (), by simp [actionDone]⟩
  | replaced status body => exact .inr ⟨.ok (), by simp [actionDone]⟩

/-- The routes of a place that come before the one that it asks for are through. -/
theorem AskedFor.through {q : SyncStep} (h : AskedFor listed connector rs pre i q p l)
    {c : PlannedRoute} (hc : c ∈ plan listed rs) (hname : c.actionName = p.actionName)
    (hindex : c.index < p.index) : ∃ l₁ l' status, Pool.exchanges i pre = l₁ ++ l ∧
      l' <:+: l₁ ∧ c.Ends listed connector l' status := by
  obtain ⟨g, hg, ps, ps', l₁, outcomes, rfl, hl, hplays, -⟩ := h
  have hgroup := List.mem_of_getElem? hg
  have hsorted := (sorted_plan listed rs).sublist (group_sublist hgroup)
  have hbefore : c ∈ ps := by
    obtain hps | hps := List.mem_append.mp (mem_group hgroup (p := p) (by simp) hc hname)
    · exact hps
    obtain rfl | hps := List.mem_cons.mp hps
    · exact absurd hindex (Nat.lt_irrefl _)
    · have hafter := (List.pairwise_cons.mp (List.pairwise_append.mp hsorted).2.1).1 c hps
      exact absurd hindex (Nat.lt_asymm hafter)
  obtain ⟨-, -, l', status, hl', hends, -⟩ :=
    exists_partner (plays_syncGroup_outcomes hplays) hbefore
  exact ⟨l₁, l', status, hl, hl', hends⟩

/-- However the groups are written side by side, whatever was listed and whatever the broker
answers: an action that is replaced was listed, or a request to create it was answered before in
this sync. -/
theorem replacement_after_creation {name : String} {body : ActionPayload}
    (hr : Pool.Runs bound (pool listed connector rs)
      (pre ++ .asked i (.request (.updateAction name body)) :: post) s)
    (hcancelled : StaysCancelled pre) :
    name ∈ listed.map (·.name) ∨ ∃ x, CreationAnswered pre name x := by
  obtain ⟨p, l, h⟩ := exists_askedFor hr
  obtain ⟨rfl, hstep, rfl⟩ := h.next.of_replacement
  obtain hlisted | ⟨c, hc, hname, hcstep, hindex⟩ := exists_creator h.mem_plan hstep
  · exact .inl hlisted
  obtain ⟨l₁, l', status, hl, hl', hends⟩ := h.through hc hname hindex
  obtain ⟨hskipped, -⟩ | ⟨x, hx⟩ := hends.skipped_or_answered
  · -- Then this route would have been told so, too.
    exact absurd (by simp) (hcancelled i l₁ _ hl (hl'.subset hskipped))
  · have hx : c.actionExchange listed connector x ∈ Pool.exchanges i pre := by
      rw [hl]
      exact List.mem_append_left _ (hl'.subset hx)
    simp only [PlannedRoute.actionExchange, hcstep] at hx
    exact .inr ⟨x, i, _, congrArg some hname, Pool.mem_exchanges.mp hx⟩

/-- Surroundings in which nobody ever gives up. -/
theorem staysCancelled_of_served {σ : Type} {answer : (q : SyncStep) → σ → q.Answer × σ}
    (hanswer : ∀ t, (answer .isCancelled t).1 = false) {t : σ} {es : List SyncEvent}
    (hs : Pool.Served answer t es) : StaysCancelled es := by
  intro i l l' hl hlook
  have hmem : look true ∈ Pool.exchanges i es := by
    rw [hl]
    exact List.mem_append_left _ hlook
  obtain ⟨u, -, hu⟩ :=
    hs.exists_state (fun _ => True) trivial (fun _ _ _ => trivial) (Pool.mem_exchanges.mp hmem)
  cases hu.trans (hanswer u)

/-- Two devices that share an action are written until the action is replaced. -/
theorem exists_replacement_sharedSensor (listed : List RemoteAction) {σ : Type}
    (answer : (q : SyncStep) → σ → q.Answer × σ) (t : σ) (visits : Nat)
    (h : (((Tour.start (pool listed "influx" (sharedSensor.routes .standard)) t).visits answer 4
        (List.replicate visits 0)).map fun tour => (requests (Pool.questions tour.events)).any
          fun r => (r matches .updateAction ..) && r.subject == sharedAction) = some true) :
    ∃ pre post s i body, Pool.Runs 4 (pool listed "influx" (sharedSensor.routes .standard))
        (pre ++ .asked i (.request (.updateAction sharedAction body)) :: post) s ∧
      Pool.Served answer t pre := by
  obtain ⟨tour, htour, hany⟩ := Option.map_eq_some_iff.mp h
  obtain ⟨hruns, hserved⟩ := Tour.runs htour
  obtain ⟨r, hr, hupdate⟩ := List.any_eq_true.mp hany
  obtain ⟨i, pre, post, hes⟩ := exists_asked hr
  rw [hes] at hruns hserved
  cases r with
  | updateAction name body =>
    obtain rfl : name = sharedAction := by simpa [BrokerRequest.subject] using hupdate
    exact ⟨pre, post, _, i, body, hruns, hserved.of_append⟩
  | listActions => cases hupdate
  | createAction => cases hupdate
  | createRule => cases hupdate
  | updateRule => cases hupdate

/-- The action of two devices is created for the first one, and then replaced for the other one. -/
theorem replacement_after_creation_sharedSensor : ∃ pre post s i body,
    Pool.Runs 4 (pool [] "influx" (sharedSensor.routes .standard))
      (pre ++ .asked i (.request (.updateAction sharedAction body)) :: post) s ∧
    StaysCancelled pre ∧ ∃ x, CreationAnswered pre sharedAction x := by
  obtain ⟨pre, post, s, i, body, hruns, hserved⟩ :=
    exists_replacement_sharedSensor [] LocalBroker.accepting.answer [] 12 (by decide +kernel)
  have hcancelled := staysCancelled_of_served (fun _ => rfl) hserved
  obtain hlisted | hcreation := replacement_after_creation hruns hcancelled
  · cases hlisted
  · exact ⟨pre, post, s, i, body, hruns, hcancelled, hcreation⟩

/-- Nobody gives up, and the broker fails to create actions; so it knows none to replace. -/
def refusingActions : (q : SyncStep) → Unit → q.Answer × Unit
  | .isCancelled, _ => (false, ())
  | .request .listActions, _ => ((.ok [] : Except Error (List RemoteAction)), ())
  | .request (.createAction _), _ => ((.error (.remote 500 "boom") : Except Error Unit), ())
  | .request (.updateAction ..), _ => ((.error (.remote 404 "") : Except Error Unit), ())
  | .request (.createRule _), _ => ((.ok .created : Except Error RuleCreation), ())
  | .request (.updateRule ..), _ => ((.ok () : Except Error Unit), ())
  | .log _, _ => ((), ())

/-- The action of two devices could not be created for the first one, and it is replaced for the
other one all the same, although it is not there. -/
theorem replacement_without_creation : ∃ pre post s i body,
    Pool.Runs 4 (pool [] "influx" (sharedSensor.routes .standard))
      (pre ++ .asked i (.request (.updateAction sharedAction body)) :: post) s ∧
    Pool.Served refusingActions () pre ∧ StaysCancelled pre ∧
    sharedAction ∉ ([] : List RemoteAction).map (·.name) ∧
    ¬ CreationAnswered pre sharedAction (.ok ()) := by
  obtain ⟨pre, post, s, i, body, hruns, hserved⟩ :=
    exists_replacement_sharedSensor [] refusingActions () 10 (by decide +kernel)
  refine ⟨pre, post, s, i, body, hruns, hserved,
    staysCancelled_of_served (fun _ => rfl) hserved, by simp, ?_⟩
  rintro ⟨j, created, -, hanswered⟩
  obtain ⟨_, -, hx⟩ :=
    hserved.exists_state (fun _ => True) trivial (fun _ _ _ => trivial) hanswered
  cases hx

end Telemetry.Sync
