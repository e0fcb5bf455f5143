import Telemetry.Broker.State
import Telemetry.Proofs.Independence
import Telemetry.Proofs.Sync.Exclusion

/-!
# What a broker keeps over a sync

* `Dealt`: what may come of a step. A request may fail, be it before or after the broker has carried
  it out, and the caller may give up at any time; a step is `Carried` out if nothing of this happens.
* `Keeper`: surroundings of a sync that keep the state of a broker.
* `Keeper.grown`: what is kept after a run; `Keeper.Flawless.has`: what is kept if all steps are
  carried out.
* `Keeper.Syncs`: a sync on its way; `Keeper.Syncs.nodup_names`: it leaves no name twice.
-/

namespace Telemetry

attribute [ext] BrokerState

/-! ## What may come of a step -/

/-- The names of the actions that a broker keeps. -/
def BrokerState.names (b : BrokerState) : List String := b.actions.map (·.name)

@[simp] theorem BrokerState.names_addAction (b : BrokerState) (name : String) (time : Json) :
    (b.addAction name time).names = b.names ++ [name] := by
  simp [names, addAction]

/-- What a request leaves with a broker that carries it out. -/
def BrokerState.Has (b : BrokerState) : BrokerRequest → Prop
  | .createAction p => p.name.getD "" ∈ b.names
  | .createRule p => p.id ∈ b.rules
  | .listActions | .updateAction .. | .updateRule .. => True

/-- An answer that does not say that the request was carried out. -/
def BrokerRequest.Declined : (r : BrokerRequest) → r.Answer → Prop
  | .listActions, x => ∃ e, x = (.error e : Except Error (List RemoteAction))
  | .createAction _, x => ∃ e, x = (.error e : Except Error Unit)
  | .updateAction .., x => ∃ e, x = (.error e : Except Error Unit)
  | .createRule _, x => x ≠ (.ok .created : Except Error RuleCreation)
  | .updateRule .., x => ∃ e, x = (.error e : Except Error Unit)

theorem BrokerRequest.declined_failed (r : BrokerRequest) (e : Error) : r.Declined (r.failed e) := by
  cases r with
  | createRule => exact nofun
  | listActions => exact ⟨e, rfl⟩
  | createAction => exact ⟨e, rfl⟩
  | updateAction => exact ⟨e, rfl⟩
  | updateRule => exact ⟨e, rfl⟩

/-- What a request may change: a new action, or a new rule. -/
theorem BrokerState.perform_cases (b : BrokerState) (time : Json) (r : BrokerRequest) :
    (b.perform time r).2 = b ∨
    (∃ p, r = .createAction p ∧ (b.perform time r).2 = b.addAction (p.name.getD "") time) ∨
    (∃ p, r = .createRule p ∧ p.id ∉ b.rules ∧
      (b.perform time r).2 = { b with rules := b.rules ++ [p.id] }) := by
  cases r with
  | listActions => exact .inl rfl
  | createAction p => exact .inr (.inl ⟨p, rfl, rfl⟩)
  | updateAction => exact .inl rfl
  | createRule p =>
    by_cases hid : p.id ∈ b.rules
    · exact .inl (by simp [perform, addRule, hid])
    · exact .inr (.inr ⟨p, rfl, hid, by simp [perform, addRule, hid]⟩)
  | updateRule => exact .inl rfl

namespace Sync

/-- The step is carried out, and nobody gives up: the broker answers, and it keeps `b'` then. -/
def Carried (b : BrokerState) : (q : SyncStep) → q.Answer → BrokerState → Prop
  | .isCancelled, x, b' => x = false ∧ b' = b
  | .request r, x, b' => ∃ time, b.perform time r = (x, b')
  | .log _, _, b' => b' = b

/-- The step is carried out or fails. A request that fails may have been carried out before. -/
def Dealt (b : BrokerState) : (q : SyncStep) → q.Answer → BrokerState → Prop
  | .isCancelled, _, b' => b' = b
  | .request r, x, b' => ∃ time, b.perform time r = (x, b') ∨
      r.Declined x ∧ (b' = b ∨ b' = (b.perform time r).2)
  | .log _, _, b' => b' = b

section Steps

variable {b b' : BrokerState} {q : SyncStep} {x : q.Answer}

theorem Carried.dealt (h : Carried b q x b') : Dealt b q x b' := by
  cases q with
  | isCancelled => exact h.2
  | request r =>
    obtain ⟨time, h⟩ := h
    exact ⟨time, .inl h⟩
  | log => exact h

/-- All that a step may change. -/
theorem Dealt.cases (h : Dealt b q x b') : b' = b ∨
    (∃ p time, q = .request (.createAction p) ∧ b' = b.addAction (p.name.getD "") time) ∨
    (∃ p, q = .request (.createRule p) ∧ p.id ∉ b.rules ∧
      b' = { b with rules := b.rules ++ [p.id] }) := by
  cases q with
  | isCancelled => exact .inl h
  | log => exact .inl h
  | request r =>
    obtain ⟨time, h⟩ := h
    have hb' : b' = b ∨ b' = (b.perform time r).2 := by
      obtain h | ⟨-, h⟩ := h
      · exact .inr (by rw [h])
      · exact h
    obtain rfl | rfl := hb'
    · exact .inl rfl
    obtain h | ⟨p, rfl, h⟩ | ⟨p, rfl, hid, h⟩ := b.perform_cases time r
    · exact .inl h
    · exact .inr (.inl ⟨p, time, rfl, h⟩)
    · exact .inr (.inr ⟨p, rfl, hid, h⟩)

end Steps

/-! ## What is kept after some steps -/

/-- What a broker that kept `b` may keep after some steps. -/
structure Grown (b : BrokerState) (qs : List SyncStep) (b' : BrokerState) : Prop where
  actions : ∃ new, b'.actions = b.actions ++ new ∧
    (new.map (·.name)).Sublist (creations (requests qs))
  rules : ∃ new, b'.rules = b.rules ++ new ∧
    ∀ id ∈ new, id ∉ b.rules ∧ ∃ r ∈ requests qs, r.resource? = some (.rule id)

theorem grown_nil (b : BrokerState) : Grown b [] b :=
  ⟨⟨[], by simp, by simp⟩, ⟨[], by simp, by simp⟩⟩

/-- What one more step adds. -/
theorem Grown.step {b b₁ b₂ : BrokerState} {qs : List SyncStep} {q : SyncStep} {x : q.Answer}
    (h : Grown b qs b₁) (hd : Dealt b₁ q x b₂) : Grown b (qs ++ [q]) b₂ := by
  obtain ⟨⟨as, has, hnames⟩, ⟨ids, hids, hrules⟩⟩ := h
  have hcreations : creations (requests (qs ++ [q])) =
      creations (requests qs) ++ creations (requests [q]) := by
    rw [requests_append, creations_append]
  have hmore : ∀ id ∈ ids, id ∉ b.rules ∧
      ∃ r ∈ requests (qs ++ [q]), r.resource? = some (.rule id) := by
    intro id hid
    obtain ⟨hnew, r, hr, hrule⟩ := hrules id hid
    exact ⟨hnew, r, by simp [requests_append, hr], hrule⟩
  have hless : (as.map (·.name)).Sublist (creations (requests (qs ++ [q]))) := by
    rw [hcreations]
    exact hnames.trans (List.sublist_append_left ..)
  obtain rfl | ⟨p, time, rfl, rfl⟩ | ⟨p, rfl, hid, rfl⟩ := hd.cases
  · exact ⟨⟨as, has, hless⟩, ⟨ids, hids, hmore⟩⟩
  · refine ⟨⟨as ++ [⟨p.name.getD "", some actionType, some time, none⟩], ?_, ?_⟩,
      ⟨ids, hids, hmore⟩⟩
    · simp [BrokerState.addAction, has]
    · rw [hcreations, List.map_append]
      exact hnames.append (List.Sublist.refl _)
  · refine ⟨⟨as, has, hless⟩, ⟨ids ++ [p.id], by simp [hids], fun id hmem => ?_⟩⟩
    obtain hmem | hmem := List.mem_append.mp hmem
    · exact hmore id hmem
    · obtain rfl := List.mem_singleton.mp hmem
      refine ⟨fun hb => hid (by simp [hids, hb]), .createRule p, ?_, rfl⟩
      rw [requests_append]
      exact List.mem_append_right _ (List.mem_singleton.mpr rfl)

section Grown

variable {b b' : BrokerState} {qs : List SyncStep}

theorem Grown.actions_prefix (h : Grown b qs b') : b.actions <+: b'.actions := by
  obtain ⟨new, hnew, -⟩ := h.actions
  exact ⟨new, hnew.symm⟩

theorem Grown.rules_prefix (h : Grown b qs b') : b.rules <+: b'.rules := by
  obtain ⟨new, hnew, -⟩ := h.rules
  exact ⟨new, hnew.symm⟩

/-- The names of the new actions come after those that were there. -/
theorem Grown.names_eq (h : Grown b qs b') :
    ∃ new, b'.names = b.names ++ new ∧ new.Sublist (creations (requests qs)) := by
  obtain ⟨new, hnew, hsub⟩ := h.actions
  refine ⟨new.map (·.name), ?_, hsub⟩
  rw [BrokerState.names, hnew, List.map_append]
  rfl

theorem Grown.names_subset (h : Grown b qs b') : b.names ⊆ b'.names := by
  obtain ⟨new, hnew, -⟩ := h.names_eq
  rw [hnew]
  exact List.subset_append_left ..

theorem Grown.mem_names (h : Grown b qs b') {name : String} (hname : name ∈ b'.names) :
    name ∈ b.names ∨ name ∈ creations (requests qs) := by
  obtain ⟨new, hnew, hsub⟩ := h.names_eq
  rw [hnew] at hname
  exact (List.mem_append.mp hname).imp_right fun h => hsub.subset h

theorem Grown.mem_rules (h : Grown b qs b') {id : String} (hid : id ∈ b'.rules) :
    id ∈ b.rules ∨ id ∉ b.rules ∧ ∃ r ∈ requests qs, r.resource? = some (.rule id) := by
  obtain ⟨new, hnew, hrules⟩ := h.rules
  rw [hnew] at hid
  exact (List.mem_append.mp hid).imp_right (hrules id)

end Grown

/-- A broker loses nothing. -/
theorem Dealt.has {b b' : BrokerState} {q : SyncStep} {x : q.Answer} (h : Dealt b q x b')
    {r : BrokerRequest} (hr : b.Has r) : b'.Has r := by
  obtain rfl | ⟨p, time, -, rfl⟩ | ⟨p, -, -, rfl⟩ := h.cases
  · exact hr
  · cases r with
    | createAction p' =>
      rw [BrokerState.Has, BrokerState.names_addAction]
      exact List.mem_append_left _ hr
    | createRule => exact hr
    | listActions => trivial
    | updateAction => trivial
    | updateRule => trivial
  · cases r with
    | createAction => exact hr
    | createRule => exact List.mem_append_left _ hr
    | listActions => trivial
    | updateAction => trivial
    | updateRule => trivial

/-- A request that is carried out leaves what it asks for. -/
theorem Carried.has {b b' : BrokerState} {r : BrokerRequest} {x : r.Answer}
    (h : Carried b (.request r) x b') : b'.Has r := by
  obtain ⟨time, h⟩ := h
  obtain rfl : (b.perform time r).2 = b' := by rw [h]
  cases r with
  | createAction p => simp [BrokerState.Has, BrokerState.perform]
  | createRule p =>
    by_cases hid : p.id ∈ b.rules
    · simp [BrokerState.Has, BrokerState.perform, BrokerState.addRule, hid]
    · simp [BrokerState.Has, BrokerState.perform, BrokerState.addRule, hid]
  | listActions => trivial
  | updateAction => trivial
  | updateRule => trivial

/-! ## Surroundings that keep the state of a broker -/

/-- Surroundings of a sync, with a broker whose state they keep. -/
structure Keeper (σ : Type) where
  answer : (q : SyncStep) → σ → q.Answer × σ
  kept : σ → BrokerState
  dealt : ∀ q s, Dealt (kept s) q (answer q s).1 (kept (answer q s).2)

namespace Keeper

variable {σ : Type} (k : Keeper σ)

/-- Every step is carried out, and nobody gives up. -/
def Flawless : Prop :=
  ∀ q s, Carried (k.kept s) q (k.answer q s).1 (k.kept (k.answer q s).2)

/-- What is kept after a run. -/
theorem grown (s : σ) (es : List SyncEvent) :
    Grown (k.kept s) (Pool.questions es) (k.kept (Surroundings.after k.answer s es).state) :=
  Surroundings.after_induct (fun qs t => Grown (k.kept s) qs (k.kept t)) (grown_nil _)
    (fun _ q t h => h.step (k.dealt q t)) es

variable {k}

/-- If all steps are carried out, all that was asked for is there after a run. -/
theorem Flawless.has (hk : k.Flawless) (s : σ) (es : List SyncEvent) :
    ∀ r ∈ requests (Pool.questions es), (k.kept (Surroundings.after k.answer s es).state).Has r := by
  refine Surroundings.after_induct (fun qs t => ∀ r ∈ requests qs, (k.kept t).Has r)
    (by simp [requests]) (fun qs q t h r hr => ?_) es
  rw [requests_append] at hr
  obtain hr | hr := List.mem_append.mp hr
  · exact (k.dealt q t).has (h r hr)
  · cases q with
    | isCancelled => cases hr
    | log => cases hr
    | request r' =>
      obtain rfl : r = r' := List.mem_singleton.mp hr
      exact (hk (.request r) t).has

/-! ## A sync on its way -/

variable (k) in
/-- The surroundings after the listing of the actions. -/
def listing (s : σ) : σ := (k.answer (.request .listActions) s).2

variable (k) in
/-- A sync of routes on its way: these actions were listed, these events have happened since, the
pool of groups has come to `p`, and the surroundings to `s'`. -/
structure Syncs (connector : String) (bound : Nat) (rs : List Route) (s : σ)
    (listed : List RemoteAction) (es : List SyncEvent) (p : SyncPool) (s' : σ) : Prop where
  listed_eq : (k.answer (.request .listActions) s).1 = .ok listed
  runs : Pool.Runs bound (pool listed connector rs) es p
  served : Pool.Served k.answer (k.listing s) es
  state_eq : (Surroundings.after k.answer (k.listing s) es).state = s'

/-- A listing changes nothing. -/
theorem kept_listing (s : σ) : k.kept (k.listing s) = k.kept s := by
  obtain h | ⟨p, -, h, -⟩ | ⟨p, h, -⟩ := (k.dealt (.request .listActions) s).cases
  · exact h
  · cases h
  · cases h

/-- What was listed is what was there. -/
theorem listed_eq_actions {s : σ} {listed : List RemoteAction}
    (h : (k.answer (.request .listActions) s).1 = .ok listed) : listed = (k.kept s).actions := by
  obtain ⟨time, hd | ⟨⟨e, hd⟩, -⟩⟩ := k.dealt (.request .listActions) s
  · have hx := (congrArg Prod.fst hd).trans h
    exact (Except.ok.inj hx).symm
  · cases hd.symm.trans h

/-- A broker that carries out its requests lists its actions. -/
theorem Flawless.listed (hk : k.Flawless) (s : σ) :
    (k.answer (.request .listActions) s).1 = .ok (k.kept s).actions := by
  obtain ⟨time, h⟩ := hk (.request .listActions) s
  exact (congrArg Prod.fst h).symm

variable {connector : String} {bound : Nat} {rs : List Route} {s s' : σ}
  {listed : List RemoteAction} {es : List SyncEvent} {p : SyncPool}

namespace Syncs

theorem names_listed (h : k.Syncs connector bound rs s listed es p s') :
    listed.map (·.name) = (k.kept s).names := by
  rw [listed_eq_actions h.listed_eq]
  rfl

/-- What is kept since the sync began. -/
theorem grown (h : k.Syncs connector bound rs s listed es p s') :
    Grown (k.kept s) (Pool.questions es) (k.kept s') := by
  obtain ⟨-, -, -, rfl⟩ := h
  have h := k.grown (k.listing s) es
  rwa [kept_listing] at h

/-- If nothing fails, all that was asked for is there. -/
theorem has (hk : k.Flawless) (h : k.Syncs connector bound rs s listed es p s') :
    ∀ r ∈ requests (Pool.questions es), (k.kept s').Has r := by
  obtain ⟨-, -, -, rfl⟩ := h
  exact hk.has (k.listing s) es

/-- A sync leaves no name twice, whatever fails and whenever the caller gives up. -/
theorem nodup_names (h : k.Syncs connector bound rs s listed es p s')
    (hnodup : (k.kept s).names.Nodup) : (k.kept s').names.Nodup := by
  obtain ⟨new, hnames, hnew⟩ := h.grown.names_eq
  rw [hnames]
  refine hnodup.append ((nodup_creations h.runs).sublist hnew) fun name hold hname => ?_
  have hcreated := (mem_creations h.runs (hnew.subset hname)).1
  rw [h.names_listed] at hcreated
  exact hcreated hold

end Syncs

end Keeper

end Sync

end Telemetry
