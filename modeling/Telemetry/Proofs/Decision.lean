import Telemetry.Proofs.Independence
import Telemetry.Proofs.Results

/-!
# What is decided side by side

* `Pool.decidedFrom?_eq`: what a pool decides early is what its results come to in order.
* `Pool.exists_decided`: a finished pool has decided.
* `Independent.decided_eq`: dialogues that keep out of each other's way decide what they come to
  alone, in their order.
-/

namespace Telemetry

variable {Q : Type} {A : Q → Type} {α β ε σ : Type}

namespace Pool

/-- What is decided, as soon as it is, is what the results come to in order, those that are still to
come among them. -/
theorem decidedFrom?_eq {ms : List (Participant Q A (Except ε β))} {as : List (Except ε β)}
    {r : Except ε (List β)}
    (h : List.Forall₂ (fun (m : Participant Q A (Except ε β)) a =>
      ∀ x, m.result? = some x → x = a) ms as)
    (hr : decidedFrom? ms = some r) : as.mapM id = r := by
  induction h generalizing r with
  | nil => exact Option.some.inj hr
  | cons hm _ ih =>
    rw [decidedFrom?] at hr
    rw [List.mapM_cons, id]
    split at hr
    · cases hr
    · next e he =>
      rw [← hm _ he]
      exact Option.some.inj hr
    · next x hx =>
      obtain ⟨r', hr', rfl⟩ := Option.map_eq_some_iff.mp hr
      rw [← hm _ hx, ih hr']
      cases r' <;> rfl

theorem exists_decidedFrom {ms : List (Participant Q A (Except ε β))}
    (h : ∀ m ∈ ms, m.result?.isSome = true) : ∃ r, decidedFrom? ms = some r := by
  induction ms with
  | nil => exact ⟨_, rfl⟩
  | cons m ms ih =>
    obtain ⟨hm, hms⟩ := List.forall_mem_cons.mp h
    obtain ⟨a, ha⟩ := Option.isSome_iff_exists.mp hm
    obtain ⟨r, hr⟩ := ih hms
    rw [decidedFrom?, ha, hr]
    cases a with
    | error e => exact ⟨_, rfl⟩
    | ok x => exact ⟨_, rfl⟩

/-- A finished pool has decided. -/
theorem exists_decided {p : Pool Q A (Except ε β)} (hp : p.isFinished = true) :
    ∃ r, p.decided? = some r :=
  exists_decidedFrom (List.all_eq_true.mp hp)

end Pool

namespace Independent

open Pool

variable {answer : (q : Q) → σ → A q × σ} {mayAsk : Nat → Q → Prop} {alike : Nat → σ → σ → Prop}

/-- A dialogue that is finished ended as it does alone, whatever the others have come to. -/
theorem result_eq {ds : List (Dialogue Q A α)} (h : Independent answer ds mayAsk alike)
    {bound : Nat} {p : Pool Q A α} {es : List (PoolEvent Q A)}
    (hr : Runs bound (ofDialogues ds) es p) {s : σ} (hs : Served answer s es) {i : Nat}
    {d : Dialogue Q A α} (hd : ds[i]? = some d) {m : Participant Q A α}
    (hm : p.members[i]? = some m) {a : α} (ha : m.result? = some a) :
    a = (d.run answer s).1 := by
  obtain ⟨m', hm', -, u, hrun, -⟩ := h.follows hr hs hd
  obtain rfl := Option.some.inj (hm.symm.trans hm')
  cases m with
  | finished a' =>
    obtain rfl := Option.some.inj ha
    rw [hrun]
    rfl
  | waiting => cases ha
  | ready => cases ha
  | pending => cases ha

/-- Dialogues that keep out of each other's way decide what they come to alone, in their order. -/
theorem decided_eq {ds : List (Dialogue Q A (Except ε β))}
    (h : Independent answer ds mayAsk alike) {bound : Nat} {p : Pool Q A (Except ε β)}
    {es : List (PoolEvent Q A)} (hr : Runs bound (ofDialogues ds) es p) {s : σ}
    (hs : Served answer s es) {r : Except ε (List β)} (hdec : p.decided? = some r) :
    ds.mapM (fun d => (d.run answer s).1) = r := by
  have hmap : (ds.map fun d => (d.run answer s).1).mapM id =
      ds.mapM fun d => (d.run answer s).1 := List.mapM_map
  rw [← hmap]
  refine decidedFrom?_eq (List.forall₂_iff_get.mpr ⟨?_, fun i hi hi' x hx => ?_⟩) hdec
  · simpa [ofDialogues] using hr.length_eq
  · have hi' : i < ds.length := by simpa using hi'
    have hres := h.result_eq hr hs (List.getElem?_eq_getElem hi') (List.getElem?_eq_getElem hi) hx
    simpa using hres

end Independent

end Telemetry
