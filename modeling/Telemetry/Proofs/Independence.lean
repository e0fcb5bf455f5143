import Telemetry.Proofs.Pool

/-!
# Dialogues that keep out of each other's way

The questions of a run are dealt with by the state of the surroundings in the order in which they
are asked; an answer may come back at any later time.

* `Pool.Served`: every answer of a run is the one that the surroundings had for it.
* `Independent`: what the other dialogues ask makes no difference to a dialogue.
* `Independent.run_alone`: such a dialogue ends as it does alone, and `Independent.run_inOrder`:
  also when one dialogue is run after the other.
* `Pool.exists_served_end`: such surroundings let every run go on to its end.
-/

namespace Telemetry

variable {Q : Type} {A : Q → Type} {α σ : Type}

/-! ## Surroundings with a state -/

/-- The state of the surroundings, and the state in which each place asked its last question. -/
structure Surroundings (σ : Type) where
  state : σ
  seen : Nat → σ

namespace Surroundings

/-- Surroundings that nobody has asked. -/
def start (s : σ) : Surroundings σ := ⟨s, fun _ => s⟩

/-- The surroundings after an event. -/
def next (answer : (q : Q) → σ → A q × σ) (L : Surroundings σ) : PoolEvent Q A → Surroundings σ
  | .asked i q => ⟨(answer q L.state).2, Function.update L.seen i L.state⟩
  | .opened _ | .answered .. => L

/-- The surroundings after a run. -/
def after (answer : (q : Q) → σ → A q × σ) (s : σ) (es : List (PoolEvent Q A)) : Surroundings σ :=
  es.foldl (next answer) (start s)

theorem after_concat (answer : (q : Q) → σ → A q × σ) (s : σ) (es : List (PoolEvent Q A))
    (e : PoolEvent Q A) : after answer s (es ++ [e]) = (after answer s es).next answer e := by
  simp [after]

/-- What every question keeps holds of the state after a run and of what has been asked. -/
theorem after_induct {answer : (q : Q) → σ → A q × σ} {s : σ} (I : List Q → σ → Prop)
    (h₀ : I [] s) (step : ∀ qs q t, I qs t → I (qs ++ [q]) (answer q t).2)
    (es : List (PoolEvent Q A)) : I (Pool.questions es) (after answer s es).state := by
  induction es using List.reverseRecOn with
  | nil => exact h₀
  | append_singleton es e ih =>
    rw [after_concat, Pool.questions_append]
    cases e with
    | opened i => simpa [next, Pool.questions] using ih
    | answered i q x => simpa [next, Pool.questions] using ih
    | asked i q => exact step _ _ _ ih

/-- What every question keeps holds of the state in which a place asked its last question. -/
theorem seen_induct {answer : (q : Q) → σ → A q × σ} {s : σ} (I : σ → Prop) (h₀ : I s)
    (step : ∀ q t, I t → I (answer q t).2) (es : List (PoolEvent Q A)) (i : Nat) :
    I ((after answer s es).seen i) := by
  induction es using List.reverseRecOn with
  | nil => exact h₀
  | append_singleton es e ih =>
    rw [after_concat]
    cases e with
    | opened j => exact ih
    | answered j q x => exact ih
    | asked j q =>
      have hstate := after_induct (fun _ t => I t) h₀ (fun _ => step) es
      by_cases hj : j = i
      · simpa [next, hj] using hstate
      · simpa [next, Function.update_of_ne (Ne.symm hj)] using ih

end Surroundings

namespace Pool

open Surroundings

variable {answer : (q : Q) → σ → A q × σ}

/-- Every answer is the one that the surroundings had when the question was asked. -/
def Served (answer : (q : Q) → σ → A q × σ) (s : σ) (es : List (PoolEvent Q A)) : Prop :=
  ∀ pre i q x post, es = pre ++ .answered i q x :: post →
    x = (answer q ((after answer s pre).seen i)).1

theorem served_nil (s : σ) : Served answer s [] := by
  intro pre i q x post h
  simp at h

theorem Served.of_append {s : σ} {es es' : List (PoolEvent Q A)}
    (h : Served answer s (es ++ es')) : Served answer s es := by
  rintro pre i q x post rfl
  exact h pre i q x (post ++ es') (by simp)

/-- Every answer is one that the surroundings give in some state that every question keeps. -/
theorem Served.exists_state {s : σ} {es : List (PoolEvent Q A)} (h : Served answer s es)
    (I : σ → Prop) (h₀ : I s) (step : ∀ q t, I t → I (answer q t).2) {i : Nat} {q : Q} {x : A q}
    (hx : .answered i q x ∈ es) : ∃ t, I t ∧ x = (answer q t).1 := by
  obtain ⟨pre, post, rfl⟩ := List.append_of_mem hx
  exact ⟨_, seen_induct I h₀ step pre i, h pre i q x post rfl⟩

theorem Served.concat {s : σ} {es : List (PoolEvent Q A)} {e : PoolEvent Q A}
    (h : Served answer s es)
    (he : ∀ i q x, e = .answered i q x → x = (answer q ((after answer s es).seen i)).1) :
    Served answer s (es ++ [e]) := by
  intro pre i q x post heq
  obtain rfl | ⟨post, e', rfl⟩ := post.eq_nil_or_concat
  · obtain ⟨rfl, rfl⟩ := List.append_singleton_inj.mp heq
    exact he i q x rfl
  · rw [List.concat_eq_append, ← List.cons_append, ← List.append_assoc] at heq
    exact h pre i q x post (List.append_singleton_inj.mp heq).1

/-- Surroundings that answer from a state never bring a run to a halt. -/
theorem exists_served_step {bound : Nat} (hb : 0 < bound) {p : Pool Q A α}
    (hp : p.isFinished = false) {s : σ} {es : List (PoolEvent Q A)} (hs : Served answer s es) :
    ∃ e p', Step bound p e p' ∧ Served answer s (es ++ [e]) := by
  obtain ⟨e, p', hstep, he⟩ :=
    exists_step hb hp fun i q => (answer q ((after answer s es).seen i)).1
  exact ⟨e, p', hstep, hs.concat he⟩

/-- They let every run go on to its end. -/
theorem exists_served_end {bound : Nat} (hb : 0 < bound) {s : σ} (p : Pool Q A α)
    {es : List (PoolEvent Q A)} (hs : Served answer s es) :
    ∃ es' p', Runs bound p es' p' ∧ p'.isFinished = true ∧ Served answer s (es ++ es') := by
  induction p using (wellFounded_step bound).induction generalizing es with
  | _ p ih =>
    by_cases hp : p.isFinished = true
    · exact ⟨[], p, .refl p, hp, by simpa using hs⟩
    · obtain ⟨e, p', hstep, hs'⟩ := exists_served_step hb (by simpa using hp) hs
      obtain ⟨es', p'', hruns, hp'', hs''⟩ := ih p' ⟨e, hstep⟩ hs'
      exact ⟨e :: es', p'', .step hstep hruns, hp'', by simpa using hs''⟩

end Pool

/-! ## Independence -/

/-- What the other dialogues ask makes no difference to a dialogue: each has a part of the state,
told by when two states are alike for it, of which it alone makes use. -/
structure Independent (answer : (q : Q) → σ → A q × σ) (ds : List (Dialogue Q A α))
    (mayAsk : Nat → Q → Prop) (alike : Nat → σ → σ → Prop) : Prop where
  equivalence : ∀ i, Equivalence (alike i)
  asksOnly : ∀ {i} {d : Dialogue Q A α}, ds[i]? = some d → d.AsksOnly (mayAsk i)
  answer_eq : ∀ {i q s t}, mayAsk i q → alike i s t → (answer q s).1 = (answer q t).1
  answer_alike : ∀ {i q s t}, mayAsk i q → alike i s t → alike i (answer q s).2 (answer q t).2
  frame : ∀ {i j q} (s), j ≠ i → mayAsk j q → alike i (answer q s).2 s

namespace Independent

open Surroundings Pool

variable {answer : (q : Q) → σ → A q × σ} {ds : List (Dialogue Q A α)}
  {mayAsk : Nat → Q → Prop} {alike : Nat → σ → σ → Prop}

/-- A dialogue in a pool sees what it would see in the state `u` if it were alone. -/
def Sees (answer : (q : Q) → σ → A q × σ) (alike : Nat → σ → σ → Prop) (i : Nat)
    (L : Surroundings σ) (u : σ) : Participant Q A α → Prop
  | .pending q _ => alike i (L.seen i) u ∧ alike i L.state (answer q u).2
  | .waiting _ | .ready .. | .finished _ => alike i L.state u

theorem sees_ofDialogue {i : Nat} {L : Surroundings σ} {u : σ} {d : Dialogue Q A α} :
    Sees answer alike i L u (.ofDialogue d) ↔ alike i L.state u := by
  cases d <;> rfl

/-- What is left of a dialogue, run alone from a state that it has the same view of, ends like the
whole dialogue. -/
def Follows (answer : (q : Q) → σ → A q × σ) (mayAsk : Nat → Q → Prop)
    (alike : Nat → σ → σ → Prop) (d : Dialogue Q A α) (s : σ) (i : Nat) (L : Surroundings σ)
    (m : Participant Q A α) : Prop :=
  m.dialogue.AsksOnly (mayAsk i) ∧
    ∃ u, d.run answer s = m.dialogue.run answer u ∧ Sees answer alike i L u m

/-- The dialogue's own events: the run alone takes the same step. -/
theorem Follows.moves (h : Independent answer ds mayAsk alike) {d : Dialogue Q A α} {s : σ}
    {L : Surroundings σ} {e : PoolEvent Q A} {m m' : Participant Q A α}
    (hf : Follows answer mayAsk alike d s e.place L m) (hm : m.Moves e m')
    (he : ∀ i q x, e = .answered i q x → x = (answer q (L.seen i)).1) :
    Follows answer mayAsk alike d s e.place (L.next answer e) m' := by
  obtain ⟨hasks, u, hrun, hsees⟩ := hf
  cases hm with
  | opened i d' =>
    refine ⟨?_, u, ?_, sees_ofDialogue.mpr hsees⟩
    · rw [Participant.dialogue_ofDialogue]
      exact hasks
    · rw [Participant.dialogue_ofDialogue]
      exact hrun
  | asked i q next =>
    have hsees : alike i L.state u := hsees
    refine ⟨hasks, u, hrun, ?_, h.answer_alike hasks.1 hsees⟩
    simpa [Surroundings.next, PoolEvent.place] using hsees
  | answered i q next x =>
    obtain ⟨hseen, hstate⟩ := hsees
    have hx : x = (answer q u).1 := (he i q x rfl).trans (h.answer_eq hasks.1 hseen)
    subst hx
    refine ⟨?_, (answer q u).2, ?_, sees_ofDialogue.mpr hstate⟩
    · rw [Participant.dialogue_ofDialogue]
      exact hasks.2 _
    · rw [Participant.dialogue_ofDialogue]
      exact hrun

/-- The events of the other dialogues: nothing changes for this one. -/
theorem Follows.frame (h : Independent answer ds mayAsk alike) {d : Dialogue Q A α} {s : σ}
    {i : Nat} {L : Surroundings σ} {e : PoolEvent Q A} {m : Participant Q A α}
    (hf : Follows answer mayAsk alike d s i L m) (hi : e.place ≠ i)
    (he : ∀ j q, e = .asked j q → mayAsk j q) :
    Follows answer mayAsk alike d s i (L.next answer e) m := by
  obtain ⟨hasks, u, hrun, hsees⟩ := hf
  refine ⟨hasks, u, hrun, ?_⟩
  cases e with
  | opened j => exact hsees
  | answered j q x => exact hsees
  | asked j q =>
    have hframe := h.frame L.state hi (he j q rfl)
    cases m with
    | pending q' next =>
      have hj : i ≠ j := Ne.symm hi
      refine ⟨?_, (h.equivalence i).trans hframe hsees.2⟩
      simpa [Surroundings.next, Function.update_of_ne hj] using hsees.1
    | waiting d' => exact (h.equivalence i).trans hframe hsees
    | ready q' next => exact (h.equivalence i).trans hframe hsees
    | finished a => exact (h.equivalence i).trans hframe hsees

/-- In every run, each dialogue follows its run alone. -/
theorem follows (h : Independent answer ds mayAsk alike) {bound : Nat} {p : Pool Q A α}
    {es : List (PoolEvent Q A)} (hr : Runs bound (ofDialogues ds) es p) {s : σ}
    (hs : Served answer s es) {i : Nat} {d : Dialogue Q A α} (hd : ds[i]? = some d) :
    ∃ m, p.members[i]? = some m ∧ Follows answer mayAsk alike d s i (after answer s es) m := by
  let I (es : List (PoolEvent Q A)) (m : Participant Q A α) : Prop :=
    Served answer s es → (∀ j q, .asked j q ∈ es → mayAsk j q) →
      Follows answer mayAsk alike d s i (after answer s es) m
  have hturn : ∀ es e m m', I es m → m.Turn i e m' → I (es ++ [e]) m' := by
    intro es e m m' hI ht hs hasked
    have hf := hI hs.of_append fun j q hq => hasked j q (by simp [hq])
    rw [after_concat]
    obtain ⟨rfl, hm⟩ | ⟨hi, rfl⟩ := ht
    · refine hf.moves h hm ?_
      rintro j q x rfl
      exact hs es j q x [] rfl
    · refine hf.frame h hi ?_
      rintro j q rfl
      exact hasked j q (by simp)
  have hstart : I [] (.waiting d) := fun _ _ =>
    ⟨h.asksOnly hd, s, rfl, (h.equivalence i).refl s⟩
  obtain ⟨m, hm, hI⟩ := hr.at_place I hturn hd hstart
  exact ⟨m, hm, hI hs fun j q hq => (hr.asked (fun _ _ => h.asksOnly) hq).2⟩

/-- When every dialogue is finished, each ended as it does alone. -/
theorem run_alone (h : Independent answer ds mayAsk alike) {bound : Nat} {p : Pool Q A α}
    {es : List (PoolEvent Q A)} (hr : Runs bound (ofDialogues ds) es p) {s : σ}
    (hs : Served answer s es) (hp : p.isFinished = true) {i : Nat} {d : Dialogue Q A α}
    (hd : ds[i]? = some d) :
    p.members[i]? = some (.finished (d.run answer s).1) ∧
      alike i (after answer s es).state (d.run answer s).2 := by
  obtain ⟨m, hm, -, u, hrun, hsees⟩ := h.follows hr hs hd
  obtain ⟨a, rfl⟩ := exists_result hp (List.mem_of_getElem? hm)
  rw [hrun]
  exact ⟨hm, hsees⟩

/-- The results came in some order, and they are those of the dialogues alone. -/
theorem completed_perm (h : Independent answer ds mayAsk alike) {bound : Nat} {p : Pool Q A α}
    {es : List (PoolEvent Q A)} (hr : Runs bound (ofDialogues ds) es p) {s : σ}
    (hs : Served answer s es) (hp : p.isFinished = true) :
    p.completed.Perm (ds.map fun d => (d.run answer s).1) := by
  have hmembers : p.members = ds.map fun d => .finished (d.run answer s).1 := by
    refine List.ext_getElem? fun i => ?_
    cases hd : ds[i]? with
    | some d => simp [hd, (h.run_alone hr hs hp hd).1]
    | none =>
      have hlen : p.members.length = ds.length := by simpa [ofDialogues] using hr.length_eq
      have hi := List.getElem?_eq_none_iff.mp hd
      simp [hlen, hi]
  refine (hr.completed_perm (completed_ofDialogues ds)).trans (.of_eq ?_)
  rw [hmembers, List.filterMap_map]
  exact congrFun List.filterMap_eq_map ds

/-! ## One after the other -/

theorem tail {d : Dialogue Q A α} (h : Independent answer (d :: ds) mayAsk alike) :
    Independent answer ds (fun i => mayAsk (i + 1)) fun i => alike (i + 1) where
  equivalence i := h.equivalence (i + 1)
  asksOnly hd := h.asksOnly (by simpa using hd)
  answer_eq := h.answer_eq
  answer_alike := h.answer_alike
  frame s hj := h.frame s (by omega)

/-- A dialogue that starts from states that are alike for it has the same result. -/
theorem run_alike (h : Independent answer ds mayAsk alike) {i : Nat} {d : Dialogue Q A α}
    (hd : d.AsksOnly (mayAsk i)) {s t : σ} (hst : alike i s t) :
    (d.run answer s).1 = (d.run answer t).1 ∧
      alike i (d.run answer s).2 (d.run answer t).2 := by
  induction d generalizing s t with
  | done a => exact ⟨rfl, hst⟩
  | ask q next ih =>
    have hans := h.answer_eq hd.1 hst
    simp only [Dialogue.run, hans]
    exact ih _ (hd.2 _) (h.answer_alike hd.1 hst)

/-- The dialogues, one after the other, end as each of them does alone. -/
theorem run_inOrder (h : Independent answer ds mayAsk alike) (s : σ) :
    ((ds.mapM id).run answer s).1 = ds.map (fun d => (d.run answer s).1) ∧
      ∀ {i : Nat} {d : Dialogue Q A α}, ds[i]? = some d →
        alike i ((ds.mapM id).run answer s).2 (d.run answer s).2 := by
  induction ds generalizing mayAsk alike s with
  | nil => exact ⟨rfl, by simp⟩
  | cons d ds ih =>
    obtain ⟨hres, halike⟩ := ih h.tail (d.run answer s).2
    have hd : d.AsksOnly (mayAsk 0) := h.asksOnly rfl
    -- The first dialogue leaves what the others see, and they leave what it sees.
    have hbefore : ∀ i, alike (i + 1) (d.run answer s).2 s := fun i =>
      hd.run_keeps (h.equivalence (i + 1)).refl (h.equivalence (i + 1)).trans
        (fun q s hq => h.frame s (by omega) hq) s
    have hrest : (ds.mapM id).AsksOnly fun q => ∃ j, mayAsk (j + 1) q := by
      refine Dialogue.AsksOnly.mapM fun d' hd' => ?_
      obtain ⟨j, hj⟩ := List.getElem?_of_mem hd'
      exact (h.tail.asksOnly hj).mono fun q hq => ⟨j, hq⟩
    have hafter : ∀ s, alike 0 ((ds.mapM id).run answer s).2 s :=
      hrest.run_keeps (h.equivalence 0).refl (h.equivalence 0).trans
        fun q s ⟨j, hq⟩ => h.frame s (by omega) hq
    rw [List.mapM_cons, id_eq, Dialogue.run_bind, Dialogue.run_bind, Dialogue.run_pure]
    refine ⟨?_, fun {i d'} hd' => ?_⟩
    · show _ :: _ = _ :: _
      rw [hres]
      refine congrArg _ (List.map_congr_left fun d' hd' => ?_)
      obtain ⟨j, hj⟩ := List.getElem?_of_mem hd'
      exact (h.run_alike (h.asksOnly (i := j + 1) hj) (hbefore j)).1
    · cases i with
      | zero =>
        obtain rfl : d = d' := by simpa using hd'
        exact hafter _
      | succ i =>
        have hd'' : ds[i]? = some d' := by simpa using hd'
        have hsame := (h.run_alike (h.asksOnly (i := i + 1) hd'') (hbefore i)).2
        exact (h.equivalence (i + 1)).trans (halike hd'') hsame

end Independent

end Telemetry
