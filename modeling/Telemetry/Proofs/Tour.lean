import Telemetry.Proofs.Independence

/-!
# Runs that are computed

A list of places determines a run: the dialogue in the place that comes next makes its next move.

* `Tour.visit`: the next move of the dialogue in a place.
* `Tour.runs`: a tour is a run, and its answers are those of the surroundings;
  `Tour.surroundings_eq` says how it leaves them.
-/

namespace Telemetry

/-- A pool on its way, with what has happened so far. -/
structure Tour (Q : Type) (A : Q → Type) (α σ : Type) where
  pool : Pool Q A α
  events : List (PoolEvent Q A)
  surroundings : Surroundings σ

namespace Tour

variable {Q : Type} {A : Q → Type} {α σ : Type} {answer : (q : Q) → σ → A q × σ} {bound : Nat}

/-- Nothing has happened. -/
def start (p : Pool Q A α) (s : σ) : Tour Q A α σ := ⟨p, [], .start s⟩

/-- The tour after an event. -/
def add (answer : (q : Q) → σ → A q × σ) (t : Tour Q A α σ) (e : PoolEvent Q A)
    (p : Pool Q A α) : Tour Q A α σ :=
  ⟨p, t.events ++ [e], t.surroundings.next answer e⟩

/-- The dialogue in a place makes its next move, if it can. -/
def visit (answer : (q : Q) → σ → A q × σ) (bound : Nat) (t : Tour Q A α σ) (i : Nat) :
    Option (Tour Q A α σ) :=
  match t.pool.members[i]? with
  | some (.waiting d) =>
    if (∀ m ∈ t.pool.members.take i, m.isWaiting = false) ∧ t.pool.active < bound then
      some (t.add answer (.opened i) (t.pool.advance i d))
    else none
  | some (.ready q next) => some (t.add answer (.asked i q) (t.pool.await i q next))
  | some (.pending q next) =>
    let x := (answer q (t.surroundings.seen i)).1
    some (t.add answer (.answered i q x) (t.pool.advance i (next x)))
  | some (.finished _) | none => none

/-- One visit after the other. -/
def visits (answer : (q : Q) → σ → A q × σ) (bound : Nat) (t : Tour Q A α σ)
    (places : List Nat) : Option (Tour Q A α σ) :=
  places.foldlM (visit answer bound) t

/-- A visit is a step, with an answer of the surroundings. -/
theorem visit_step {t t' : Tour Q A α σ} {i : Nat} (h : t.visit answer bound i = some t') :
    ∃ e, Pool.Step bound t.pool e t'.pool ∧ t' = t.add answer e t'.pool ∧
      ∀ j q x, e = .answered j q x → x = (answer q (t.surroundings.seen j)).1 := by
  unfold visit at h
  split at h
  · next d hplace =>
    split at h
    · next hopen =>
      obtain rfl := Option.some.inj h
      exact ⟨.opened i, .opened hplace hopen.1 hopen.2, rfl, by simp⟩
    · cases h
  · next q next hplace =>
    obtain rfl := Option.some.inj h
    exact ⟨.asked i q, .asked hplace, rfl, by simp⟩
  · next q next hplace =>
    obtain rfl := Option.some.inj h
    refine ⟨.answered i q _, .answered _ hplace, rfl, ?_⟩
    rintro j q' x ⟨⟩
    rfl
  · cases h
  · cases h

/-- A tour that has been a run so far goes on as one. -/
theorem visits_runs {p : Pool Q A α} {s : σ} {places : List Nat} {t t' : Tour Q A α σ}
    (h : t.visits answer bound places = some t') (hruns : Pool.Runs bound p t.events t.pool)
    (hserved : Pool.Served answer s t.events)
    (hafter : t.surroundings = .after answer s t.events) :
    Pool.Runs bound p t'.events t'.pool ∧ Pool.Served answer s t'.events ∧
      t'.surroundings = .after answer s t'.events := by
  induction places generalizing t with
  | nil =>
    obtain rfl : t = t' := by simpa [visits] using h
    exact ⟨hruns, hserved, hafter⟩
  | cons i places ih =>
    rw [visits, List.foldlM_cons] at h
    obtain ⟨t₁, ht₁, h⟩ := Option.bind_eq_some_iff.mp h
    obtain ⟨e, hstep, hadd, hanswer⟩ := visit_step ht₁
    have hevents : t₁.events = t.events ++ [e] := by rw [hadd, add]
    refine ih h ?_ ?_ ?_
    · rw [hevents]
      exact hruns.append (.step hstep (.refl _))
    · rw [hevents]
      exact hserved.concat (hafter ▸ hanswer)
    · rw [hevents, Surroundings.after_concat, ← hafter, hadd, add]

/-- A tour is a run, and its answers are those of the surroundings. -/
theorem runs {p : Pool Q A α} {s : σ} {places : List Nat} {t : Tour Q A α σ}
    (h : (start p s).visits answer bound places = some t) :
    Pool.Runs bound p t.events t.pool ∧ Pool.Served answer s t.events := by
  obtain ⟨hruns, hserved, -⟩ := visits_runs h (.refl p) (Pool.served_nil s) rfl
  exact ⟨hruns, hserved⟩

/-- A tour ends with the surroundings after its events. -/
theorem surroundings_eq {p : Pool Q A α} {s : σ} {places : List Nat} {t : Tour Q A α σ}
    (h : (start p s).visits answer bound places = some t) :
    t.surroundings = .after answer s t.events :=
  (visits_runs h (.refl p) (Pool.served_nil s) rfl).2.2

end Tour

end Telemetry
