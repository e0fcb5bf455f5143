import Telemetry.Dialogue

/-!
# What a dialogue asks

* `Dialogue.AsksOnly`: all that a dialogue may ask, whatever it is answered; `AsksOnly.run_keeps` is
  what a run therefore leaves as it was.
* `Dialogue.Plays`: a dialogue goes on as another one after some exchanges; `Plays.bind_inv` takes
  the exchanges of a sequence apart, and `Plays.unique` says that the answers decide how it goes on.
* `Dialogue.Asks`: what a dialogue asks next after some exchanges.
* `Dialogue.AsksInOrder`: in which order a dialogue asks, whatever it is answered.
* `Dialogue.questions`: what is asked when questions are answered from a state.
-/

namespace Telemetry

/-- A question and its answer. -/
structure Exchange (Q : Type) (A : Q → Type) where
  question : Q
  answer : A question

namespace Dialogue

variable {Q : Type} {A : Q → Type} {α β : Type}

/-! ## Whatever is answered -/

/-- Every question that the dialogue may ask satisfies `P`. -/
def AsksOnly (P : Q → Prop) : Dialogue Q A α → Prop
  | done _ => True
  | ask q next => P q ∧ ∀ x, (next x).AsksOnly P

theorem asksOnly_pure {P : Q → Prop} (a : α) : (pure a : Dialogue Q A α).AsksOnly P := trivial

theorem asksOnly_question {P : Q → Prop} {q : Q} (h : P q) :
    (question q : Dialogue Q A (A q)).AsksOnly P := ⟨h, fun _ => trivial⟩

theorem AsksOnly.bind {P : Q → Prop} {d : Dialogue Q A α} {f : α → Dialogue Q A β}
    (hd : d.AsksOnly P) (hf : ∀ a, (f a).AsksOnly P) : (d >>= f).AsksOnly P := by
  show (d.bind f).AsksOnly P
  induction d with
  | done a => exact hf a
  | ask q next ih => exact ⟨hd.1, fun x => ih x (hd.2 x)⟩

/-- Dialogues one after the other ask what each of them asks. -/
theorem AsksOnly.mapM {γ : Type} {P : Q → Prop} {f : γ → Dialogue Q A α} {l : List γ}
    (h : ∀ c ∈ l, (f c).AsksOnly P) : (l.mapM f).AsksOnly P := by
  induction l with
  | nil => exact asksOnly_pure []
  | cons c l ih =>
    rw [List.mapM_cons]
    refine (h c (by simp)).bind fun a => ?_
    exact (ih fun c hc => h c (by simp [hc])).bind fun _ => asksOnly_pure _

theorem AsksOnly.mono {P P' : Q → Prop} {d : Dialogue Q A α} (hd : d.AsksOnly P)
    (h : ∀ q, P q → P' q) : d.AsksOnly P' := by
  induction d with
  | done a => trivial
  | ask q next ih => exact ⟨h q hd.1, fun x => ih x (hd.2 x)⟩

/-- A translated dialogue asks what the translations of the questions ask. -/
theorem asksOnly_translate {R : Type} {B : R → Type} {P : R → Prop}
    {inner : (q : Q) → Dialogue R B (A q)} (h : ∀ q, (inner q).AsksOnly P) (d : Dialogue Q A α) :
    (d.translate inner).AsksOnly P := by
  induction d with
  | done a => trivial
  | ask q next ih => exact (h q).bind ih

/-- What no question changes, a run does not change. -/
theorem AsksOnly.run_keeps {σ : Type} {answer : (q : Q) → σ → A q × σ} {P : Q → Prop}
    {R : σ → σ → Prop} {d : Dialogue Q A α} (hd : d.AsksOnly P) (refl : ∀ s, R s s)
    (trans : ∀ {s s' s''}, R s s' → R s' s'' → R s s'')
    (keeps : ∀ q s, P q → R (answer q s).2 s) (s : σ) : R (d.run answer s).2 s := by
  induction d generalizing s with
  | done a => exact refl s
  | ask q next ih => exact trans (ih _ (hd.2 _) _) (keeps q s hd.1)

/-! ## After some exchanges -/

/-- A dialogue goes on as another one after these exchanges. -/
inductive Plays : Dialogue Q A α → List (Exchange Q A) → Dialogue Q A α → Prop
  | nil (d : Dialogue Q A α) : Plays d [] d
  | cons {q : Q} {next : A q → Dialogue Q A α} {x : A q} {l : List (Exchange Q A)}
      {d : Dialogue Q A α} : Plays (next x) l d → Plays (.ask q next) (⟨q, x⟩ :: l) d

theorem Plays.snoc {d : Dialogue Q A α} {l : List (Exchange Q A)} {q : Q}
    {next : A q → Dialogue Q A α} (h : Plays d l (.ask q next)) (x : A q) :
    Plays d (l ++ [⟨q, x⟩]) (next x) := by
  generalize hd : Dialogue.ask q next = d' at h
  induction h with
  | nil d => subst hd; exact .cons (.nil _)
  | cons _ ih => exact .cons (ih hd)

/-- What is asked on the way is among all that may be asked. -/
theorem AsksOnly.plays {P : Q → Prop} {d d' : Dialogue Q A α} {l : List (Exchange Q A)}
    (hd : d.AsksOnly P) (h : d.Plays l d') : (∀ x ∈ l, P x.question) ∧ d'.AsksOnly P := by
  induction h with
  | nil d => exact ⟨by simp, hd⟩
  | cons _ ih =>
    obtain ⟨hl, hd'⟩ := ih (hd.2 _)
    refine ⟨fun x hx => ?_, hd'⟩
    obtain rfl | hx := List.mem_cons.mp hx
    · exact hd.1
    · exact hl x hx

theorem plays_done {a b : α} {l : List (Exchange Q A)}
    (h : Plays (.done a : Dialogue Q A α) l (.done b)) : l = [] ∧ a = b := by
  cases h
  exact ⟨rfl, rfl⟩

theorem plays_pure {a b : α} {l : List (Exchange Q A)}
    (h : Plays (pure a : Dialogue Q A α) l (.done b)) : l = [] ∧ a = b := plays_done h

theorem plays_question {q : Q} {l : List (Exchange Q A)} {x : A q}
    (h : Plays (question q : Dialogue Q A (A q)) l (.done x)) : l = [⟨q, x⟩] := by
  cases h with
  | cons h => obtain ⟨rfl, rfl⟩ := plays_done h; rfl

/-- A finished sequence: the exchanges of the first dialogue, and then those of the second. -/
theorem Plays.bind_inv {d : Dialogue Q A α} {f : α → Dialogue Q A β} {l : List (Exchange Q A)}
    {b : β} (h : Plays (d >>= f) l (.done b)) :
    ∃ l₁ a l₂, l = l₁ ++ l₂ ∧ d.Plays l₁ (.done a) ∧ (f a).Plays l₂ (.done b) := by
  change Plays (d.bind f) l (.done b) at h
  induction d generalizing l with
  | done a => exact ⟨[], a, l, rfl, .nil _, h⟩
  | ask q next ih =>
    cases h with
    | cons h =>
      obtain ⟨l₁, a, l₂, rfl, h₁, h₂⟩ := ih _ h
      exact ⟨_, a, l₂, rfl, .cons h₁, h₂⟩

/-- The exchanges of the first dialogue, and then some of the second. -/
theorem Plays.bind {d : Dialogue Q A α} {f : α → Dialogue Q A β} {l₁ l₂ : List (Exchange Q A)}
    {a : α} {d' : Dialogue Q A β} (h₁ : d.Plays l₁ (.done a)) (h₂ : (f a).Plays l₂ d') :
    (d >>= f).Plays (l₁ ++ l₂) d' := by
  show (d.bind f).Plays (l₁ ++ l₂) d'
  generalize hd : done a = d₁ at h₁
  induction h₁ with
  | nil d => subst hd; exact h₂
  | cons _ ih => exact .cons (ih hd)

/-- The answers decide how a dialogue goes on. -/
theorem Plays.unique {d d₁ d₂ : Dialogue Q A α} {l : List (Exchange Q A)} (h₁ : d.Plays l d₁)
    (h₂ : d.Plays l d₂) : d₁ = d₂ := by
  induction h₁ with
  | nil d => cases h₂; rfl
  | cons _ ih =>
    cases h₂ with
    | cons h₂ => exact ih h₂

/-- The first of some exchanges lead part of the way. -/
theorem Plays.append_inv {d d'' : Dialogue Q A α} {l l' : List (Exchange Q A)}
    (h : d.Plays (l ++ l') d'') : ∃ d', d.Plays l d' ∧ d'.Plays l' d'' := by
  induction l generalizing d with
  | nil => exact ⟨d, .nil d, h⟩
  | cons x l ih =>
    cases h with
    | cons h =>
      obtain ⟨d', h₁, h₂⟩ := ih h
      exact ⟨d', .cons h₁, h₂⟩

/-- A dialogue that is done has no more exchanges. -/
theorem Plays.eq_nil_of_done {d d' : Dialogue Q A α} {a : α} {l l' : List (Exchange Q A)}
    (h : d.Plays l (.done a)) (h' : d.Plays (l ++ l') d') : l' = [] := by
  obtain ⟨d₁, h₁, h₂⟩ := h'.append_inv
  obtain rfl := h.unique h₁
  cases h₂
  rfl

/-- A dialogue has at most one way to its end along a list of exchanges. -/
theorem Plays.eq_of_append_eq {d : Dialogue Q A α} {a b : α} {l₁ l₂ t₁ t₂ : List (Exchange Q A)}
    (h₁ : d.Plays l₁ (.done a)) (h₂ : d.Plays l₂ (.done b)) (h : l₁ ++ t₁ = l₂ ++ t₂) :
    l₁ = l₂ := by
  obtain ⟨t, rfl, -⟩ | ⟨t, rfl, -⟩ := List.append_eq_append_iff.mp h
  · rw [h₁.eq_nil_of_done h₂, List.append_nil]
  · rw [h₂.eq_nil_of_done h₁, List.append_nil]

/-! ## What is asked next -/

/-- After some exchanges a dialogue asks `q`. -/
def Asks (d : Dialogue Q A α) (l : List (Exchange Q A)) (q : Q) : Prop :=
  ∃ next, d.Plays l (.ask q next)

theorem not_asks_done {a : α} {l : List (Exchange Q A)} {q : Q} :
    ¬ (done a : Dialogue Q A α).Asks l q := by
  rintro ⟨next, h⟩
  cases h

theorem not_asks_pure {a : α} {l : List (Exchange Q A)} {q : Q} :
    ¬ (pure a : Dialogue Q A α).Asks l q := not_asks_done

theorem asks_question {q q' : Q} {l : List (Exchange Q A)}
    (h : (question q : Dialogue Q A (A q)).Asks l q') : l = [] ∧ q' = q := by
  obtain ⟨next, h⟩ := h
  cases h with
  | nil => exact ⟨rfl, rfl⟩
  | cons h => exact (not_asks_done ⟨next, h⟩).elim

/-- A sequence asks what its first dialogue asks, and then what its second one asks. -/
theorem Asks.bind_inv {d : Dialogue Q A α} {f : α → Dialogue Q A β} {l : List (Exchange Q A)}
    {q : Q} (h : (d >>= f).Asks l q) :
    d.Asks l q ∨ ∃ l₁ a l₂, l = l₁ ++ l₂ ∧ d.Plays l₁ (.done a) ∧ (f a).Asks l₂ q := by
  obtain ⟨next, h⟩ := h
  change Plays (d.bind f) l (.ask q next) at h
  induction d generalizing l with
  | done a => exact .inr ⟨[], a, l, rfl, .nil _, next, h⟩
  | ask q' next' ih =>
    cases h with
    | nil => exact .inl ⟨next', .nil _⟩
    | cons h =>
      obtain ⟨next₁, h₁⟩ | ⟨l₁, a, l₂, rfl, h₁, h₂⟩ := ih _ h
      · exact .inl ⟨next₁, .cons h₁⟩
      · exact .inr ⟨_, a, l₂, rfl, .cons h₁, h₂⟩

/-- A dialogue that asks after some exchanges was not done on the way. -/
theorem Asks.not_done {d : Dialogue Q A α} {a : α} {l l' : List (Exchange Q A)} {q : Q}
    (h : d.Asks (l ++ l') q) : ¬ d.Plays l (.done a) := by
  intro h'
  obtain ⟨next, h⟩ := h
  obtain rfl := h'.eq_nil_of_done h
  rw [List.append_nil] at h
  cases h'.unique h

/-! ## The order of questions -/

section Order

variable {R : Type} {f : Q → Option R} {rs rs' : List R}

/-- What a dialogue asks, as far as `f` takes note of it, comes in the order of a list, whatever is
answered; not all of the list needs to be asked. -/
def AsksInOrder (f : Q → Option R) : Dialogue Q A α → List R → Prop
  | done _, _ => True
  | ask q next, rs =>
    ∃ skipped rest, rs = skipped ++ ((f q).toList ++ rest) ∧ ∀ x, (next x).AsksInOrder f rest

theorem asksInOrder_pure (a : α) : (pure a : Dialogue Q A α).AsksInOrder f rs := trivial

theorem asksInOrder_question (q : Q) :
    (question q : Dialogue Q A (A q)).AsksInOrder f (f q).toList :=
  ⟨[], [], by simp, fun _ => trivial⟩

theorem AsksInOrder.after {d : Dialogue Q A α} (h : d.AsksInOrder f rs) (skipped : List R) :
    d.AsksInOrder f (skipped ++ rs) := by
  cases d with
  | done a => trivial
  | ask q next =>
    obtain ⟨skipped', rest, rfl, hnext⟩ := h
    exact ⟨skipped ++ skipped', rest, by simp, hnext⟩

theorem AsksInOrder.bind {d : Dialogue Q A α} {k : α → Dialogue Q A β} (hd : d.AsksInOrder f rs)
    (hk : ∀ a, (k a).AsksInOrder f rs') : (d >>= k).AsksInOrder f (rs ++ rs') := by
  show (d.bind k).AsksInOrder f (rs ++ rs')
  induction d generalizing rs with
  | done a => exact (hk a).after rs
  | ask q next ih =>
    obtain ⟨skipped, rest, rfl, hnext⟩ := hd
    exact ⟨skipped, rest ++ rs', by simp, fun x => ih x (hnext x)⟩

/-- What comes second may ask nothing of note. -/
theorem AsksInOrder.bind_silent {d : Dialogue Q A α} {k : α → Dialogue Q A β}
    (hd : d.AsksInOrder f rs) (hk : ∀ a, (k a).AsksInOrder f []) :
    (d >>= k).AsksInOrder f rs := by
  simpa using hd.bind hk

/-- What is asked on the way comes before what may be asked afterwards. -/
theorem AsksInOrder.plays {d d' : Dialogue Q A α} {l : List (Exchange Q A)}
    (hd : d.AsksInOrder f rs) (h : d.Plays l d') : ∃ rs₁ rs₂, rs = rs₁ ++ rs₂ ∧
      ((l.map Exchange.question).filterMap f).Sublist rs₁ ∧ d'.AsksInOrder f rs₂ := by
  induction h generalizing rs with
  | nil d => exact ⟨[], rs, rfl, .slnil, hd⟩
  | @cons q next x l d h ih =>
    obtain ⟨skipped, rest, rfl, hnext⟩ := hd
    obtain ⟨rs₁, rs₂, rfl, hl, hd'⟩ := ih (hnext x)
    refine ⟨skipped ++ ((f q).toList ++ rs₁), rs₂, by simp, ?_, hd'⟩
    have hq : (List.filterMap f [q]).Sublist (f q).toList := by
      cases hf : f q <;> simp [hf]
    have hall : ((q :: l.map Exchange.question).filterMap f).Sublist ((f q).toList ++ rs₁) := by
      rw [← List.singleton_append, List.filterMap_append]
      exact hq.append hl
    exact hall.trans (List.sublist_append_right ..)

end Order

/-! ## Answers from a state -/

section Questions

variable {σ : Type}

/-- What is asked when questions are answered from a state. -/
def questions (answer : (q : Q) → σ → A q × σ) (d : Dialogue Q A α) (s : σ) : List Q :=
  match d with
  | done _ => []
  | ask q next => q :: (next (answer q s).1).questions answer (answer q s).2

variable (answer : (q : Q) → σ → A q × σ)

theorem run_map (f : α → β) (d : Dialogue Q A α) (s : σ) :
    (f <$> d).run answer s = (f (d.run answer s).1, (d.run answer s).2) := by
  rw [← bind_pure_comp, run_bind, run_pure]

theorem questions_bind (d : Dialogue Q A α) (f : α → Dialogue Q A β) (s : σ) :
    (d >>= f).questions answer s =
      d.questions answer s ++ (f (d.run answer s).1).questions answer (d.run answer s).2 := by
  show (d.bind f).questions answer s = _
  induction d generalizing s with
  | done a => rfl
  | ask q next ih => exact congrArg (q :: ·) (ih _ _)

theorem questions_map (f : α → β) (d : Dialogue Q A α) (s : σ) :
    (f <$> d).questions answer s = d.questions answer s := by
  rw [← bind_pure_comp, questions_bind]
  exact List.append_nil _

theorem AsksOnly.questions {P : Q → Prop} {d : Dialogue Q A α} (hd : d.AsksOnly P) (s : σ) :
    ∀ q ∈ d.questions answer s, P q := by
  induction d generalizing s with
  | done a => intro q hq; cases hq
  | ask q next ih =>
    intro q' hq'
    obtain rfl | hq' := List.mem_cons.mp hq'
    · exact hd.1
    · exact ih _ (hd.2 _) _ q' hq'

end Questions

end Dialogue

end Telemetry
