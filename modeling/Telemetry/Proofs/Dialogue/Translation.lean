import Telemetry.Proofs.Dialogue

/-!
# Dialogues that speak for others

* `Dialogue.plays_run_bind`: the exchanges of operations that may fail, one after the other.
* `Dialogue.Spelled`: how the exchanges of a dialogue are spelled by those of its translation;
  `Plays.translate_inv` says that a translated dialogue spells the dialogue it translates.
* `Dialogue.translate_bind`: sequences are translated one after the other.
* `Dialogue.exists_plays`: a dialogue comes to its end, whatever it is answered.
-/

namespace Telemetry.Dialogue

variable {Q R : Type} {A : Q → Type} {B : R → Type} {α β ε : Type}

/-! ## Operations that may fail -/

/-- A finished sequence of operations: the first one failed, or both came to their ends. -/
theorem plays_run_bind {x : ExceptT ε (Dialogue Q A) α} {f : α → ExceptT ε (Dialogue Q A) β}
    {l : List (Exchange Q A)} {b : Except ε β} (h : (x >>= f).run.Plays l (.done b)) :
    (∃ e, x.run.Plays l (.done (.error e)) ∧ b = .error e) ∨
      ∃ l₁ a l₂, l = l₁ ++ l₂ ∧ x.run.Plays l₁ (.done (.ok a)) ∧ (f a).run.Plays l₂ (.done b) := by
  rw [ExceptT.run_bind] at h
  obtain ⟨l₁, r, l₂, rfl, h₁, h₂⟩ := h.bind_inv
  cases r with
  | error e =>
    obtain ⟨rfl, rfl⟩ := plays_pure h₂
    exact .inl ⟨e, by simpa using h₁, rfl⟩
  | ok a => exact .inr ⟨l₁, a, l₂, rfl, h₁, h₂⟩

/-- An operation that cannot fail, and what comes after it. -/
theorem plays_run_lift_bind {d : Dialogue Q A α} {f : α → ExceptT ε (Dialogue Q A) β}
    {l : List (Exchange Q A)} {b : Except ε β}
    (h : ((ExceptT.lift d : ExceptT ε (Dialogue Q A) α) >>= f).run.Plays l (.done b)) :
    ∃ l₁ a l₂, l = l₁ ++ l₂ ∧ d.Plays l₁ (.done a) ∧ (f a).run.Plays l₂ (.done b) := by
  rw [ExceptT.run_bind_lift] at h
  exact h.bind_inv

/-! ## Translations -/

section Translation

variable {inner : (q : Q) → Dialogue R B (A q)}

theorem translate_bind (d : Dialogue Q A α) (f : α → Dialogue Q A β) :
    (d >>= f).translate inner = d.translate inner >>= fun a => (f a).translate inner := by
  show (d.bind f).translate inner = (d.translate inner).bind _
  induction d with
  | done a => rfl
  | ask q next ih =>
    simp only [bind, translate, bind_assoc]
    exact congrArg (bind (inner q)) (funext ih)

theorem translate_question (q : Q) :
    (question q : Dialogue Q A (A q)).translate inner = inner q := bind_done _

/-- Each exchange is spelled by the exchanges of a dialogue that comes to the same answer. -/
inductive Spelled (inner : (q : Q) → Dialogue R B (A q)) :
    List (Exchange Q A) → List (Exchange R B) → Prop
  | nil : Spelled inner [] []
  | cons {q : Q} {x : A q} {l : List (Exchange Q A)} {l₁ l₂ : List (Exchange R B)} :
      (inner q).Plays l₁ (.done x) → Spelled inner l l₂ → Spelled inner (⟨q, x⟩ :: l) (l₁ ++ l₂)

theorem Plays.translate_inv {d : Dialogue Q A α} {l : List (Exchange R B)} {a : α}
    (h : (d.translate inner).Plays l (.done a)) :
    ∃ l', d.Plays l' (.done a) ∧ Spelled inner l' l := by
  induction d generalizing l with
  | done b =>
    obtain ⟨rfl, rfl⟩ := plays_done h
    exact ⟨[], .nil _, .nil⟩
  | ask q next ih =>
    obtain ⟨l₁, x, l₂, rfl, h₁, h₂⟩ := Plays.bind_inv h
    obtain ⟨l', hplays, hspelled⟩ := ih x h₂
    exact ⟨⟨q, x⟩ :: l', .cons hplays, .cons h₁ hspelled⟩

end Translation

/-- A dialogue comes to its end, whatever it is answered. -/
theorem exists_plays (reply : (q : Q) → A q) (d : Dialogue Q A α) :
    ∃ l a, d.Plays l (.done a) ∧ ∀ x ∈ l, x.answer = reply x.question := by
  induction d with
  | done a => exact ⟨[], a, .nil _, by simp⟩
  | ask q next ih =>
    obtain ⟨l, a, hplays, hl⟩ := ih (reply q)
    exact ⟨⟨q, reply q⟩ :: l, a, .cons hplays, List.forall_mem_cons.mpr ⟨rfl, hl⟩⟩

end Telemetry.Dialogue
