/-!
# Dialogues

A dialogue is a computation that asks questions of its surroundings and goes on with the answers. It
is data, so that one dialogue can be run against a script, against a server, or side by side with
others.

* `Dialogue.run`: the result when questions are answered from a state.
* `Dialogue.translate`: each question is answered by a dialogue of other questions.
* `run_bind`: what is run after a sequence.
-/

namespace Telemetry

/-- A computation that asks questions `q : Q`, each answered by an `A q`. -/
inductive Dialogue (Q : Type) (A : Q → Type) (α : Type) where
  | done (result : α)
  | ask (question : Q) (next : A question → Dialogue Q A α)

namespace Dialogue

variable {Q : Type} {A : Q → Type} {α β : Type}

/-- Go on with the result of a dialogue. -/
def bind (d : Dialogue Q A α) (f : α → Dialogue Q A β) : Dialogue Q A β :=
  match d with
  | done a => f a
  | ask q next => ask q fun x => (next x).bind f

instance : Monad (Dialogue Q A) where
  pure := done
  bind := bind

theorem bind_done (d : Dialogue Q A α) : d.bind done = d := by
  induction d with
  | done a => rfl
  | ask q next ih => simp only [bind]; exact congrArg (ask q) (funext ih)

theorem bind_assoc {γ : Type} (d : Dialogue Q A α) (f : α → Dialogue Q A β)
    (g : β → Dialogue Q A γ) : (d.bind f).bind g = d.bind fun a => (f a).bind g := by
  induction d with
  | done a => rfl
  | ask q next ih => simp only [bind]; exact congrArg (ask q) (funext ih)

instance : LawfulMonad (Dialogue Q A) :=
  LawfulMonad.mk' _ bind_done (fun _ _ => rfl) bind_assoc

/-- Ask one question. -/
def question (q : Q) : Dialogue Q A (A q) := ask q done

/-- The result when questions are answered from a state, and the state after it. -/
def run {σ : Type} (answer : (q : Q) → σ → A q × σ) (d : Dialogue Q A α) (s : σ) : α × σ :=
  match d with
  | done a => (a, s)
  | ask q next => let (x, s) := answer q s; (next x).run answer s

/-- The result when questions are answered by effects. -/
def runM {m : Type → Type} [Monad m] (answer : (q : Q) → m (A q)) (d : Dialogue Q A α) : m α :=
  match d with
  | done a => pure a
  | ask q next => do (next (← answer q)).runM answer

/-- The dialogue in which each question is answered by a dialogue of other questions. -/
def translate {R : Type} {B : R → Type} (answer : (q : Q) → Dialogue R B (A q))
    (d : Dialogue Q A α) : Dialogue R B α :=
  match d with
  | done a => done a
  | ask q next => (answer q).bind fun x => (next x).translate answer

section Run

variable {σ : Type} (answer : (q : Q) → σ → A q × σ)

theorem run_pure (a : α) (s : σ) : (pure a : Dialogue Q A α).run answer s = (a, s) := rfl

theorem run_bind (d : Dialogue Q A α) (f : α → Dialogue Q A β) (s : σ) :
    (d >>= f).run answer s = (f (d.run answer s).1).run answer (d.run answer s).2 := by
  show (d.bind f).run answer s = _
  induction d generalizing s with
  | done a => rfl
  | ask q next ih => exact ih _ _

end Run

end Dialogue

end Telemetry
