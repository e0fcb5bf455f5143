import Telemetry.Dialogue

/-!
# Dialogues side by side

Several dialogues are carried out at a time. They are opened in their order, and at most `bound` of
them are open and unfinished. Which of them asks next, and when a question is answered and by what,
is up to the surroundings.

* `Pool`: how far each dialogue has come, and the results in the order in which they came.
* `Pool.Step`: what can happen next; `Pool.Runs`: what can happen from one pool to another.
* `Pool.decided?`: the results in the order of the dialogues, or the first failure among them.
-/

namespace Telemetry

/-- How far a dialogue has come. -/
inductive Participant (Q : Type) (A : Q → Type) (α : Type) where
  /-- It is not open yet. -/
  | waiting (d : Dialogue Q A α)
  /-- It is about to ask. -/
  | ready (q : Q) (next : A q → Dialogue Q A α)
  /-- It has asked, and there is no answer yet. -/
  | pending (q : Q) (next : A q → Dialogue Q A α)
  | finished (result : α)

/-- What happens to a dialogue of a pool, which is named by its place. -/
inductive PoolEvent (Q : Type) (A : Q → Type) where
  | opened (i : Nat)
  | asked (i : Nat) (q : Q)
  | answered (i : Nat) (q : Q) (x : A q)

/-- Dialogues side by side, and the results in the order in which they came. -/
structure Pool (Q : Type) (A : Q → Type) (α : Type) where
  members : List (Participant Q A α)
  completed : List α

namespace Participant

variable {Q : Type} {A : Q → Type} {α : Type}

/-- A dialogue that is open and unfinished. -/
def isActive : Participant Q A α → Bool
  | ready .. | pending .. => true
  | waiting _ | finished _ => false

/-- A dialogue that is not open yet. -/
def isWaiting : Participant Q A α → Bool
  | waiting _ => true
  | ready .. | pending .. | finished _ => false

/-- The result of a dialogue that is finished. -/
def result? : Participant Q A α → Option α
  | finished a => some a
  | waiting _ | ready .. | pending .. => none

end Participant

namespace Pool

variable {Q : Type} {A : Q → Type} {α : Type}

/-- Dialogues of which none is open. -/
def ofDialogues (ds : List (Dialogue Q A α)) : Pool Q A α := ⟨ds.map .waiting, []⟩

/-- The number of dialogues that are open and unfinished. -/
def active (p : Pool Q A α) : Nat := p.members.countP Participant.isActive

/-- Every dialogue is finished. -/
def isFinished (p : Pool Q A α) : Bool := p.members.all fun m => m.result?.isSome

/-- The dialogue in a place goes on as `d`. -/
def advance (p : Pool Q A α) (i : Nat) (d : Dialogue Q A α) : Pool Q A α :=
  match d with
  | .done a => ⟨p.members.set i (.finished a), p.completed ++ [a]⟩
  | .ask q next => ⟨p.members.set i (.ready q next), p.completed⟩

/-- The dialogue in a place has asked. -/
def await (p : Pool Q A α) (i : Nat) (q : Q) (next : A q → Dialogue Q A α) : Pool Q A α :=
  { p with members := p.members.set i (.pending q next) }

/-- What can happen next when at most `bound` dialogues are open and unfinished. -/
inductive Step (bound : Nat) : Pool Q A α → PoolEvent Q A → Pool Q A α → Prop
  | opened {p : Pool Q A α} {i : Nat} {d : Dialogue Q A α}
      (place : p.members[i]? = some (.waiting d))
      (first : ∀ m ∈ p.members.take i, m.isWaiting = false) (room : p.active < bound) :
      Step bound p (.opened i) (p.advance i d)
  | asked {p : Pool Q A α} {i : Nat} {q : Q} {next : A q → Dialogue Q A α}
      (place : p.members[i]? = some (.ready q next)) :
      Step bound p (.asked i q) (p.await i q next)
  | answered {p : Pool Q A α} {i : Nat} {q : Q} {next : A q → Dialogue Q A α} (x : A q)
      (place : p.members[i]? = some (.pending q next)) :
      Step bound p (.answered i q x) (p.advance i (next x))

/-- What can happen from one pool to another. -/
inductive Runs (bound : Nat) : Pool Q A α → List (PoolEvent Q A) → Pool Q A α → Prop
  | refl (p : Pool Q A α) : Runs bound p [] p
  | step {p p' p'' : Pool Q A α} {e : PoolEvent Q A} {es : List (PoolEvent Q A)} :
      Step bound p e p' → Runs bound p' es p'' → Runs bound p (e :: es) p''

/-- The results in the order of the dialogues, or the first failure among them, as soon as every
dialogue before it is finished. -/
def decidedFrom? {ε β : Type} : List (Participant Q A (Except ε β)) → Option (Except ε (List β))
  | [] => some (.ok [])
  | m :: ms =>
    match m.result? with
    | none => none
    | some (.error e) => some (.error e)
    | some (.ok x) => (decidedFrom? ms).map (·.map (x :: ·))

/-- The results in the order of the dialogues, or the first failure among them. -/
def decided? {ε β : Type} (p : Pool Q A (Except ε β)) : Option (Except ε (List β)) :=
  decidedFrom? p.members

/-! ## Places -/

theorem length_advance (p : Pool Q A α) (i : Nat) (d : Dialogue Q A α) :
    (p.advance i d).members.length = p.members.length := by
  cases d <;> simp [advance]

theorem length_await (p : Pool Q A α) (i : Nat) (q : Q) (next : A q → Dialogue Q A α) :
    (p.await i q next).members.length = p.members.length := by simp [await]

/-- No dialogue comes or goes. -/
theorem Step.length_eq {bound : Nat} {p p' : Pool Q A α} {e : PoolEvent Q A}
    (h : Step bound p e p') : p'.members.length = p.members.length := by
  cases h with
  | opened => exact length_advance ..
  | asked => exact length_await ..
  | answered => exact length_advance ..

theorem Runs.length_eq {bound : Nat} {p p' : Pool Q A α} {es : List (PoolEvent Q A)}
    (h : Runs bound p es p') : p'.members.length = p.members.length := by
  induction h with
  | refl => rfl
  | step hs _ ih => rw [ih, hs.length_eq]

/-- One run after another. -/
theorem Runs.append {bound : Nat} {p p' p'' : Pool Q A α} {es es' : List (PoolEvent Q A)}
    (h : Runs bound p es p') (h' : Runs bound p' es' p'') : Runs bound p (es ++ es') p'' := by
  induction h with
  | refl => exact h'
  | step hs _ ih => exact .step hs (ih h')

end Pool

end Telemetry
