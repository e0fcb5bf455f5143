import Mathlib.Data.Set.List
import Mathlib.Logic.Hydra
import Telemetry.Dialogue.Pool
import Telemetry.Proofs.Dialogue

/-!
# Runs of dialogues side by side

What a run of a pool does to one of its dialogues is told by the events of that dialogue's place.

* `Step.moves`: all that a step can do.
* `Runs.induct_place`: what one place keeps from event to event holds of it after a run.
* `Since`, `Runs.since`: how a place comes from one state to another.
* `Runs.standing`: a dialogue has come as far as the exchanges of its place lead, and what the place
  has asked are the questions of these exchanges and the one that is still open.
* `Runs.asks_exchanges`: what is asked in a place is what its dialogue asks after the exchanges so far.
* `Runs.completed_perm`: the results came from the dialogues, in some order.
* `halfway`: a pool whose dialogues are carried out one after the other.
* `exists_step`, `wellFounded_step`: a pool that is not finished can go on, and not for ever.
-/

namespace Telemetry

variable {Q : Type} {A : Q → Type} {α : Type}

/-- The place of the dialogue that an event is about. -/
def PoolEvent.place : PoolEvent Q A → Nat
  | opened i | asked i _ | answered i _ _ => i

namespace Participant

/-- A dialogue that is open. -/
def ofDialogue : Dialogue Q A α → Participant Q A α
  | .done a => finished a
  | .ask q next => ready q next

/-- What is left of a dialogue. -/
def dialogue : Participant Q A α → Dialogue Q A α
  | waiting d => d
  | ready q next | pending q next => .ask q next
  | finished a => .done a

/-- The question without an answer. -/
def owed : Participant Q A α → List Q
  | pending q _ => [q]
  | waiting _ | ready .. | finished _ => []

/-- The question that an open dialogue is at: it is about to ask it, or it waits for the answer. -/
def current? : Participant Q A α → Option Q
  | ready q _ | pending q _ => some q
  | waiting _ | finished _ => none

@[simp] theorem dialogue_ofDialogue (d : Dialogue Q A α) : (ofDialogue d).dialogue = d := by
  cases d <;> rfl

@[simp] theorem owed_ofDialogue (d : Dialogue Q A α) : (ofDialogue d).owed = [] := by
  cases d <;> rfl

theorem owed_eq (m : Participant Q A α) : m.owed = [] ∨ ∃ q, m.owed = [q] := by
  cases m with
  | pending q next => exact .inr ⟨q, rfl⟩
  | waiting => exact .inl rfl
  | ready => exact .inl rfl
  | finished => exact .inl rfl

/-- What an event does to the dialogue that it is about. -/
inductive Moves : Participant Q A α → PoolEvent Q A → Participant Q A α → Prop
  | opened (i : Nat) (d : Dialogue Q A α) : Moves (.waiting d) (.opened i) (.ofDialogue d)
  | asked (i : Nat) (q : Q) (next : A q → Dialogue Q A α) :
      Moves (.ready q next) (.asked i q) (.pending q next)
  | answered (i : Nat) (q : Q) (next : A q → Dialogue Q A α) (x : A q) :
      Moves (.pending q next) (.answered i q x) (.ofDialogue (next x))

theorem Moves.result?_eq {m m' : Participant Q A α} {e : PoolEvent Q A} (h : m.Moves e m') :
    m.result? = none := by
  cases h <;> rfl

theorem Moves.isWaiting_eq {m m' : Participant Q A α} {e : PoolEvent Q A} (h : m.Moves e m') :
    m'.isWaiting = false := by
  cases h with
  | opened i d => cases d <;> rfl
  | asked => rfl
  | answered i q next x => cases next x <;> rfl

/-- What an event does to the dialogue in a place. -/
def Turn (i : Nat) (m : Participant Q A α) (e : PoolEvent Q A) (m' : Participant Q A α) : Prop :=
  (e.place = i ∧ m.Moves e m') ∨ (e.place ≠ i ∧ m' = m)

/-- A dialogue with less to come. -/
def Later (m' m : Participant Q A α) : Prop := ∃ e, m.Moves e m'

theorem wellFounded_later : WellFounded (@Later Q A α) := by
  have hopen : ∀ d : Dialogue Q A α, Acc Later (ofDialogue d) := by
    intro d
    induction d with
    | done a => exact .intro _ fun _ ⟨_, h⟩ => nomatch h
    | ask q next ih =>
      have hpending : Acc Later (pending q next) := by
        refine .intro _ fun m ⟨e, h⟩ => ?_
        cases h with
        | answered i q next x => exact ih x
      refine .intro _ fun m ⟨e, h⟩ => ?_
      cases h with
      | asked i q next => exact hpending
  refine ⟨fun m => .intro m fun m' ⟨e, h⟩ => ?_⟩
  cases h with
  | opened i d => exact hopen d
  | asked i q next => exact (hopen (.ask q next)).inv ⟨_, .asked i q next⟩
  | answered i q next x => exact hopen (next x)

end Participant

namespace Pool

theorem advance_eq (p : Pool Q A α) (i : Nat) (d : Dialogue Q A α) :
    p.advance i d = ⟨p.members.set i (.ofDialogue d),
      p.completed ++ (Participant.ofDialogue d).result?.toList⟩ := by
  cases d <;> simp [advance, Participant.ofDialogue, Participant.result?]

/-- A step moves the dialogue that its event is about, and notes the result if there is one. -/
theorem Step.moves {bound : Nat} {p p' : Pool Q A α} {e : PoolEvent Q A}
    (h : Step bound p e p') : ∃ m m', p.members[e.place]? = some m ∧ m.Moves e m' ∧
      p' = ⟨p.members.set e.place m', p.completed ++ m'.result?.toList⟩ := by
  cases h with
  | opened place _ _ => exact ⟨_, _, place, .opened .., advance_eq ..⟩
  | asked place => exact ⟨_, _, place, .asked .., by simp [await, PoolEvent.place,
      Participant.result?]⟩
  | answered x place => exact ⟨_, _, place, .answered .., advance_eq ..⟩

/-- What a step does to the dialogue in a place. -/
theorem Step.turn {bound : Nat} {p p' : Pool Q A α} {e : PoolEvent Q A}
    (h : Step bound p e p') {i : Nat} {m : Participant Q A α} (hm : p.members[i]? = some m) :
    ∃ m', p'.members[i]? = some m' ∧ m.Turn i e m' := by
  obtain ⟨m₀, m', hm₀, hmoves, rfl⟩ := h.moves
  by_cases hi : e.place = i
  · rw [hi, hm, Option.some.injEq] at hm₀
    subst hm₀
    have hlt : i < p.members.length := (List.getElem?_eq_some_iff.mp hm).1
    exact ⟨m', by simp [hi, hlt], .inl ⟨hi, hmoves⟩⟩
  · exact ⟨m, by simp [hi, hm], .inr ⟨hi, rfl⟩⟩

/-- What a place keeps from event to event holds of it after a run. -/
theorem Runs.induct_place {bound : Nat} {p p' : Pool Q A α} {es pre : List (PoolEvent Q A)}
    {i : Nat} {m : Participant Q A α}
    (I : List (PoolEvent Q A) → Participant Q A α → Prop)
    (turn : ∀ es e m m', I es m → m.Turn i e m' → I (es ++ [e]) m')
    (h : Runs bound p es p') (hm : p.members[i]? = some m) (h₀ : I pre m) :
    ∃ m', p'.members[i]? = some m' ∧ I (pre ++ es) m' := by
  induction h generalizing pre m with
  | refl p => exact ⟨m, hm, by simpa using h₀⟩
  | @step p p' p'' e es hs _ ih =>
    obtain ⟨m', hm', ht⟩ := hs.turn hm
    obtain ⟨m'', hm'', hI⟩ := ih hm' (turn _ _ _ _ h₀ ht)
    exact ⟨m'', hm'', by simpa using hI⟩

theorem getElem?_ofDialogues {ds : List (Dialogue Q A α)} {i : Nat} {d : Dialogue Q A α}
    (h : ds[i]? = some d) : (ofDialogues ds).members[i]? = some (.waiting d) := by
  simp [ofDialogues, h]

/-- What keeps a place that starts with a dialogue holds of it after a run of the pool. -/
theorem Runs.at_place {bound : Nat} {ds : List (Dialogue Q A α)} {p : Pool Q A α}
    {es : List (PoolEvent Q A)} {i : Nat} {d : Dialogue Q A α}
    (I : List (PoolEvent Q A) → Participant Q A α → Prop)
    (turn : ∀ es e m m', I es m → m.Turn i e m' → I (es ++ [e]) m')
    (h : Runs bound (ofDialogues ds) es p) (hd : ds[i]? = some d) (h₀ : I [] (.waiting d)) :
    ∃ m, p.members[i]? = some m ∧ I es m :=
  h.induct_place I turn (getElem?_ofDialogues hd) h₀

/-! ## What a place has asked -/

/-- What is asked in a place. -/
def asks (i : Nat) (es : List (PoolEvent Q A)) : List Q :=
  es.filterMap fun
    | .asked j q => if j = i then some q else none
    | _ => none

/-- The exchanges of a place. -/
def exchanges (i : Nat) (es : List (PoolEvent Q A)) : List (Exchange Q A) :=
  es.filterMap fun
    | .answered j q x => if j = i then some ⟨q, x⟩ else none
    | _ => none

/-- What is asked, in any place. -/
def questions (es : List (PoolEvent Q A)) : List Q :=
  es.filterMap fun
    | .asked _ q => some q
    | _ => none

theorem mem_asks {i : Nat} {es : List (PoolEvent Q A)} {q : Q} :
    q ∈ asks i es ↔ .asked i q ∈ es := by
  constructor
  · intro h
    obtain ⟨e, he, hq⟩ := List.mem_filterMap.mp h
    cases e with
    | asked j q' =>
      simp only [Option.ite_none_right_eq_some, Option.some.injEq] at hq
      obtain ⟨rfl, rfl⟩ := hq
      exact he
    | opened => cases hq
    | answered => cases hq
  · intro h
    exact List.mem_filterMap.mpr ⟨_, h, by simp⟩

theorem mem_exchanges {i : Nat} {es : List (PoolEvent Q A)} {x : Exchange Q A} :
    x ∈ exchanges i es ↔ .answered i x.question x.answer ∈ es := by
  constructor
  · intro h
    obtain ⟨e, he, hx⟩ := List.mem_filterMap.mp h
    cases e with
    | answered j q y =>
      simp only [Option.ite_none_right_eq_some, Option.some.injEq] at hx
      obtain ⟨rfl, rfl⟩ := hx
      exact he
    | opened => cases hx
    | asked => cases hx
  · intro h
    exact List.mem_filterMap.mpr ⟨_, h, by simp⟩

theorem exchanges_append (i : Nat) (es es' : List (PoolEvent Q A)) :
    exchanges i (es ++ es') = exchanges i es ++ exchanges i es' := List.filterMap_append

theorem asks_append (i : Nat) (es es' : List (PoolEvent Q A)) :
    asks i (es ++ es') = asks i es ++ asks i es' := List.filterMap_append

theorem questions_append (es es' : List (PoolEvent Q A)) :
    questions (es ++ es') = questions es ++ questions es' := List.filterMap_append

theorem mem_questions {es : List (PoolEvent Q A)} {q : Q} :
    q ∈ questions es ↔ ∃ i, .asked i q ∈ es := by
  constructor
  · intro h
    obtain ⟨e, he, hq⟩ := List.mem_filterMap.mp h
    cases e with
    | asked i q' =>
      obtain rfl : q' = q := by simpa using hq
      exact ⟨i, he⟩
    | opened => cases hq
    | answered => cases hq
  · rintro ⟨i, h⟩
    exact List.mem_filterMap.mpr ⟨_, h, rfl⟩

/-- An event in another place brings a place no answer. -/
theorem exchanges_of_ne {i : Nat} {e : PoolEvent Q A} (h : e.place ≠ i) :
    exchanges i [e] = [] := by
  cases e with
  | answered j q x => exact List.filterMap_cons_none (if_neg h)
  | opened => rfl
  | asked => rfl

theorem asks_of_ne {i : Nat} {e : PoolEvent Q A} (h : e.place ≠ i) : asks i [e] = [] := by
  cases e with
  | asked j q => exact List.filterMap_cons_none (if_neg h)
  | opened => rfl
  | answered => rfl

/-- What an event does to the question without an answer. -/
theorem owed_turn {i : Nat} {e : PoolEvent Q A} {m m' : Participant Q A α} (h : m.Turn i e m') :
    m.owed ++ asks i [e] = (exchanges i [e]).map Exchange.question ++ m'.owed := by
  obtain ⟨hi, hm⟩ | ⟨hi, rfl⟩ := h
  · cases hm with
    | opened j d =>
      rw [Participant.owed_ofDialogue]
      rfl
    | asked j q next =>
      obtain rfl : j = i := hi
      simp [asks, exchanges, Participant.owed]
    | answered j q next x =>
      obtain rfl : j = i := hi
      rw [Participant.owed_ofDialogue]
      simp [asks, exchanges, Participant.owed]
  · rw [exchanges_of_ne hi, asks_of_ne hi, List.append_nil, List.map_nil, List.nil_append]

/-- A dialogue `d` has come as far as the exchanges of its place lead, and what the place has asked
are the questions of these exchanges and the one that is still open. -/
def Standing (d : Dialogue Q A α) (i : Nat) (es : List (PoolEvent Q A))
    (m : Participant Q A α) : Prop :=
  d.Plays (exchanges i es) m.dialogue ∧
    asks i es = (exchanges i es).map Exchange.question ++ m.owed

/-- How a place comes from `m` to `m'`: its dialogue goes on along the exchanges, which answer the
question that was open, if there was one, and then what was asked since; the last question may be
open. -/
def Since (m : Participant Q A α) (i : Nat) (es : List (PoolEvent Q A))
    (m' : Participant Q A α) : Prop :=
  m.dialogue.Plays (exchanges i es) m'.dialogue ∧
    m.owed ++ asks i es = (exchanges i es).map Exchange.question ++ m'.owed

theorem Since.turn {i : Nat} {es : List (PoolEvent Q A)} {e : PoolEvent Q A}
    {m₀ m m' : Participant Q A α} (h : Since m₀ i es m) (ht : m.Turn i e m') :
    Since m₀ i (es ++ [e]) m' := by
  obtain ⟨hplays, hasks⟩ := h
  refine ⟨?_, ?_⟩
  · rw [exchanges_append]
    obtain ⟨hi, hm⟩ | ⟨hi, rfl⟩ := ht
    · cases hm with
      | opened j d' =>
        rw [Participant.dialogue_ofDialogue]
        simpa [exchanges, Participant.dialogue] using hplays
      | asked j q next => simpa [exchanges, Participant.dialogue] using hplays
      | answered j q next x =>
        obtain rfl : j = i := hi
        rw [Participant.dialogue_ofDialogue]
        simpa [exchanges] using hplays.snoc x
    · rwa [exchanges_of_ne hi, List.append_nil]
  · rw [asks_append, ← List.append_assoc, hasks, List.append_assoc, owed_turn ht,
      exchanges_append, List.map_append, List.append_assoc]

theorem Runs.since {bound : Nat} {p p' : Pool Q A α} {es : List (PoolEvent Q A)} {i : Nat}
    {m : Participant Q A α} (h : Runs bound p es p') (hm : p.members[i]? = some m) :
    ∃ m', p'.members[i]? = some m' ∧ Since m i es m' :=
  have hstart : Since m i [] m := ⟨.nil _, List.append_nil _⟩
  h.induct_place (Since m i) (fun _ _ _ _ => Since.turn) hm hstart

theorem Runs.standing {bound : Nat} {ds : List (Dialogue Q A α)} {p : Pool Q A α}
    {es : List (PoolEvent Q A)} {i : Nat} {d : Dialogue Q A α}
    (h : Runs bound (ofDialogues ds) es p) (hd : ds[i]? = some d) :
    ∃ m, p.members[i]? = some m ∧ Standing d i es m :=
  h.since (getElem?_ofDialogues hd)

/-- A place that waits has had no answer. -/
theorem Runs.exchanges_of_waiting {bound : Nat} {ds : List (Dialogue Q A α)} {p : Pool Q A α}
    {es : List (PoolEvent Q A)} (h : Runs bound (ofDialogues ds) es p) {i : Nat}
    {d : Dialogue Q A α} (hd : p.members[i]? = some (.waiting d)) : exchanges i es = [] := by
  have hi : i < ds.length := by
    simpa [ofDialogues, h.length_eq] using (List.getElem?_eq_some_iff.mp hd).1
  obtain ⟨m, hm, hwaits⟩ := h.at_place (fun es m => m.isWaiting = true → exchanges i es = [])
    (fun es e m m' hI ht hm' => by
      obtain ⟨-, hmoves⟩ | ⟨hi, rfl⟩ := ht
      · rw [hmoves.isWaiting_eq] at hm'
        cases hm'
      · rw [exchanges_append, hI hm', exchanges_of_ne hi, List.append_nil])
    (List.getElem?_eq_getElem hi) fun _ => rfl
  obtain rfl := Option.some.inj (hd.symm.trans hm)
  exact hwaits rfl

/-- A run until an event, the event, and the run after it. -/
theorem Runs.split {bound : Nat} {p p' : Pool Q A α} {e : PoolEvent Q A}
    {pre post : List (PoolEvent Q A)} (h : Runs bound p (pre ++ e :: post) p') :
    ∃ p₁ p₂, Runs bound p pre p₁ ∧ Step bound p₁ e p₂ ∧ Runs bound p₂ post p' := by
  induction pre generalizing p with
  | nil =>
    cases h with
    | step hs h => exact ⟨p, _, .refl p, hs, h⟩
  | cons e' pre ih =>
    cases h with
    | step hs h =>
      obtain ⟨p₁, p₂, h₁, hs', h₂⟩ := ih h
      exact ⟨p₁, p₂, .step hs h₁, hs', h₂⟩

/-- A place that asks has come to its question. -/
theorem Runs.since_asked {bound : Nat} {p p' : Pool Q A α} {es post : List (PoolEvent Q A)}
    {i : Nat} {q : Q} (h : Runs bound p (es ++ .asked i q :: post) p') :
    ∃ m next, p.members[i]? = some m ∧ Since m i es (.ready q next) := by
  obtain ⟨p₁, p₂, h₁, hs, -⟩ := h.split
  cases hs with
  | asked place =>
    have hi : i < p.members.length := h₁.length_eq ▸ (List.getElem?_eq_some_iff.mp place).1
    obtain ⟨m', hm', hsince⟩ := h₁.since (List.getElem?_eq_getElem hi)
    obtain rfl := Option.some.inj (place.symm.trans hm')
    exact ⟨_, _, List.getElem?_eq_getElem hi, hsince⟩

/-- What is asked in a place is what its dialogue asks after the exchanges so far. -/
theorem Runs.asks_exchanges {bound : Nat} {ds : List (Dialogue Q A α)} {p : Pool Q A α}
    {pre post : List (PoolEvent Q A)} {i : Nat} {q : Q}
    (h : Runs bound (ofDialogues ds) (pre ++ .asked i q :: post) p) :
    ∃ d, ds[i]? = some d ∧ d.Asks (exchanges i pre) q := by
  obtain ⟨m, next, hm, hplays, -⟩ := h.since_asked
  obtain ⟨d, hd, rfl⟩ : ∃ d, ds[i]? = some d ∧ .waiting d = m := by simpa [ofDialogues] using hm
  exact ⟨d, hd, next, hplays⟩

/-- The question that an open dialogue is at it asks after its exchanges. -/
theorem Runs.asks_current {bound : Nat} {ds : List (Dialogue Q A α)} {p : Pool Q A α}
    {es : List (PoolEvent Q A)} (h : Runs bound (ofDialogues ds) es p) {i : Nat}
    {m : Participant Q A α} (hm : p.members[i]? = some m) {q : Q} (hq : m.current? = some q) :
    ∃ d, ds[i]? = some d ∧ d.Asks (exchanges i es) q := by
  have hi : i < ds.length := by
    simpa [ofDialogues, h.length_eq] using (List.getElem?_eq_some_iff.mp hm).1
  obtain ⟨m', hm', hplays, -⟩ := h.standing (List.getElem?_eq_getElem hi)
  obtain rfl := Option.some.inj (hm.symm.trans hm')
  refine ⟨_, List.getElem?_eq_getElem hi, ?_⟩
  cases m with
  | ready q' next =>
    obtain rfl := Option.some.inj hq
    exact ⟨next, hplays⟩
  | pending q' next =>
    obtain rfl := Option.some.inj hq
    exact ⟨next, hplays⟩
  | waiting => cases hq
  | finished => cases hq

/-- The questions of a place come in the order in which its dialogue asks. -/
theorem Runs.asks_sublist {R : Type} {f : Q → Option R} {rs : List R} {bound : Nat}
    {ds : List (Dialogue Q A α)} {p : Pool Q A α} {es : List (PoolEvent Q A)} {i : Nat}
    {d : Dialogue Q A α} (h : Runs bound (ofDialogues ds) es p) (hd : ds[i]? = some d)
    (ho : d.AsksInOrder f rs) : ((asks i es).filterMap f).Sublist rs := by
  obtain ⟨m, -, hplays, hasks⟩ := h.standing hd
  obtain ⟨rs₁, rs₂, rfl, hl, hm⟩ := ho.plays hplays
  rw [hasks, List.filterMap_append]
  refine hl.append ?_
  cases m with
  | pending q next =>
    obtain ⟨skipped, rest, rfl, -⟩ := hm
    have hq : List.filterMap f [q] = (f q).toList := by
      cases hf : f q <;> simp [hf]
    rw [Participant.owed, hq]
    exact (List.sublist_append_left ..).trans (List.sublist_append_right ..)
  | waiting => exact List.nil_sublist _
  | ready => exact List.nil_sublist _
  | finished => exact List.nil_sublist _

/-- The place of every event is that of a dialogue. -/
theorem Runs.place_lt {bound : Nat} {p p' : Pool Q A α} {es : List (PoolEvent Q A)}
    (h : Runs bound p es p') : ∀ e ∈ es, e.place < p.members.length := by
  induction h with
  | refl p => simp
  | step hs _ ih =>
    intro e he
    obtain rfl | he := List.mem_cons.mp he
    · obtain ⟨m, -, hm, -, -⟩ := hs.moves
      exact (List.getElem?_eq_some_iff.mp hm).1
    · rw [← hs.length_eq]
      exact ih e he

/-- What was answered in a place was asked there. -/
theorem Runs.asked_of_answered {bound : Nat} {ds : List (Dialogue Q A α)} {p : Pool Q A α}
    {es : List (PoolEvent Q A)} (h : Runs bound (ofDialogues ds) es p) {i : Nat} {q : Q} {x : A q}
    (hx : .answered i q x ∈ es) : .asked i q ∈ es := by
  have hi : i < ds.length := by
    simpa [ofDialogues, PoolEvent.place] using h.place_lt _ hx
  obtain ⟨m, -, -, hasks⟩ := h.standing (List.getElem?_eq_getElem hi)
  have hmem : (⟨q, x⟩ : Exchange Q A) ∈ exchanges i es := mem_exchanges.mpr hx
  rw [← mem_asks, hasks]
  exact List.mem_append_left _ (List.mem_map_of_mem hmem)

/-- What is answered in a place after another answer was asked in between. -/
theorem Runs.asked_between {bound : Nat} {p p' : Pool Q A α} {es : List (PoolEvent Q A)} {i : Nat}
    (h : Runs bound p es p') {l l' : List (Exchange Q A)} {x y : Exchange Q A}
    (hl : exchanges i es = l ++ x :: l') (hy : y ∈ l') : .asked i y.question ∈ es := by
  have hx : .answered i x.question x.answer ∈ es := mem_exchanges.mp (by simp [hl])
  have hi : i < p.members.length := h.place_lt _ hx
  obtain ⟨m', -, -, howed⟩ := h.since (List.getElem?_eq_getElem hi)
  have hmem : y.question ∈ l'.map Exchange.question := List.mem_map_of_mem hy
  rw [hl, List.map_append, List.map_cons] at howed
  rw [← mem_asks]
  -- Only the first answer can be one to a question that was open before.
  obtain hnone | ⟨q, hone⟩ := p.members[i].owed_eq
  · rw [hnone, List.nil_append] at howed
    simp [howed, hmem]
  · rw [hone, List.singleton_append] at howed
    cases l with
    | nil => simp [(List.cons.inj howed).2, hmem]
    | cons z l => simp [(List.cons.inj howed).2, hmem]

/-- Everything that is asked is asked by the dialogue in its place. -/
theorem Runs.asked {bound : Nat} {ds : List (Dialogue Q A α)} {p : Pool Q A α}
    {es : List (PoolEvent Q A)} {P : Nat → Q → Prop} (h : Runs bound (ofDialogues ds) es p)
    (hP : ∀ i (d : Dialogue Q A α), ds[i]? = some d → d.AsksOnly (P i)) {i : Nat} {q : Q}
    (hq : .asked i q ∈ es) :
    i < ds.length ∧ P i q := by
  have hi : i < ds.length := by
    simpa [ofDialogues, PoolEvent.place] using h.place_lt _ hq
  obtain ⟨m, -, hplays, hasks⟩ := h.standing (List.getElem?_eq_getElem hi)
  obtain ⟨hl, hm⟩ := (hP i _ (List.getElem?_eq_getElem hi)).plays hplays
  have hq' := mem_asks.mpr hq
  rw [hasks, List.mem_append, List.mem_map] at hq'
  refine ⟨hi, ?_⟩
  obtain ⟨x, hx, rfl⟩ | ho := hq'
  · exact hl x hx
  · cases m with
    | pending q' next =>
      obtain rfl := List.mem_singleton.mp ho
      exact hm.1
    | waiting => cases ho
    | ready => cases ho
    | finished => cases ho

/-! ## Results -/

/-- In a finished pool every dialogue has a result. -/
theorem exists_result {p : Pool Q A α} (hp : p.isFinished = true) {m : Participant Q A α}
    (hm : m ∈ p.members) : ∃ a, m = .finished a := by
  have hres := List.all_eq_true.mp hp m hm
  cases m with
  | finished a => exact ⟨a, rfl⟩
  | waiting => cases hres
  | ready => cases hres
  | pending => cases hres

/-- Only what is in the place is exchanged. -/
theorem cons_set_perm {β : Type} {l : List β} {i : Nat} {x : β} (h : l[i]? = some x) (y : β) :
    (x :: l.set i y).Perm (y :: l) := by
  obtain ⟨hi, rfl⟩ := List.getElem?_eq_some_iff.mp h
  have hset : (l.set i y).Perm (y :: l.eraseIdx i) := List.set_perm_cons_eraseIdx hi y
  have hall : (l[i] :: l.eraseIdx i).Perm l := List.getElem_cons_eraseIdx_perm hi
  exact (hset.cons _).trans ((List.Perm.swap ..).trans (hall.cons y))

/-- The results came from the dialogues, in some order. -/
theorem Runs.completed_perm {bound : Nat} {p p' : Pool Q A α} {es : List (PoolEvent Q A)}
    (h : Runs bound p es p') (hp : p.completed.Perm (p.members.filterMap Participant.result?)) :
    p'.completed.Perm (p'.members.filterMap Participant.result?) := by
  induction h with
  | refl p => exact hp
  | step hs _ ih =>
    obtain ⟨m, m', hm, hmoves, rfl⟩ := hs.moves
    have hset := (cons_set_perm hm m').filterMap Participant.result?
    rw [List.filterMap_cons_none hmoves.result?_eq, List.filterMap_cons] at hset
    refine ih ((hp.append_right _).trans (.trans ?_ hset.symm))
    cases m'.result? with
    | none => simp
    | some a => simp

theorem completed_ofDialogues (ds : List (Dialogue Q A α)) :
    (ofDialogues ds).completed.Perm
      ((ofDialogues ds).members.filterMap Participant.result?) := by
  simp [ofDialogues, List.filterMap_map, Function.comp_def, Participant.result?]

/-- In a finished pool the results came in some order, and each of them is where the exchanges of
its place lead the dialogue. -/
theorem Runs.exists_results {bound : Nat} {ds : List (Dialogue Q A α)} {p : Pool Q A α}
    {es : List (PoolEvent Q A)} (h : Runs bound (ofDialogues ds) es p)
    (hp : p.isFinished = true) : ∃ as, p.completed.Perm as ∧ as.length = ds.length ∧
      ∀ i (d : Dialogue Q A α) a, ds[i]? = some d → as[i]? = some a →
        d.Plays (exchanges i es) (.done a) := by
  have hrange : p.members ∈ Set.range (List.map Participant.finished) := by
    rw [Set.range_list_map]
    intro m hm
    obtain ⟨a, rfl⟩ := exists_result hp hm
    exact ⟨a, rfl⟩
  obtain ⟨as, has⟩ := hrange
  have hperm := h.completed_perm (completed_ofDialogues ds)
  have hlen : p.members.length = ds.length := by simpa [ofDialogues] using h.length_eq
  rw [← has] at hperm hlen
  refine ⟨as, ?_, by simpa using hlen, fun i d a hd ha => ?_⟩
  · rw [List.filterMap_map] at hperm
    simpa [Function.comp_def, Participant.result?] using hperm
  · obtain ⟨m, hm, hplays, -⟩ := h.standing hd
    rw [← has, List.getElem?_map, ha, Option.map_some] at hm
    obtain rfl := Option.some.inj hm
    exact hplays

/-! ## One after the other -/

/-- A pool whose first dialogues are finished, with these results, and whose others wait. -/
def halfway (as : List α) (ds : List (Dialogue Q A α)) : Pool Q A α :=
  ⟨as.map .finished ++ ds.map .waiting, as⟩

theorem isFinished_halfway (as : List α) : (halfway as [] : Pool Q A α).isFinished = true := by
  simp [halfway, isFinished, Participant.result?]

/-- The first dialogue that waits may be opened. -/
theorem step_halfway {bound : Nat} (hb : 0 < bound) (as : List α) (d : Dialogue Q A α)
    (ds : List (Dialogue Q A α)) : Step bound (halfway as (d :: ds)) (.opened as.length)
      ((halfway as (d :: ds)).advance as.length d) := by
  refine .opened (by simp [halfway]) (by simp [halfway, Participant.isWaiting]) ?_
  simpa [halfway, active, List.countP_map, Function.comp_def, Participant.isActive] using hb

/-- The first dialogue that waits is finished. -/
theorem finish_halfway (as : List α) (d : Dialogue Q A α) (ds : List (Dialogue Q A α)) (a : α) :
    (⟨(halfway as (d :: ds)).members.set as.length (.finished a), as ++ [a]⟩ : Pool Q A α) =
      halfway (as ++ [a]) ds := by
  simp [halfway]

/-! ## Going on -/

/-- A pool that is not finished can go on, whatever its surroundings would answer. -/
theorem exists_step {bound : Nat} (hb : 0 < bound) {p : Pool Q A α}
    (hp : p.isFinished = false) (reply : Nat → (q : Q) → A q) :
    ∃ e p', Step bound p e p' ∧ ∀ i q x, e = .answered i q x → x = reply i q := by
  by_cases hactive : ∃ m ∈ p.members, m.isActive = true
  · obtain ⟨m, hm, hact⟩ := hactive
    obtain ⟨i, hi⟩ := List.getElem?_of_mem hm
    cases m with
    | waiting => simp [Participant.isActive] at hact
    | finished => simp [Participant.isActive] at hact
    | ready q next => exact ⟨_, _, .asked hi, by simp⟩
    | pending q next =>
      refine ⟨_, _, .answered (reply i q) hi, ?_⟩
      rintro j q' x ⟨⟩
      rfl
  · -- Nothing is open, so the first dialogue that waits can be opened.
    have hwaits : ∃ m ∈ p.members, m.isWaiting = true := by
      obtain ⟨m, hm, hres⟩ : ∃ m ∈ p.members, m.result? = none := by
        simpa [isFinished] using hp
      refine ⟨m, hm, ?_⟩
      cases m with
      | waiting => rfl
      | finished => simp [Participant.result?] at hres
      | ready => exact (hactive ⟨_, hm, rfl⟩).elim
      | pending => exact (hactive ⟨_, hm, rfl⟩).elim
    have hlt := List.findIdx_lt_length.mpr hwaits
    have hfirst := List.findIdx_getElem (w := hlt)
    obtain ⟨d, hd⟩ : ∃ d, p.members[p.members.findIdx Participant.isWaiting]? =
        some (.waiting d) := by
      rw [List.getElem?_eq_getElem hlt]
      cases hm : p.members[p.members.findIdx Participant.isWaiting] with
      | waiting d => exact ⟨d, rfl⟩
      | ready => simp [hm, Participant.isWaiting] at hfirst
      | pending => simp [hm, Participant.isWaiting] at hfirst
      | finished => simp [hm, Participant.isWaiting] at hfirst
    refine ⟨_, _, .opened hd ?_ ?_, by simp⟩
    · intro m hm
      obtain ⟨j, hj, rfl⟩ := List.mem_take_iff_getElem.mp hm
      simpa using List.not_of_lt_findIdx (p := Participant.isWaiting) (by omega)
    · have hnone : p.active = 0 := by
        rw [active, List.countP_eq_zero]
        exact fun m hm hact => hactive ⟨m, hm, hact⟩
      omega

/-- There is no endless run. -/
theorem wellFounded_step (bound : Nat) :
    WellFounded fun p' p : Pool Q A α => ∃ e, Step bound p e p' := by
  refine Subrelation.wf (fun {p' p} ⟨e, h⟩ => ?_)
    (InvImage.wf (fun p : Pool Q A α => (p.members : Multiset (Participant Q A α)))
      Participant.wellFounded_later.cutExpand)
  obtain ⟨m, m', hm, hmoves, rfl⟩ := h.moves
  have hset : (↑(p.members.set e.place m') : Multiset (Participant Q A α)) + {m} =
      ↑p.members + {m'} := by
    rw [Multiset.add_comm _ {m}, Multiset.add_comm _ {m'}, Multiset.singleton_add,
      Multiset.singleton_add]
    exact Multiset.coe_eq_coe.mpr (cons_set_perm hm m')
  exact ⟨{m'}, m, by simpa using ⟨e, hmoves⟩, hset⟩

end Pool

end Telemetry
