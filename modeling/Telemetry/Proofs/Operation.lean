import Telemetry.Operation.Step
import Telemetry.Proofs.Dialogue
import Telemetry.Store.Keyed
import Telemetry.Store.Memory

/-!
# What operations come to

* `DocumentStore`: either of the two stores; `DocumentStore.accepts_of_mem_select`: what is selected
  is what the filter accepts.
* `Backends.answer`: documents come from a store, and everything else is answered in any way.
* `Operation.result`, `Operation.after`: what comes of an operation; `result_bind` and
  `mem_questions_bind` take a sequence apart, as do `result_bind_of_ok`, `after_bind_of_ok` and
  `questions_bind_of_ok` when it is known what its first operation comes to.
* `Operation.find_ok`: a document that was found has the id that was asked for.
-/

namespace Telemetry

/-! ## Stores -/

/-- Either of the two document stores. -/
inductive DocumentStore where
  | memory (s : MemoryStore)
  | keyed (s : KeyedStore)

namespace KeyedStore

theorem accepts_of_mem_scan {f : Filter} {rows : Entries String} {ds : List Document}
    (h : scan f rows = .ok ds) : ∀ d ∈ ds, f.accepts d = true := by
  induction rows generalizing ds with
  | nil =>
    obtain rfl : [] = ds := by simpa [scan] using h
    simp
  | cons row rows ih =>
    obtain ⟨key, text⟩ := row
    rw [scan] at h
    cases hd : decode text with
    | error e => simp [hd, bind, Except.bind] at h
    | ok d =>
      cases hs : scan f rows with
      | error e => simp [hd, hs, bind, Except.bind] at h
      | ok rest =>
        simp only [hd, hs, bind, Except.bind, pure, Except.pure, Except.ok.injEq] at h
        subst h
        split
        · next ha => exact List.forall_mem_cons.mpr ⟨ha, ih hs⟩
        · exact ih hs

theorem accepts_of_mem_select {s : KeyedStore} {f : Filter} {name : String} {ds : List Document}
    (h : s.select f name = .ok ds) : ∀ d ∈ ds, f.accepts d = true := by
  unfold select at h
  cases hr : s.rows name with
  | error e => simp [hr, bind, Except.bind] at h
  | ok rows =>
    simp only [hr, bind, Except.bind] at h
    cases hp : f.pinned with
    | none =>
      rw [hp] at h
      exact accepts_of_mem_scan h
    | some id =>
      simp only [hp] at h
      cases ht : rows.get? id with
      | none =>
        obtain rfl : [] = ds := by simpa [ht, pure, Except.pure] using h
        simp
      | some text =>
        simp only [ht] at h
        cases hd : decode text with
        | error e => simp [hd] at h
        | ok d =>
          simp only [hd, pure, Except.pure, Except.ok.injEq] at h
          subst h
          split
          · next ha => simpa using ha
          · simp

end KeyedStore

namespace DocumentStore

/-- The answer to a request, and the store after it. -/
def perform (fresh : ObjectId) (r : StoreRequest) : DocumentStore → r.Answer × DocumentStore
  | memory s => ((s.perform fresh r).1, .memory (s.perform fresh r).2)
  | keyed s => ((s.perform fresh r).1, .keyed (s.perform fresh r).2)

/-- What is selected is what the filter accepts. -/
theorem accepts_of_mem_select {s : DocumentStore} {fresh : ObjectId} {f : Filter}
    {collection : String} {ds : List Document}
    (h : (s.perform fresh (.select f collection)).1 = .ok ds) : ∀ d ∈ ds, f.accepts d = true := by
  cases s with
  | memory s =>
    obtain rfl : s.select f collection = ds := Except.ok.inj h
    exact fun d hd => (List.mem_filter.mp hd).2
  | keyed s => exact KeyedStore.accepts_of_mem_select h

end DocumentStore

theorem Json.eq_text_of_same {v : Json} {s : String} (h : v.same (.text s) = true) :
    v = .text s := by
  cases v with
  | text t => simpa [Json.same] using h
  | null => simp [Json.same] at h
  | bool => simp [Json.same] at h
  | int => simp [Json.same] at h
  | float => simp [Json.same] at h
  | list => simp [Json.same] at h
  | object => simp [Json.same] at h

/-- A document that the filter for an id accepts has this id. -/
theorem Filter.id_of_accepts {x : ObjectId} {d : Document}
    (h : (byId x).accepts d = true) : d.get? idKey = some (.text x.toHex) := by
  have h : holds d (idKey, .text x.toHex) = true := by simpa [accepts, byId] using h
  unfold holds at h
  split at h
  · next v hv =>
    rw [hv, Json.eq_text_of_same h]
  · cases h

theorem Filter.accepts_byId {x : ObjectId} {d : Document}
    (h : d.get? idKey = some (.text x.toHex)) : (byId x).accepts d = true := by
  simp [byId, accepts, holds, h, Json.same]

theorem ObjectId.parseId_eq_ok_iff {id : String} {x : ObjectId} :
    parseId id = .ok x ↔ parse id = .ok x := by
  unfold parseId
  cases parse id <;> simp

/-! ## Surroundings -/

/-- What is not a document store: the source of new ids, the series store, and what a sync asks. -/
structure Backends (σ : Type) where
  fresh : σ → ObjectId
  series : SeriesQuery → σ → Except Error TimeSeries × σ
  sync : (s : SyncStep) → σ → s.Answer × σ

/-- Documents come from the store, and everything else is answered by the other backends. -/
def Backends.answer {σ : Type} (b : Backends σ) :
    (q : OperationStep) → DocumentStore × σ → q.Answer × DocumentStore × σ
  | .store r, (d, s) => ((d.perform (b.fresh s) r).1, (d.perform (b.fresh s) r).2, s)
  | .series q, (d, s) => ((b.series q s).1, d, (b.series q s).2)
  | .sync q, (d, s) => ((b.sync q s).1, d, (b.sync q s).2)

namespace Operation

variable {σ α β : Type} (answer : (q : OperationStep) → σ → q.Answer × σ)

/-- What comes of an operation. -/
def result (x : Operation α) (s : σ) : Except Error α := (x.run.run answer s).1

/-- The surroundings after an operation. -/
def after (x : Operation α) (s : σ) : σ := (x.run.run answer s).2

variable {answer}

/-- A sequence that succeeds is two operations that succeed. -/
theorem result_bind {x : Operation α} {f : α → Operation β} {s : σ} {b : β}
    (h : result answer (x >>= f) s = .ok b) :
    ∃ a, result answer x s = .ok a ∧ result answer (f a) (after answer x s) = .ok b := by
  unfold result at h
  rw [ExceptT.run_bind, Dialogue.run_bind] at h
  cases hx : (x.run.run answer s).1 with
  | error e =>
    rw [hx] at h
    cases h
  | ok a =>
    rw [hx] at h
    exact ⟨a, hx, h⟩

/-- After an operation that succeeds, a sequence goes on with its result. -/
theorem result_bind_of_ok {x : Operation α} {s : σ} {a : α} (h : result answer x s = .ok a)
    (f : α → Operation β) :
    result answer (x >>= f) s = result answer (f a) (after answer x s) := by
  have h : (x.run.run answer s).1 = .ok a := h
  unfold result after
  rw [ExceptT.run_bind, Dialogue.run_bind, h]

/-- An operation that fails ends a sequence. -/
theorem result_bind_of_error {x : Operation α} {s : σ} {e : Error}
    (h : result answer x s = .error e) (f : α → Operation β) :
    result answer (x >>= f) s = .error e := by
  have h : (x.run.run answer s).1 = .error e := h
  unfold result
  rw [ExceptT.run_bind, Dialogue.run_bind, h]
  rfl

theorem after_bind_of_ok {x : Operation α} {s : σ} {a : α} (h : result answer x s = .ok a)
    (f : α → Operation β) :
    after answer (x >>= f) s = after answer (f a) (after answer x s) := by
  have h : (x.run.run answer s).1 = .ok a := h
  unfold after
  rw [ExceptT.run_bind, Dialogue.run_bind, h]

theorem after_bind_of_error {x : Operation α} {s : σ} {e : Error} (h : result answer x s = .error e)
    (f : α → Operation β) : after answer (x >>= f) s = after answer x s := by
  have h : (x.run.run answer s).1 = .error e := h
  unfold after
  rw [ExceptT.run_bind, Dialogue.run_bind, h]
  rfl

theorem questions_bind_of_ok {x : Operation α} {s : σ} {a : α} (h : result answer x s = .ok a)
    (f : α → Operation β) : (x >>= f).run.questions answer s =
      x.run.questions answer s ++ (f a).run.questions answer (after answer x s) := by
  have h : (x.run.run answer s).1 = .ok a := h
  rw [ExceptT.run_bind, Dialogue.questions_bind, h]
  rfl

theorem questions_bind_of_error {x : Operation α} {s : σ} {e : Error}
    (h : result answer x s = .error e) (f : α → Operation β) :
    (x >>= f).run.questions answer s = x.run.questions answer s := by
  have h : (x.run.run answer s).1 = .error e := h
  rw [ExceptT.run_bind, Dialogue.questions_bind, h]
  exact List.append_nil _

/-- What a sequence asks is asked by its first operation or, if that succeeds, by the second. -/
theorem mem_questions_bind {x : Operation α} {f : α → Operation β} {s : σ} {q : OperationStep}
    (h : q ∈ (x >>= f).run.questions answer s) : q ∈ x.run.questions answer s ∨
      ∃ a, result answer x s = .ok a ∧ q ∈ (f a).run.questions answer (after answer x s) := by
  cases hx : result answer x s with
  | error e =>
    rw [questions_bind_of_error hx] at h
    exact .inl h
  | ok a =>
    rw [questions_bind_of_ok hx] at h
    exact (List.mem_append.mp h).imp_right fun h => ⟨a, rfl, h⟩

/-! ## What an operation may ask -/

section Asks

variable {P : OperationStep → Prop}

theorem asksOnly_bind {x : Operation α} {f : α → Operation β} (hx : x.run.AsksOnly P)
    (hf : ∀ a, (f a).run.AsksOnly P) : (x >>= f).run.AsksOnly P := by
  rw [ExceptT.run_bind]
  refine hx.bind fun r => ?_
  cases r with
  | error e => exact Dialogue.asksOnly_pure _
  | ok a => exact hf a

theorem asksOnly_pure (a : α) : (pure a : Operation α).run.AsksOnly P := Dialogue.asksOnly_pure _

theorem asksOnly_ofExcept (r : Except Error α) : (ofExcept r).run.AsksOnly P :=
  Dialogue.asksOnly_pure _

/-- After a result that was computed without asking, only what follows from it is asked. -/
theorem asksOnly_ofExcept_bind {r : Except Error α} {f : α → Operation β}
    (h : ∀ a, r = .ok a → (f a).run.AsksOnly P) : (ofExcept r >>= f).run.AsksOnly P := by
  cases r with
  | error e => exact Dialogue.asksOnly_pure _
  | ok a => exact h a rfl

theorem asksOnly_select {f : Filter} {collection : String}
    (h : P (.store (.select f collection))) : (select f collection).run.AsksOnly P :=
  Dialogue.AsksOnly.bind (Dialogue.asksOnly_question h) fun _ => Dialogue.asksOnly_pure _

theorem asksOnly_insert {d : Document} {collection : String}
    (h : P (.store (.insert d collection))) : (insert d collection).run.AsksOnly P :=
  Dialogue.AsksOnly.bind (Dialogue.asksOnly_question h) fun _ => Dialogue.asksOnly_pure _

theorem asksOnly_replace {x : ObjectId} {d : Document} {collection : String}
    (h : P (.store (.replace (.byId x) d collection))) :
    (replace x d collection).run.AsksOnly P :=
  Dialogue.AsksOnly.bind (Dialogue.asksOnly_question h) fun _ => Dialogue.asksOnly_pure _

theorem asksOnly_sync (h : ∀ step, P (.sync step)) (d : SyncDialogue (Except Error α)) :
    (sync d).run.AsksOnly P := by
  have hstep : ∀ step, (syncStep step).AsksOnly P := fun step =>
    Dialogue.asksOnly_question (h step)
  exact Dialogue.asksOnly_translate (A := SyncStep.Answer) hstep d

theorem asksOnly_find {id collection what : String}
    (h : ∀ x, P (.store (.select (.byId x) collection))) :
    (find id collection what).run.AsksOnly P := by
  refine asksOnly_bind (asksOnly_ofExcept _) fun x => asksOnly_bind (asksOnly_select (h x)) ?_
  intro ds
  cases ds with
  | nil => exact Dialogue.asksOnly_pure _
  | cons d ds => exact asksOnly_pure d

theorem asksOnly_log (h : ∀ event, P (.sync (.log event))) (event : LogEvent) :
    (log event).run.AsksOnly P :=
  Dialogue.AsksOnly.bind (Dialogue.asksOnly_question (h event)) fun _ => Dialogue.asksOnly_pure _

theorem asksOnly_logAll (h : ∀ event, P (.sync (.log event))) (events : List LogEvent) :
    (logAll events).run.AsksOnly P := by
  induction events with
  | nil => exact asksOnly_pure ()
  | cons e es ih => exact asksOnly_bind (asksOnly_log h e) fun _ => ih

end Asks

/-! ## Documents that are found -/

variable {b : Backends σ} {s : DocumentStore × σ}

/-- Documents that are selected are accepted by the filter. -/
theorem select_ok {f : Filter} {collection : String} {ds : List Document}
    (h : result b.answer (select f collection) s = .ok ds) : ∀ d ∈ ds, f.accepts d = true := by
  have hanswer : result b.answer (select f collection) s = Except.mapError StoreError.toError
      (s.1.perform (b.fresh s.2) (.select f collection)).1 := rfl
  rw [hanswer] at h
  cases hs : (s.1.perform (b.fresh s.2) (.select f collection)).1 with
  | error e =>
    rw [hs] at h
    cases h
  | ok ds' =>
    rw [hs] at h
    obtain rfl : ds' = ds := Except.ok.inj h
    exact DocumentStore.accepts_of_mem_select hs

/-- A document that was found has the id that was asked for. -/
theorem find_ok {id collection what : String} {d : Document}
    (h : result b.answer (find id collection what) s = .ok d) :
    ∃ x, ObjectId.parse id = .ok x ∧ d.get? idKey = some (.text x.toHex) := by
  obtain ⟨x, hx, h⟩ := result_bind h
  obtain ⟨ds, hds, h⟩ := result_bind h
  refine ⟨x, ObjectId.parseId_eq_ok_iff.mp hx, Filter.id_of_accepts ?_⟩
  cases ds with
  | nil => cases h
  | cons d' ds =>
    obtain rfl : d' = d := Except.ok.inj h
    exact select_ok hds d' (by simp)

end Operation

end Telemetry
