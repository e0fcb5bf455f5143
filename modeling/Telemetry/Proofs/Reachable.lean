import Telemetry.Proofs.Renaming
import Telemetry.Proofs.Store.Agreement

/-!
# States that changes lead to

* `Reachable`: what changes of sensors and experiments make of an empty store.
* `DocumentStore.Sound`: the store holds the same documents as some store in memory that is well
  kept, and they are all admitted; `Reachable.sound` says that every reachable store is sound.
* `DocumentStore.Stored`: a document is held under the id that a text writes, and
  `Operation.find_of_stored` finds it.
* `Operation.result_find`: what is found under a text is what the filter for its id selects.
-/

namespace Telemetry

namespace DocumentStore

variable {s : DocumentStore} {m : MemoryStore} {c : String} {d : Document}

/-- The documents that a filter accepts. -/
def select (f : Filter) (c : String) : DocumentStore → Except StoreError (List Document)
  | memory s => .ok (s.select f c)
  | keyed s => s.select f c

theorem perform_select (s : DocumentStore) (fresh : ObjectId) (f : Filter) (c : String) :
    s.perform fresh (.select f c) = (s.select f c, s) := by
  cases s <;> rfl

/-- A document is held in a collection, and its id is the one that a text writes. -/
structure Stored (s : DocumentStore) (c id : String) (d : Document) : Prop where
  held : ∃ ds, s.select .all c = .ok ds ∧ d ∈ ds
  named : ∃ x, ObjectId.parse id = .ok x ∧ d.get? idKey = some (.text x.toHex)

/-! ## One store in terms of the other -/

/-- The store does not alter a document: in tables, it reads back from its text, whichever id it
gets. -/
def Preserves (d : Document) : DocumentStore → Prop
  | memory _ => True
  | keyed _ => ∀ x : ObjectId,
    KeyedStore.decode (KeyedStore.encode (d.withId x.toHex)) = .ok (d.withId x.toHex)

theorem preserves_perform {d : Document} {fresh : ObjectId} {r : StoreRequest} :
    (s.perform fresh r).2.Preserves d ↔ s.Preserves d := by
  cases s <;> rfl

/-- The store holds the documents of a store in memory. -/
def Mirrors (m : MemoryStore) : DocumentStore → Prop
  | memory s => s = m
  | keyed s => Represents m s ∧ m.Legible

theorem Mirrors.select_eq (h : s.Mirrors m) (hw : m.WellKept) (f : Filter) (c : String) :
    s.select f c = .ok (m.select f c) := by
  cases s with
  | memory s =>
    obtain rfl : s = m := h
    rfl
  | keyed s => exact h.1.select hw h.2 f c

theorem Mirrors.perform (h : s.Mirrors m) (hw : m.WellKept) {r : StoreRequest}
    (hr : ∀ c d, r.written? = some (c, d) → s.Preserves d) (fresh : ObjectId) :
    (s.perform fresh r).2.Mirrors (m.perform fresh r).2 := by
  cases s with
  | memory s =>
    obtain rfl : s = m := h
    rfl
  | keyed s =>
    exact ⟨(h.1.perform hw h.2 fresh r).2, hw.forall_perform (P := fun _ d =>
      KeyedStore.decode (KeyedStore.encode d) = .ok d) h.2 (fun c d hd => hr c d hd) fresh⟩

/-! ## Sound stores -/

/-- The store holds the documents of a well-kept store in memory, all of them admitted. -/
def Sound (s : DocumentStore) : Prop :=
  ∃ m : MemoryStore, s.Mirrors m ∧ m.WellKept ∧ ∀ c, ∀ e ∈ m.documents c, Admitted c e.2

theorem sound_memory : (memory []).Sound :=
  ⟨[], rfl, MemoryStore.wellKept_nil, fun _ _ h => nomatch h⟩

theorem sound_keyed : (keyed []).Sound :=
  ⟨[], ⟨.nil, fun _ _ h => nomatch h⟩, MemoryStore.wellKept_nil, fun _ _ h => nomatch h⟩

/-- A store stays sound if only admitted documents are written, and none is altered. -/
theorem Sound.perform (h : s.Sound) {r : StoreRequest}
    (hr : ∀ c d, r.written? = some (c, d) → Admitted c d ∧ s.Preserves d) (fresh : ObjectId) :
    (s.perform fresh r).2.Sound := by
  obtain ⟨m, hm, hw, hadmitted⟩ := h
  refine ⟨(m.perform fresh r).2, hm.perform hw (fun c d hd => (hr c d hd).2) fresh,
    hw.perform fresh r, ?_⟩
  exact hw.forall_perform hadmitted (fun c d hd x => (hr c d hd).1.withId _) fresh

/-- A stored document is admitted. -/
theorem Sound.admitted (h : s.Sound) {id : String} (hd : s.Stored c id d) : Admitted c d := by
  obtain ⟨m, hm, hw, hadmitted⟩ := h
  obtain ⟨ds, hds, hmem⟩ := hd.held
  obtain rfl : m.select .all c = ds := Except.ok.inj ((hm.select_eq hw .all c).symm.trans hds)
  obtain ⟨e, he, rfl⟩ := List.mem_map.mp (List.mem_filter.mp hmem).1
  exact hadmitted c e he

/-- A stored document is the only one that the filter for its id accepts. -/
theorem Sound.select_byId (h : s.Sound) {id : String} (hd : s.Stored c id d) :
    ∃ x, ObjectId.parse id = .ok x ∧ s.select (.byId x) c = .ok [d] := by
  obtain ⟨m, hm, hw, -⟩ := h
  obtain ⟨ds, hds, hmem⟩ := hd.held
  obtain ⟨x, hx, hid⟩ := hd.named
  refine ⟨x, hx, ?_⟩
  obtain rfl : m.select .all c = ds := Except.ok.inj ((hm.select_eq hw .all c).symm.trans hds)
  obtain ⟨⟨key, d⟩, he, rfl⟩ := List.mem_map.mp (List.mem_filter.mp hmem).1
  have hkey : key = x.toHex :=
    Json.text.inj (Option.some.inj ((hw.labelled c _ he).symm.trans hid))
  have hpinned : (Filter.byId x).pinned = some x.toHex := rfl
  rw [hm.select_eq hw, hw.select_of_pinned hpinned, (hw.sorted c).get?_of_mem (hkey ▸ he)]
  simp [Filter.accepts_byId hid]

/-- Under one id one document is stored. -/
theorem Sound.stored_unique (h : s.Sound) {id : String} {d' : Document} (hd : s.Stored c id d)
    (hd' : s.Stored c id d') : d = d' := by
  obtain ⟨x, hx, hselect⟩ := h.select_byId hd
  obtain ⟨x', hx', hselect'⟩ := h.select_byId hd'
  obtain rfl : x = x' := Except.ok.inj (hx.symm.trans hx')
  exact List.head_eq_of_cons_eq (Except.ok.inj (hselect.symm.trans hselect'))

end DocumentStore

/-! ## Reachable states -/

section

variable {σ α : Type}

/-- What changes make of an empty store. A store with tables is given documents that it does not
alter. -/
inductive Reachable (b : Backends σ) : DocumentStore × σ → Prop
  | memory (t : σ) : Reachable b (.memory [], t)
  | keyed (t : σ) : Reachable b (.keyed [], t)
  | change {s : DocumentStore × σ} (x : Change) : Reachable b s → s.1.Preserves x.document →
    Reachable b (Operation.after b.answer x.operation s)

variable {b : Backends σ} {s : DocumentStore × σ}

/-- A step that writes one document of a collection at most, and only if it is admitted. -/
def OperationStep.WritesOnly (c : String) (d : Document) (q : OperationStep) : Prop :=
  ∀ r, q = .store r → ∀ c' d', r.written? = some (c', d') → c' = c ∧ d' = d ∧ Admitted c d

/-- A step that writes no document. -/
def OperationStep.WritesNothing (q : OperationStep) : Prop :=
  ∀ r, q = .store r → r.written? = none

theorem Change.asksOnly_writes (x : Change) :
    x.operation.run.AsksOnly (OperationStep.WritesOnly x.collection x.document) := by
  refine x.asksOnly ?_ ?_ ?_
  · rintro f c r ⟨⟩ c' d' hw
    cases hw
  · rintro step r ⟨⟩
  · rintro r hr hadmitted r' ⟨⟩ c' d' hw
    obtain ⟨rfl, rfl⟩ := Prod.mk.inj (Option.some.inj (hw.symm.trans hr))
    exact ⟨rfl, rfl, hadmitted⟩

theorem DocumentStore.preserves_answer {d : Document} (q : OperationStep)
    (s : DocumentStore × σ) : (b.answer q s).2.1.Preserves d ↔ s.1.Preserves d := by
  cases q with
  | store r => exact preserves_perform
  | series q => exact .rfl
  | sync q => exact .rfl

/-- A store stays sound if a step writes at most one document, which is not altered. -/
theorem DocumentStore.Sound.answer {c : String} {d : Document} {q : OperationStep}
    (h : s.1.Sound) (hd : s.1.Preserves d) (hq : q.WritesOnly c d) :
    (b.answer q s).2.1.Sound := by
  cases q with
  | store r =>
    refine h.perform (fun c' d' hw => ?_) _
    obtain ⟨rfl, rfl, hadmitted⟩ := hq r rfl c' d' hw
    exact ⟨hadmitted, hd⟩
  | series q => exact h
  | sync q => exact h

/-- Every reachable store is sound. -/
theorem Reachable.sound (h : Reachable b s) : s.1.Sound := by
  induction h with
  | memory t => exact DocumentStore.sound_memory
  | keyed t => exact DocumentStore.sound_keyed
  | @change s x _ hd ih =>
    let Kept (s : DocumentStore × σ) : Prop := s.1.Sound ∧ s.1.Preserves x.document
    have hstep : ∀ q s, q.WritesOnly x.collection x.document → Kept s → Kept (b.answer q s).2 :=
      fun q s hq h => ⟨h.1.answer h.2 hq, (DocumentStore.preserves_answer q s).mpr h.2⟩
    have hrun := x.asksOnly_writes.run_keeps (R := fun s' s => Kept s → Kept s')
      (fun _ h => h) (fun h h' h'' => h (h' h'')) hstep s
    exact (hrun ⟨ih, hd⟩).1

namespace Operation

theorem preserves_after {d : Document} (x : Operation α) (s : DocumentStore × σ) :
    (after b.answer x s).1.Preserves d ↔ s.1.Preserves d := by
  show (Dialogue.run b.answer x.run s).2.1.Preserves d ↔ s.1.Preserves d
  generalize x.run = dialogue
  induction dialogue generalizing s with
  | done r => exact .rfl
  | ask q next ih => exact (ih _ _).trans (DocumentStore.preserves_answer q s)

/-- An operation that writes nothing leaves the documents as they were. -/
theorem after_fst {x : Operation α} (hx : x.run.AsksOnly OperationStep.WritesNothing)
    (s : DocumentStore × σ) : (after b.answer x s).1 = s.1 := by
  refine hx.run_keeps (R := fun s' s => s'.1 = s.1) (fun _ => rfl) Eq.trans (fun q s hq => ?_) s
  cases q with
  | store r =>
    cases r with
    | select f c => exact congrArg Prod.snd (s.1.perform_select _ f c)
    | insert d c => cases hq _ rfl
    | replace f d c => cases hq _ rfl
  | series q => rfl
  | sync q => rfl

theorem writesNothing_select (f : Filter) (c : String) :
    OperationStep.WritesNothing (.store (.select f c)) := by
  rintro r ⟨⟩
  rfl

theorem writesNothing_sync (step : SyncStep) : OperationStep.WritesNothing (.sync step) := by
  rintro r ⟨⟩

theorem result_select (f : Filter) (c : String) (s : DocumentStore × σ) :
    result b.answer (select f c) s = (s.1.select f c).mapError StoreError.toError := by
  show Except.mapError _ (s.1.perform (b.fresh s.2) (.select f c)).1 = _
  rw [s.1.perform_select]

theorem result_select_eq_ok_iff {f : Filter} {c : String} {ds : List Document} :
    result b.answer (select f c) s = .ok ds ↔ s.1.select f c = .ok ds := by
  rw [result_select]
  cases s.1.select f c <;> simp [Except.mapError]

/-- The first document that the filter for an id selects is found under the texts of the id. -/
theorem result_find {id c what : String} {x : ObjectId} (hx : ObjectId.parse id = .ok x)
    (s : DocumentStore × σ) : result b.answer (find id c what) s =
      match s.1.select (.byId x) c with
      | .ok (d :: _) => .ok d
      | .ok [] => .error (.notFound (what ++ " " ++ id))
      | .error e => .error e.toError := by
  have hparse : result b.answer (ofExcept (ObjectId.parseId id)) s = .ok x :=
    ObjectId.parseId_eq_ok_iff.mpr hx
  have hselect : result b.answer (select (.byId x) c) s =
      (s.1.select (.byId x) c).mapError StoreError.toError := result_select _ c s
  rw [find, result_bind_of_ok hparse]
  cases hs : s.1.select (.byId x) c with
  | error e =>
    rw [hs] at hselect
    exact result_bind_of_error hselect _
  | ok ds =>
    rw [hs] at hselect
    refine (result_bind_of_ok hselect _).trans ?_
    cases ds <;> rfl

/-- A stored document is found under every text that writes its id. -/
theorem find_of_stored (h : s.1.Sound) {c id : String} {d : Document} (hd : s.1.Stored c id d)
    (what : String) : result b.answer (find id c what) s = .ok d := by
  obtain ⟨x, hx, hone⟩ := h.select_byId hd
  rw [result_find hx, hone]

end Operation

end

end Telemetry
