import Telemetry.Proofs.Joining
import Telemetry.Proofs.Results
import Telemetry.Proofs.Store.Lookup

/-!
# States that changes of regular documents lead to

A store with tables reads a document again from its text, which may alter the last bits of its
floats and fails if the document is nested too deeply. Here it is given such documents too.

* `DocumentStore.Orderly`: the store holds regular documents, each under its own id.
* `Orderly.mem_select_all_iff`: what is listed is what is found under an id.
* `Attained`: what changes make of an empty store; `Attained.orderly` says that it is orderly.
* `Operation.find_ok_iff`: the document that is found is the one that is selected.
-/

namespace Telemetry

instance (d : Document) : Decidable d.Regular :=
  inferInstanceAs (Decidable ((Json.object d).regular = true))

/-! ## Orderly stores -/

namespace DocumentStore

variable {s : DocumentStore} {c : String} {d : Document} {ds : List Document} {x : ObjectId}

/-- The store holds regular documents, each under its own id. -/
def Orderly (s : DocumentStore) : Prop :=
  ∃ m : MemoryStore, s.Holds m ∧ m.WellKept ∧ ∀ c, ∀ e ∈ m.documents c, e.2.Regular

theorem orderly_memory : (memory []).Orderly :=
  ⟨[], rfl, MemoryStore.wellKept_nil, fun _ _ h => nomatch h⟩

theorem orderly_keyed : (keyed []).Orderly :=
  ⟨[], Represents.nil, MemoryStore.wellKept_nil, fun _ _ h => nomatch h⟩

/-- A store stays orderly if only regular documents are written. -/
theorem Orderly.perform (h : s.Orderly) {r : StoreRequest}
    (hr : ∀ c d, r.written? = some (c, d) → d.Regular) (fresh : ObjectId) :
    (s.perform fresh r).2.Orderly := by
  obtain ⟨m, hm, hw, hregular⟩ := h
  obtain hafter | ⟨c, d, x, hd, hafter⟩ := hm.perform hw fresh r
  · exact ⟨m, hafter, hw, hregular⟩
  · refine ⟨m.put c d x, hafter, hw.put c d x, fun c' e he => ?_⟩
    obtain ⟨-, rfl⟩ | he := MemoryStore.mem_documents_put he
    · exact (hr c d hd).withId _
    · exact hregular c' e he

theorem Orderly.through (h : s.Orderly) {rs : Requests}
    (hrs : ∀ r ∈ rs, ∀ c d, r.2.written? = some (c, d) → d.Regular) : (s.through rs).Orderly := by
  induction rs generalizing s with
  | nil => exact h
  | cons r rs ih =>
    obtain ⟨hr, hrs⟩ := List.forall_mem_cons.mp hrs
    exact ih (h.perform hr r.1) hrs

/-- A document that the filter for an id selects has this id. -/
theorem id_of_select_byId (h : s.select (.byId x) c = .ok ds) :
    ∀ d ∈ ds, d.get? idKey = some (.text x.toHex) := by
  have hanswer : (s.perform x (.select (.byId x) c)).1 = .ok ds := by rw [s.perform_select, h]
  exact fun d hd => Filter.id_of_accepts (accepts_of_mem_select hanswer d hd)

/-- The filter for an id selects at most one document. -/
theorem Orderly.select_byId_cases (h : s.Orderly) (c : String) (x : ObjectId) :
    (∃ e, s.select (.byId x) c = .error e) ∨ s.select (.byId x) c = .ok [] ∨
      ∃ d, s.select (.byId x) c = .ok [d] := by
  obtain ⟨m, hm, hw, hregular⟩ := h
  rw [hm.select_byId hw (hregular c)]
  cases (m.documents c).get? x.toHex with
  | none => exact .inr (.inl rfl)
  | some d =>
    rw [Option.toList_some, List.mapM_cons, List.mapM_nil]
    cases hd : s.read d with
    | error e => exact .inl ⟨e, rfl⟩
    | ok d' => exact .inr (.inr ⟨d', rfl⟩)

/-- The documents that the empty filter selects are those that the filters for ids select. -/
theorem Orderly.mem_select_all_iff (h : s.Orderly) (hds : s.select .all c = .ok ds) :
    d ∈ ds ↔ ∃ x, s.select (.byId x) c = .ok [d] := by
  obtain ⟨m, hm, hw, hregular⟩ := h
  rw [hm.select_all] at hds
  have hone : ∀ x : ObjectId, s.select (.byId x) c = .ok [d] ↔
      ∃ d₀, (m.documents c).get? x.toHex = some d₀ ∧ s.read d₀ = .ok d := by
    intro x
    rw [hm.select_byId hw (hregular c), mapM_eq_ok_iff]
    cases (m.documents c).get? x.toHex <;> simp
  rw [mem_mapM_iff hds]
  simp only [hone]
  constructor
  · rintro ⟨d₀, hd₀, hread⟩
    obtain ⟨e, he, rfl⟩ := List.mem_map.mp hd₀
    obtain ⟨x, hx⟩ := hw.named c e he
    exact ⟨x, e.2, hx ▸ (hw.sorted c).get?_of_mem he, hread⟩
  · rintro ⟨x, d₀, hd₀, hread⟩
    exact ⟨d₀, List.mem_map.mpr ⟨_, Entries.mem_of_get? hd₀, rfl⟩, hread⟩

end DocumentStore

/-! ## Attained states -/

section

variable {σ : Type} {b : Backends σ} {s : DocumentStore × σ}

/-- What changes make of an empty store. What is not the store may change at any time. -/
inductive Attained (b : Backends σ) : DocumentStore × σ → Prop
  | memory (t : σ) : Attained b (.memory [], t)
  | keyed (t : σ) : Attained b (.keyed [], t)
  | change {s : DocumentStore × σ} (x : Change) : Attained b s → x.document.Regular →
    Attained b (Operation.after b.answer x.operation s)
  | elsewhere {s : DocumentStore × σ} (t : σ) : Attained b s → Attained b (s.1, t)

/-- Every store that is attained is orderly. -/
theorem Attained.orderly (h : Attained b s) : s.1.Orderly := by
  induction h with
  | memory t => exact DocumentStore.orderly_memory
  | keyed t => exact DocumentStore.orderly_keyed
  | @change s x _ hd ih =>
    have hstep : ∀ (q : OperationStep) (s : DocumentStore × σ),
        q.WritesOnly x.collection x.document → s.1.Orderly → (b.answer q s).2.1.Orderly := by
      intro q s hq hs
      cases q with
      | store r =>
        refine hs.perform (fun c d hw => ?_) _
        obtain ⟨-, rfl, -⟩ := hq r rfl c d hw
        exact hd
      | series q => exact hs
      | sync q => exact hs
    have hrun := x.asksOnly_writes.run_keeps (R := fun s' s => s.1.Orderly → s'.1.Orderly)
      (fun _ h => h) (fun h h' h'' => h (h' h'')) hstep s
    exact hrun ih
  | elsewhere t _ ih => exact ih

theorem attained_furnishedWith {sensor experiment : Document} (hs : sensor.Regular)
    (he : experiment.Regular) :
    Attained Dashboard.quiet (Experiments.furnishedWith sensor experiment) :=
  .change (.insertExperiment "qiot" none experiment)
    (.change (.insertSensor sensor) (.memory ()) hs) he

namespace Operation

/-- What is found under a text is what the filter for its id selects. -/
theorem find_ok_iff (h : s.1.Orderly) {id c what : String} {d : Document} :
    result b.answer (find id c what) s = .ok d ↔
      ∃ x, ObjectId.parse id = .ok x ∧ s.1.select (.byId x) c = .ok [d] := by
  constructor
  · intro hd
    obtain ⟨x, hx, -⟩ := find_ok hd
    refine ⟨x, hx, ?_⟩
    rw [result_find hx] at hd
    obtain ⟨e, he⟩ | hnone | ⟨d', hd'⟩ := h.select_byId_cases c x
    · rw [he] at hd
      cases hd
    · rw [hnone] at hd
      cases hd
    · rw [hd'] at hd
      rw [hd', Except.ok.inj hd]
  · rintro ⟨x, hx, hselect⟩
    rw [result_find hx, hselect]

end Operation

end

end Telemetry
