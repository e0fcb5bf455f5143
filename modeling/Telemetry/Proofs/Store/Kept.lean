import Telemetry.Proofs.Entries
import Telemetry.Proofs.Operation

/-!
# What a store in memory keeps

* `StoreRequest.written?`: the document that a request would write.
* `MemoryStore.WellKept`: every document is kept under the text of its own id, in the order of the
  ids.
* `MemoryStore.perform_snd`: all that a request can do to the documents; `WellKept.perform` and
  `WellKept.forall_perform` are what therefore goes on to hold of them.
* `MemoryStore.WellKept.select_of_pinned`: a filter that pins an id selects what is kept under it.
-/

namespace Telemetry

variable {f : Filter} {c : String} {d : Document} {fresh : ObjectId}

/-! ## Ids -/

/-- A document that a filter with a pinned id accepts has this id. -/
theorem Filter.id_of_pinned {id : String} (hp : f.pinned = some id) (ha : f.accepts d = true) :
    d.get? idKey = some (.text id) := by
  obtain ⟨⟨key, v⟩, hfind, hv⟩ := Option.bind_eq_some_iff.mp hp
  have hkey : key = idKey := by simpa using List.find?_some hfind
  obtain rfl : v = .text id := by
    cases v <;> simp_all [Json.text?]
  have hholds : holds d (key, .text id) = true :=
    List.all_eq_true.mp ha _ (List.mem_of_find?_eq_some hfind)
  unfold holds at hholds
  rw [hkey] at hholds
  split at hholds
  · next w hw => rw [hw, Json.eq_text_of_same hholds]
  · cases hholds

namespace Document

@[simp] theorem get?_withId (d : Document) (id : String) :
    (d.withId id).get? idKey = some (.text id) := by
  simp [withId, Entries.get?_insert]

/-- A document is stored as it came, with its id in lowercase digits. -/
theorem identified_ok {id : String} {d' : Document} (h : d.identified fresh = .ok (id, d')) :
    ∃ x : ObjectId, id = x.toHex ∧ d' = d.withId id := by
  unfold identified at h
  cases hs : d.suppliedId with
  | error e => simp [hs, bind, Except.bind] at h
  | ok x? =>
    simp only [hs, bind, Except.bind, pure, Except.pure, Except.ok.injEq, Prod.mk.injEq] at h
    obtain ⟨rfl, rfl⟩ := h
    exact ⟨_, rfl, rfl⟩

end Document

/-- The document that a request would write, and the collection. -/
def StoreRequest.written? : StoreRequest → Option (String × Document)
  | select .. => none
  | insert d c => some (c, d)
  | replace _ d c => some (c, d)

namespace MemoryStore

variable {s : MemoryStore}

/-! ## Documents -/

theorem documents_insert (s : MemoryStore) (c c' : String) (ds : Entries Document) :
    documents (Entries.insert s c ds) c' = if c' = c then ds else s.documents c' := by
  unfold documents
  rw [Entries.get?_insert]
  split <;> rfl

theorem mem_of_mem_documents {e : String × Document} (h : e ∈ s.documents c) :
    e ∈ s.flatMap (·.2) := by
  unfold documents at h
  cases hds : Entries.get? s c with
  | none =>
    rw [hds] at h
    cases h
  | some ds =>
    rw [hds] at h
    exact List.mem_flatMap.mpr ⟨(c, ds), Entries.mem_of_get? hds, h⟩

/-- Every document is kept under the text of its own id, in the order of the ids. -/
structure WellKept (s : MemoryStore) : Prop where
  sorted : ∀ c, (s.documents c).Sorted
  named : ∀ c, ∀ e ∈ s.documents c, ∃ x : ObjectId, e.1 = x.toHex
  labelled : ∀ c, ∀ e ∈ s.documents c, e.2.get? idKey = some (.text e.1)

theorem wellKept_nil : WellKept [] where
  sorted _ := Entries.sorted_nil
  named _ _ h := nomatch h
  labelled _ _ h := nomatch h

/-- The store with a document put in under an id. -/
def put (s : MemoryStore) (c : String) (d : Document) (x : ObjectId) : MemoryStore :=
  Entries.insert s c ((s.documents c).insert x.toHex (d.withId x.toHex))

theorem mem_documents_put {c' : String} {x : ObjectId} {e : String × Document}
    (h : e ∈ (s.put c d x).documents c') :
    (c' = c ∧ e = (x.toHex, d.withId x.toHex)) ∨ e ∈ s.documents c' := by
  rw [put, documents_insert] at h
  split at h
  · next heq =>
    subst heq
    exact (Entries.mem_insert h).imp_left fun he => ⟨rfl, he⟩
  · exact .inr h

theorem WellKept.put (h : s.WellKept) (c : String) (d : Document) (x : ObjectId) :
    (s.put c d x).WellKept where
  sorted c' := by
    rw [MemoryStore.put, documents_insert]
    split
    · exact (h.sorted c).insert _ _
    · exact h.sorted c'
  named c' e he := by
    obtain ⟨-, rfl⟩ | he := mem_documents_put he
    · exact ⟨x, rfl⟩
    · exact h.named c' e he
  labelled c' e he := by
    obtain ⟨-, rfl⟩ | he := mem_documents_put he
    · exact d.get?_withId _
    · exact h.labelled c' e he

/-! ## Requests -/

/-- A request leaves the documents as they were, or puts in the one that it writes. -/
theorem perform_snd (h : s.WellKept) (fresh : ObjectId) (r : StoreRequest) :
    (s.perform fresh r).2 = s ∨
      ∃ c d x, r.written? = some (c, d) ∧ (s.perform fresh r).2 = s.put c d x := by
  cases r with
  | select f c => exact .inl rfl
  | insert d c =>
    simp only [perform, insert]
    cases hd : d.identified fresh with
    | error e => exact .inl rfl
    | ok identified =>
      obtain ⟨id, d'⟩ := identified
      obtain ⟨x, rfl, rfl⟩ := Document.identified_ok hd
      by_cases hid : (s.documents c).contains x.toHex
      · exact .inl (by simp [hid])
      · exact .inr ⟨c, d, x, rfl, by simp [hid, put]⟩
  | replace f d c =>
    simp only [perform, replace]
    cases hfind : (s.documents c).find? fun e => f.accepts e.2 with
    | none => exact .inl rfl
    | some found =>
      obtain ⟨id, existing⟩ := found
      obtain ⟨x, rfl⟩ := h.named c _ (List.mem_of_find?_eq_some hfind)
      by_cases hsame : existing.same (d.withId x.toHex)
      · exact .inl (by simp [hsame])
      · exact .inr ⟨c, d, x, rfl, by simp [hsame, put]⟩

namespace WellKept

theorem perform (h : s.WellKept) (fresh : ObjectId) (r : StoreRequest) :
    (s.perform fresh r).2.WellKept := by
  obtain hs | ⟨c, d, x, -, hs⟩ := perform_snd h fresh r
  · rwa [hs]
  · rw [hs]
    exact h.put c d x

/-- What holds of every document goes on to hold if it holds of the one that is written, whichever
id it gets. -/
theorem forall_perform {P : String → Document → Prop} (h : s.WellKept)
    (hP : ∀ c, ∀ e ∈ s.documents c, P c e.2) {r : StoreRequest}
    (hr : ∀ c d, r.written? = some (c, d) → ∀ x : ObjectId, P c (d.withId x.toHex))
    (fresh : ObjectId) : ∀ c, ∀ e ∈ (s.perform fresh r).2.documents c, P c e.2 := by
  intro c e he
  obtain hs | ⟨c', d, x, hw, hs⟩ := perform_snd h fresh r
  · rw [hs] at he
    exact hP c e he
  · rw [hs] at he
    obtain ⟨rfl, rfl⟩ | he := mem_documents_put he
    · exact hr c d hw x
    · exact hP c e he

/-- Documents that have an id are found under it, and there is at most one. -/
theorem select_of_pinned {id : String} (h : s.WellKept) (hp : f.pinned = some id) :
    s.select f c = ((s.documents c).get? id).toList.filter f.accepts := by
  refine Entries.filter_of_key (h.sorted c) fun e he ha => ?_
  have hid := (h.labelled c e he).symm.trans (Filter.id_of_pinned hp ha)
  exact Json.text.inj (Option.some.inj hid)

end WellKept

end MemoryStore

end Telemetry
