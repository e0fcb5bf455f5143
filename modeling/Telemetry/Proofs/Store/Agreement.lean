import Telemetry.Proofs.Json
import Telemetry.Proofs.Store.Kept

/-!
# Two stores that answer alike

A keyed store represents a store in memory when each of its tables holds the texts of the documents
of the collection. What one request does to both is compared first, and from it what a sequence of
requests does.

* `MemoryStore.Legible`: every document that is held reads back from its text.
* `Represents`, `Represents.perform`: what a request answers and leaves behind.
* `DocumentStore.answers_agree`: every sequence of requests is answered alike by the two stores.
-/

namespace Telemetry

variable {f : Filter} {c : String}

/-! ## Texts in tables -/

/-- Every document that is held reads back from its text. -/
def MemoryStore.Legible (s : MemoryStore) : Prop :=
  ∀ c, ∀ e ∈ s.documents c, KeyedStore.decode (KeyedStore.encode e.2) = .ok e.2

namespace KeyedStore

/-- Every one of these documents reads back from its text. -/
theorem scan_texts {ds : Entries Document} (h : ∀ e ∈ ds, decode (encode e.2) = .ok e.2) :
    scan f (ds.mapValues encode) = .ok ((ds.map (·.2)).filter f.accepts) := by
  induction ds with
  | nil => rfl
  | cons e ds ih =>
    obtain ⟨he, hds⟩ := List.forall_mem_cons.mp h
    simp only [Entries.mapValues_cons, scan, he, ih hds, List.map_cons, List.filter_cons]
    rfl

theorem firstAccepted_texts {ds : Entries Document}
    (h : ∀ e ∈ ds, decode (encode e.2) = .ok e.2) :
    firstAccepted f (ds.mapValues encode) = .ok (ds.find? fun e => f.accepts e.2) := by
  induction ds with
  | nil => rfl
  | cons e ds ih =>
    obtain ⟨he, hds⟩ := List.forall_mem_cons.mp h
    simp only [Entries.mapValues_cons, firstAccepted, he, ih hds, List.find?_cons, bind,
      Except.bind]
    cases f.accepts e.2 <;> rfl

theorem rows_insert (s : KeyedStore) (c c' : String) (rows : Entries String) :
    KeyedStore.rows (Entries.insert s c (.documents rows)) c' =
      if c' = c then .ok rows else s.rows c' := by
  unfold KeyedStore.rows
  rw [Entries.get?_insert]
  by_cases h : c' = c <;> simp [h]

end KeyedStore

/-! ## One request -/

/-- Each table holds the texts of the documents of its collection. -/
def Represents (m : MemoryStore) (k : KeyedStore) : Prop :=
  ∀ c, k.rows c = .ok ((m.documents c).mapValues KeyedStore.encode)

namespace Represents

variable {m : MemoryStore} {k : KeyedStore}

theorem nil : Represents [] [] := fun _ => rfl

theorem insert (h : Represents m k) (c id : String) (d : Document) :
    Represents (Entries.insert m c ((m.documents c).insert id d))
      (Entries.insert k c (.documents
        (((m.documents c).mapValues KeyedStore.encode).insert id (KeyedStore.encode d)))) := by
  intro c'
  rw [KeyedStore.rows_insert, MemoryStore.documents_insert]
  split
  · rw [Entries.mapValues_insert]
  · exact h c'

/-- A table that is written back as it was, or created without a row, is not seen. -/
theorem rewrite (h : Represents m k) (c : String) :
    Represents m (Entries.insert k c
      (.documents ((m.documents c).mapValues KeyedStore.encode))) := by
  intro c'
  rw [KeyedStore.rows_insert]
  split
  · next heq => rw [heq]
  · exact h c'

/-- The answer by way of an id is the answer of the whole scan. -/
theorem select (h : Represents m k) (hw : m.WellKept) (hl : m.Legible) (f : Filter) (c : String) :
    k.select f c = .ok (m.select f c) := by
  unfold KeyedStore.select
  simp only [h c, bind, Except.bind]
  cases hp : f.pinned with
  | none => exact KeyedStore.scan_texts (hl c)
  | some id =>
    rw [hw.select_of_pinned hp]
    simp only [Entries.get?_mapValues]
    cases hd : (m.documents c).get? id with
    | none => rfl
    | some d =>
      simp only [Option.map_some, hl c _ (Entries.mem_of_get? hd), pure, Except.pure]
      cases ha : f.accepts d <;> simp [ha]

theorem insert_agree (h : Represents m k) (fresh : ObjectId) (d : Document) (c : String) :
    (k.insert fresh d c).1 = (m.insert fresh d c).1 ∧
      Represents (m.insert fresh d c).2 (k.insert fresh d c).2 := by
  unfold KeyedStore.insert MemoryStore.insert
  cases hd : d.identified fresh with
  | error e => exact ⟨rfl, h⟩
  | ok named =>
    obtain ⟨id, d'⟩ := named
    simp only [h c, bind, Except.bind, Entries.contains_mapValues]
    by_cases hid : (m.documents c).contains id
    · simp only [hid, if_true]
      exact ⟨rfl, h⟩
    · simp only [hid]
      exact ⟨rfl, h.insert c id d'⟩

theorem replace_agree (h : Represents m k) (hl : m.Legible) (f : Filter) (d : Document)
    (c : String) : (k.replace f d c).1 = .ok (m.replace f d c).1 ∧
      Represents (m.replace f d c).2 (k.replace f d c).2 := by
  unfold KeyedStore.replace MemoryStore.replace
  simp only [h c, bind, Except.bind, KeyedStore.firstAccepted_texts (hl c)]
  cases hfind : (m.documents c).find? fun e => f.accepts e.2 with
  | none => exact ⟨rfl, h.rewrite c⟩
  | some found =>
    obtain ⟨id, existing⟩ := found
    by_cases hsame : existing.same (d.withId id)
    · simp only [hsame, if_true]
      exact ⟨rfl, h⟩
    · simp only [hsame]
      exact ⟨rfl, h.insert c id (d.withId id)⟩

/-- A request is answered alike, and the stores after it hold the same documents. -/
theorem perform (h : Represents m k) (hw : m.WellKept) (hl : m.Legible) (fresh : ObjectId)
    (r : StoreRequest) : (k.perform fresh r).1 = (m.perform fresh r).1 ∧
      Represents (m.perform fresh r).2 (k.perform fresh r).2 := by
  cases r with
  | select f c => exact ⟨h.select hw hl f c, h⟩
  | insert d c => exact h.insert_agree fresh d c
  | replace f d c => exact h.replace_agree hl f d c

end Represents

/-! ## Sequences of requests -/

/-- Requests in their order, each with the id that a new document would get. -/
abbrev Requests := List (ObjectId × StoreRequest)

/-- The stores in memory before, between and after requests. -/
def MemoryStore.stages (m : MemoryStore) : Requests → List MemoryStore
  | [] => [m]
  | (fresh, r) :: rs => m :: (m.perform fresh r).2.stages rs

namespace DocumentStore

/-- What requests are answered with, one after another. -/
def answers : DocumentStore → Requests → List ((r : StoreRequest) × r.Answer)
  | _, [] => []
  | s, (fresh, r) :: rs => ⟨r, (s.perform fresh r).1⟩ :: answers (s.perform fresh r).2 rs

theorem answers_eq {m : MemoryStore} {k : KeyedStore} {rs : Requests} (h : Represents m k)
    (hw : m.WellKept) (hl : ∀ m' ∈ m.stages rs, m'.Legible) :
    (memory m).answers rs = (keyed k).answers rs := by
  induction rs generalizing m k with
  | nil => rfl
  | cons r rs ih =>
    obtain ⟨fresh, r⟩ := r
    obtain ⟨hnow, hl⟩ := List.forall_mem_cons.mp hl
    obtain ⟨hanswer, hafter⟩ := h.perform hw hnow fresh r
    have hrest := ih hafter (hw.perform fresh r) hl
    simp only [answers, perform, hanswer, hrest]

/-- From empty stores, every sequence of requests is answered alike by the store in memory and the
store with tables, whatever the documents and the filters are, provided that the documents which
come to be held read back from their texts. -/
theorem answers_agree (rs : Requests)
    (legible : ∀ m ∈ MemoryStore.stages [] rs, m.Legible) :
    (memory []).answers rs = (keyed []).answers rs :=
  answers_eq .nil MemoryStore.wellKept_nil legible

/-- Requests before and after the first document of a collection, with documents that bring an id in
other digits, an id that is taken or no id, and with filters that ask for an id twice or for one
that is no text. -/
def assorted : Requests :=
  let first : ObjectId := ⟨List.replicate 12 1, rfl⟩
  let other : ObjectId := ⟨List.replicate 12 170, rfl⟩
  let upper : Json := .text "AAAAAAAAAAAAAAAAAAAAAAAA"
  [.select .all "probes", .replace .all [] "probes", .insert [("name", .text "a")] "probes",
    .insert [("_id", upper), ("name", .text "b")] "probes", .insert [("_id", upper)] "probes",
    .insert [("_id", .int 7)] "probes", .insert [("_id", .text "seven")] "probes",
    .select ⟨[("_id", .text other.toHex), ("_id", .text first.toHex)]⟩ "probes",
    .select ⟨[("_id", .int 7), ("_id", .text first.toHex)]⟩ "probes",
    .select ⟨[("name", .text "b"), ("_id", .text other.toHex)]⟩ "probes",
    .replace ⟨[("name", .text "b")]⟩ [("_id", .int 7), ("size", .list [.int 1, .null])] "probes",
    .select .all "probes"].map (first, ·)

theorem legible_assorted : ∀ m ∈ MemoryStore.stages [] assorted, m.Legible := by
  have hrows : ∀ m ∈ MemoryStore.stages [] assorted, ∀ e ∈ m.flatMap (·.2),
      KeyedStore.decode (KeyedStore.encode e.2) = .ok e.2 := by decide +kernel
  exact fun m hm c e he => hrows m hm e (MemoryStore.mem_of_mem_documents he)

theorem answers_agree_assorted : (∀ m ∈ MemoryStore.stages [] assorted, m.Legible) ∧
    (memory []).answers assorted = (keyed []).answers assorted :=
  ⟨legible_assorted, answers_agree assorted legible_assorted⟩

end DocumentStore

end Telemetry
