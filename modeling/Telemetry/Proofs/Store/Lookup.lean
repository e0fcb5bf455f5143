import Mathlib.Data.List.Induction
import Telemetry.Proofs.Json.Text
import Telemetry.Proofs.ObjectId
import Telemetry.Proofs.Reachable

/-!
# Documents under their ids

* `DocumentStore.Holds`: the documents that a store holds, as such or as texts in tables.
* `KeyedStore.decode_encode`: what is read back from the text of a document.
* `Holds.perform`: what one request does to the documents that are held.
* `Holds.select_all`, `Holds.select_byId`: the documents that a selection reads.
* `DocumentStore.Files`: the documents of a collection are filed under their own ids, in ascending
  order of the ids.
* `DocumentStore.Finds`: they are found by their ids.
* `DocumentStore.Grows`: what one request adds to the ids.
* `DocumentStore.kept_under_ids`: all this holds after every sequence of requests.
-/

namespace Telemetry

namespace Json

theorem regularMembers_iff {ms : Entries Json} :
    regularMembers ms = true ↔ ∀ e ∈ ms, e.2.regular = true := by
  induction ms with
  | nil => simp [regularMembers]
  | cons m ms ih =>
    obtain ⟨k, v⟩ := m
    simp [regularMembers, ih]

theorem nestingMembers_le_iff {ms : Entries Json} {n : Nat} :
    nestingMembers ms ≤ n ↔ ∀ e ∈ ms, e.2.nesting ≤ n := by
  induction ms with
  | nil => simp [nestingMembers]
  | cons m ms ih =>
    obtain ⟨k, v⟩ := m
    simp [nestingMembers, ih]

end Json

namespace Document

variable {d : Document} {id : String}

/-- A document as a value that a program can hold. -/
def Regular (d : Document) : Prop := (Json.object d).regular = true

/-- How many lists and objects stand inside each other, the document included. -/
def nesting (d : Document) : Nat := (Json.object d).nesting

/-- The document that is read back from the text of a regular one: its floats may differ in their
last bits. -/
def reread (d : Document) : Document := Entries.mapValues Json.reread d

theorem regular_iff : d.Regular ↔ Entries.Sorted d ∧ ∀ e ∈ d, e.2.regular = true := by
  simp [Regular, Json.regular, Json.regularMembers_iff]

theorem Regular.withId (h : d.Regular) (id : String) : (d.withId id).Regular := by
  obtain ⟨hsorted, hvalues⟩ := regular_iff.mp h
  refine regular_iff.mpr ⟨hsorted.insert _ _, fun e he => ?_⟩
  obtain rfl | he := Entries.mem_insert he
  · rfl
  · exact hvalues e he

/-- The id is a text, so that it does not nest a document more deeply. -/
theorem nesting_withId_le (d : Document) (id : String) : (d.withId id).nesting ≤ d.nesting := by
  have hmembers : Json.nestingMembers (d.withId id) ≤ Json.nestingMembers d := by
    refine Json.nestingMembers_le_iff.mpr fun e he => ?_
    obtain rfl | he := Entries.mem_insert he
    · exact Nat.zero_le _
    · exact Json.nestingMembers_le_iff.mp le_rfl e he
  exact Nat.succ_le_succ hmembers

theorem get?_reread (h : d.get? idKey = some (.text id)) :
    d.reread.get? idKey = some (.text id) := by
  rw [reread, Entries.get?_mapValues, h]
  rfl

/-- A document is not to be inserted: its id is no text, the text of no id, or, in lower case,
taken. -/
def Refused (d : Document) (ids : List String) (fresh : ObjectId) : Prop :=
  match d.get? idKey with
  | none => fresh.toHex ∈ ids
  | some (.text t) => (∀ x, ObjectId.parse t ≠ .ok x) ∨ t.toLower ∈ ids
  | some _ => True

/-- A document is refused unless it is identified by an id that is not taken. -/
theorem refused_iff {ids : List String} {fresh : ObjectId} :
    d.Refused ids fresh ↔ ∀ id d', d.identified fresh = .ok (id, d') → id ∈ ids := by
  unfold Refused identified suppliedId
  cases d.get? idKey with
  | none => simp [bind, Except.bind, pure, Except.pure]
  | some v =>
    cases v with
    | text t =>
      cases ht : ObjectId.parse t with
      | error fault => simp [ht, bind, Except.bind]
      | ok x => simp [ht, bind, Except.bind, pure, Except.pure, ObjectId.parse_eq_ok_iff.mp ht]
    | _ => simp [bind, Except.bind]

end Document

namespace KeyedStore

/-- The error for a text in which more lists and objects stand inside each other than are read. -/
def tooDeep : StoreError := .serialization Json.Fault.nestingTooDeep.message

/-- What is read back from the text of a document. -/
theorem decode_encode {d : Document} (hd : d.Regular) :
    decode (encode d) = if d.nesting ≤ Json.nestingLimit then .ok d.reread else .error tooDeep := by
  unfold decode encode
  rw [Json.readObject_compact hd, Json.rereadMembers_eq]
  unfold Document.nesting
  by_cases hdepth : (Json.object d).nesting ≤ Json.nestingLimit
  · simp only [if_pos hdepth]
    rfl
  · simp only [if_neg hdepth]
    rfl

end KeyedStore

/-! ## What a store holds -/

namespace DocumentStore

variable {s : DocumentStore} {m : MemoryStore} {c : String} {d : Document} {fresh : ObjectId}

/-- The store holds these documents: it consists of them, or its tables hold their texts. -/
def Holds (m : MemoryStore) : DocumentStore → Prop
  | memory s => s = m
  | keyed s => Represents m s

/-- The keys of a collection. -/
def ids (c : String) : DocumentStore → List String
  | memory s => (s.documents c).map (·.1)
  | keyed s => match s.rows c with
    | .ok rows => rows.map (·.1)
    | .error _ => []

/-- A document can be read again: from a table it is, unless it is nested too deeply. -/
def Fits (d : Document) : DocumentStore → Prop
  | memory _ => True
  | keyed _ => d.nesting ≤ Json.nestingLimit

/-- A document as it is given out: from a table with its floats as they are read. -/
def view (d : Document) : DocumentStore → Document
  | memory _ => d
  | keyed _ => d.reread

theorem Holds.ids_eq (h : s.Holds m) (c : String) : s.ids c = (m.documents c).map (·.1) := by
  cases s with
  | memory s =>
    obtain rfl : s = m := h
    rfl
  | keyed s =>
    have hrows : s.rows c = _ := h c
    simp only [ids, hrows, Entries.mapValues, List.map_map]
    rfl

theorem get?_view {id : String} (h : d.get? idKey = some (.text id)) :
    (s.view d).get? idKey = some (.text id) := by
  cases s with
  | memory s => exact h
  | keyed s => exact Document.get?_reread h

end DocumentStore

/-! ## Requests -/

namespace KeyedStore

variable {f : Filter}

/-- What is found to be replaced stands in a row. -/
theorem mem_of_firstAccepted {rows : Entries String} {id : String} {d : Document}
    (h : firstAccepted f rows = .ok (some (id, d))) : ∃ text, (id, text) ∈ rows := by
  induction rows with
  | nil => cases h
  | cons row rows ih =>
    obtain ⟨key, text⟩ := row
    rw [firstAccepted] at h
    cases hd : decode text with
    | error e => simp [hd, bind, Except.bind] at h
    | ok d' =>
      simp only [hd, bind, Except.bind] at h
      split at h
      · obtain ⟨rfl, -⟩ : key = id ∧ d' = d := by simpa [pure, Except.pure] using h
        exact ⟨text, .head _⟩
      · obtain ⟨text', hmem⟩ := ih h
        exact ⟨text', .tail _ hmem⟩

end KeyedStore

namespace MemoryStore

variable {m : MemoryStore} {c : String} {d : Document} {x fresh : ObjectId}

theorem mem_keys_put {c' k : String} :
    k ∈ ((m.put c d x).documents c').map (·.1) ↔
      k ∈ (m.documents c').map (·.1) ∨ c' = c ∧ k = x.toHex := by
  rw [put, documents_insert]
  by_cases hc : c' = c
  · subst hc
    rw [if_pos rfl, Entries.mem_keys_insert]
    simp [or_comm]
  · simp [hc]

/-- An insertion is refused, or the document gets a new key. -/
theorem insert_cases (m : MemoryStore) (fresh : ObjectId) (d : Document) (c : String) :
    (∃ e, m.insert fresh d c = (.error e, m)) ∨
      ∃ x : ObjectId, d.identified fresh = .ok (x.toHex, d.withId x.toHex) ∧
        x.toHex ∉ (m.documents c).map (·.1) ∧ m.insert fresh d c = (.ok x.toHex, m.put c d x) := by
  unfold insert
  cases hd : d.identified fresh with
  | error e => exact .inl ⟨e, rfl⟩
  | ok identified =>
    obtain ⟨id, d'⟩ := identified
    obtain ⟨x, rfl, rfl⟩ := Document.identified_ok hd
    by_cases hid : (m.documents c).contains x.toHex
    · exact .inl ⟨.duplicate x.toHex, by simp [hid]⟩
    · refine .inr ⟨x, rfl, fun hmem => hid (Entries.mem_keys_iff.mp hmem), ?_⟩
      simp only [hid]
      rfl

/-- An insertion fails exactly if the document is refused. -/
theorem insert_error_iff (m : MemoryStore) (fresh : ObjectId) (d : Document) (c : String) :
    (∃ e, (m.insert fresh d c).1 = .error e) ↔
      d.Refused ((m.documents c).map (·.1)) fresh := by
  rw [Document.refused_iff]
  unfold insert
  cases d.identified fresh with
  | error e => simp
  | ok identified =>
    obtain ⟨id, d'⟩ := identified
    have hkey := Entries.mem_keys_iff (m := m.documents c) (k := id)
    by_cases hid : (m.documents c).contains id
    · simpa [hid] using hkey.mpr hid
    · simpa [hid] using fun hmem => hid (hkey.mp hmem)

end MemoryStore

namespace DocumentStore

variable {s : DocumentStore} {m : MemoryStore} {c : String} {d : Document} {fresh : ObjectId}

theorem Holds.insert (h : s.Holds m) (fresh : ObjectId) (d : Document) (c : String) :
    (s.perform fresh (.insert d c)).1 = (m.insert fresh d c).1 ∧
      (s.perform fresh (.insert d c)).2.Holds (m.insert fresh d c).2 := by
  cases s with
  | memory s =>
    obtain rfl : s = m := h
    exact ⟨rfl, rfl⟩
  | keyed s => exact Represents.insert_agree h fresh d c

/-- A replacement keeps the documents as they were, or puts the one it writes under a key that is
there. Which one it is in tables is decided by documents as they are read. -/
theorem Holds.replace (h : s.Holds m) (hw : m.WellKept) (f : Filter) (d : Document) (c : String) :
    (s.perform fresh (.replace f d c)).2.Holds m ∨
      ∃ x : ObjectId, x.toHex ∈ (m.documents c).map (·.1) ∧
        (s.perform fresh (.replace f d c)).2.Holds (m.put c d x) := by
  cases s with
  | memory s =>
    obtain rfl : s = m := h
    simp only [DocumentStore.perform, MemoryStore.perform, MemoryStore.replace]
    cases hfind : (s.documents c).find? fun e => f.accepts e.2 with
    | none => exact .inl rfl
    | some found =>
      obtain ⟨id, existing⟩ := found
      have hmem := List.mem_of_find?_eq_some hfind
      obtain ⟨x, rfl⟩ := hw.named c _ hmem
      by_cases hsame : existing.same (d.withId x.toHex)
      · simp only [hsame, if_true]
        exact .inl rfl
      · simp only [hsame]
        exact .inr ⟨x, List.mem_map_of_mem hmem, rfl⟩
  | keyed s =>
    have hrows : s.rows c = .ok ((m.documents c).mapValues KeyedStore.encode) := h c
    simp only [DocumentStore.perform, KeyedStore.perform, KeyedStore.replace, hrows, bind,
      Except.bind]
    cases hfind : KeyedStore.firstAccepted f ((m.documents c).mapValues KeyedStore.encode) with
    | error e => exact .inl h
    | ok found =>
      cases found with
      | none => exact .inl (Represents.rewrite h c)
      | some found =>
        obtain ⟨id, existing⟩ := found
        obtain ⟨text, htext⟩ := KeyedStore.mem_of_firstAccepted hfind
        obtain ⟨e, he, heq⟩ := List.mem_map.mp htext
        obtain ⟨x, hx⟩ := hw.named c e he
        obtain rfl : x.toHex = id := hx.symm.trans (congrArg Prod.fst heq)
        by_cases hsame : existing.same (d.withId x.toHex)
        · simp only [hsame, if_true]
          exact .inl h
        · simp only [hsame]
          exact .inr ⟨x, hx ▸ List.mem_map_of_mem he, Represents.insert h c x.toHex _⟩

/-- All that a request can leave behind: the same documents, or in addition the one it writes. -/
theorem Holds.perform (h : s.Holds m) (hw : m.WellKept) (fresh : ObjectId) (r : StoreRequest) :
    (s.perform fresh r).2.Holds m ∨
      ∃ c d x, r.written? = some (c, d) ∧ (s.perform fresh r).2.Holds (m.put c d x) := by
  cases r with
  | select f c =>
    left
    cases s <;> exact h
  | insert d c =>
    obtain ⟨-, hafter⟩ := h.insert fresh d c
    obtain ⟨e, hm⟩ | ⟨x, -, -, hm⟩ := m.insert_cases fresh d c
    · exact .inl (by rwa [hm] at hafter)
    · exact .inr ⟨c, d, x, rfl, by rwa [hm] at hafter⟩
  | replace f d c =>
    obtain hafter | ⟨x, -, hafter⟩ := h.replace hw f d c
    · exact .inl hafter
    · exact .inr ⟨c, d, x, rfl, hafter⟩

end DocumentStore

/-! ## Selections -/

namespace DocumentStore

variable {s : DocumentStore} {m : MemoryStore} {c : String} {d : Document} {fresh : ObjectId}
  {ds : List Document}

/-- A document as a selection reads it: from a table, from its text. -/
def read (d : Document) : DocumentStore → Except StoreError Document
  | memory _ => .ok d
  | keyed _ => KeyedStore.decode (KeyedStore.encode d)

theorem read_of_fits (hd : d.Regular) (hfit : s.Fits d) : s.read d = .ok (s.view d) := by
  cases s with
  | memory s => rfl
  | keyed s => exact (KeyedStore.decode_encode hd).trans (if_pos hfit)

theorem read_of_not_fits (hd : d.Regular) (hdeep : ¬ s.Fits d) :
    s.read d = .error KeyedStore.tooDeep := by
  cases s with
  | memory s => exact absurd trivial hdeep
  | keyed s => exact (KeyedStore.decode_encode hd).trans (if_neg hdeep)

theorem mapM_read (hds : ∀ d ∈ ds, d.Regular) (hfit : ∀ d ∈ ds, s.Fits d) :
    ds.mapM (read · s) = .ok (ds.map (view · s)) := by
  induction ds with
  | nil => rfl
  | cons d ds ih =>
    obtain ⟨hd, hds⟩ := List.forall_mem_cons.mp hds
    obtain ⟨hfit, hfits⟩ := List.forall_mem_cons.mp hfit
    rw [List.mapM_cons, read_of_fits hd hfit, ih hds hfits]
    rfl

/-- One document that is nested too deeply fails a selection that reads it. -/
theorem mapM_read_tooDeep (hds : ∀ d ∈ ds, d.Regular) (hdeep : ∃ d ∈ ds, ¬ s.Fits d) :
    ds.mapM (read · s) = .error KeyedStore.tooDeep := by
  induction ds with
  | nil =>
    obtain ⟨d, hd, -⟩ := hdeep
    cases hd
  | cons d ds ih =>
    obtain ⟨hd, hds⟩ := List.forall_mem_cons.mp hds
    rw [List.mapM_cons]
    by_cases hfit : s.Fits d
    · obtain ⟨d', hmem, hdeep⟩ := hdeep
      obtain rfl | hmem := List.mem_cons.mp hmem
      · exact absurd hfit hdeep
      · rw [read_of_fits hd hfit, ih hds ⟨d', hmem, hdeep⟩]
        rfl
    · rw [read_of_not_fits hd hfit]
      rfl

/-- The empty filter reads all documents of a collection. -/
theorem Holds.select_all (h : s.Holds m) (c : String) :
    s.select .all c = ((m.documents c).map (·.2)).mapM (read · s) := by
  cases s with
  | memory s =>
    obtain rfl : s = m := h
    have hall : s.select .all c = (s.documents c).map (·.2) :=
      List.filter_eq_self.mpr fun _ _ => rfl
    have hread := List.mapM_pure (m := Except StoreError) (l := (s.documents c).map (·.2)) (f := id)
    rw [List.map_id] at hread
    exact (congrArg Except.ok hall).trans hread.symm
  | keyed s =>
    have hrows : s.rows c = .ok ((m.documents c).mapValues KeyedStore.encode) := h c
    have hscan : ∀ ds : Entries Document, KeyedStore.scan .all (ds.mapValues KeyedStore.encode) =
        (ds.map (·.2)).mapM (read · (keyed s)) := fun ds => by
      induction ds with
      | nil => rfl
      | cons e ds ih =>
        rw [Entries.mapValues_cons, KeyedStore.scan, ih, List.map_cons, List.mapM_cons]
        rfl
    rw [← hscan, select, KeyedStore.select, hrows]
    rfl

/-- The filter for an id reads the document that is filed under it. -/
theorem Holds.select_byId (h : s.Holds m) (hw : m.WellKept)
    (hds : ∀ e ∈ m.documents c, e.2.Regular) (x : ObjectId) :
    s.select (.byId x) c = ((m.documents c).get? x.toHex).toList.mapM (read · s) := by
  have hpinned : (Filter.byId x).pinned = some x.toHex := rfl
  cases s with
  | memory s =>
    obtain rfl : s = m := h
    refine (congrArg Except.ok (hw.select_of_pinned hpinned)).trans ?_
    cases hd : (s.documents c).get? x.toHex with
    | none => rfl
    | some d =>
      have hid := hw.labelled c _ (Entries.mem_of_get? hd)
      rw [Option.toList_some, List.filter_singleton, Filter.accepts_byId hid]
      rfl
  | keyed s =>
    have hrows : s.rows c = .ok ((m.documents c).mapValues KeyedStore.encode) := h c
    simp only [select, KeyedStore.select, hrows, hpinned, bind, Except.bind, Entries.get?_mapValues]
    cases hd : (m.documents c).get? x.toHex with
    | none => rfl
    | some d =>
      have hid := hw.labelled c _ (Entries.mem_of_get? hd)
      have hread := KeyedStore.decode_encode (hds _ (Entries.mem_of_get? hd))
      rw [Option.toList_some, List.mapM_cons, List.mapM_nil]
      by_cases hfit : d.nesting ≤ Json.nestingLimit
      · have haccepts := Filter.accepts_byId (Document.get?_reread hid)
        simp only [Option.map_some, read, hread, if_pos hfit, if_pos haccepts]
        rfl
      · simp only [Option.map_some, read, hread, if_neg hfit]
        rfl

/-! ## What is kept, found and added -/

/-- The documents of a collection are filed under their own ids, which are 24 lowercase hexadecimal
digits, in ascending order of the ids. -/
structure Files (s : DocumentStore) (c : String) (ds : Entries Document) : Prop where
  ids_eq : s.ids c = ds.map (·.1)
  digits : ∀ id ∈ s.ids c, id.length = 24 ∧ ∀ ch ∈ id.toList, ch.isDigit ∨ 'a' ≤ ch ∧ ch ≤ 'f'
  labelled : ∀ e ∈ ds, e.2.get? idKey = some (.text e.1) ∧
    (s.view e.2).get? idKey = some (.text e.1)
  ascending : (s.ids c).Pairwise fun id id' => ∃ x y : ObjectId,
    ObjectId.parse id = .ok x ∧ ObjectId.parse id' = .ok y ∧ x.bytes < y.bytes

/-- What the empty filter and the filters for ids select. One document that is nested too deeply
fails every selection that reads it. -/
structure Finds (s : DocumentStore) (c : String) (ds : Entries Document) : Prop where
  all : (∀ e ∈ ds, s.Fits e.2) → s.select .all c = .ok (ds.map fun e => s.view e.2)
  all_tooDeep : (∃ e ∈ ds, ¬ s.Fits e.2) → s.select .all c = .error KeyedStore.tooDeep
  byId : ∀ t x, ObjectId.parse t = .ok x → ∀ d, ds.get? t.toLower = some d → s.Fits d →
    s.select (.byId x) c = .ok [s.view d]
  byId_tooDeep : ∀ t x, ObjectId.parse t = .ok x → ∀ d, ds.get? t.toLower = some d → ¬ s.Fits d →
    s.select (.byId x) c = .error KeyedStore.tooDeep
  byId_absent : ∀ t x, ObjectId.parse t = .ok x → t.toLower ∉ s.ids c →
    s.select (.byId x) c = .ok []

/-- What a request does to the ids of the collections: an insertion that succeeds adds the id that
it answers with, one that is refused leaves the store as it was, and nothing else changes them. -/
structure Grows (s : DocumentStore) (fresh : ObjectId) : Prop where
  select : ∀ f c, (s.perform fresh (.select f c)).2 = s
  replace : ∀ f d c c', (s.perform fresh (.replace f d c)).2.ids c' = s.ids c'
  inserted : ∀ d c id, (s.perform fresh (.insert d c)).1 = .ok id → id ∉ s.ids c ∧
    ∀ c' k, k ∈ (s.perform fresh (.insert d c)).2.ids c' ↔ k ∈ s.ids c' ∨ c' = c ∧ k = id
  refused : ∀ d c e, (s.perform fresh (.insert d c)).1 = .error e →
    (s.perform fresh (.insert d c)).2 = s
  refused_iff : ∀ d c, (∃ e, (s.perform fresh (.insert d c)).1 = .error e) ↔
    d.Refused (s.ids c) fresh

/-- The store after requests. -/
def through (s : DocumentStore) (rs : Requests) : DocumentStore :=
  rs.foldl (fun s r => (s.perform r.1 r.2).2) s

theorem Holds.files (h : s.Holds m) (hw : m.WellKept) (c : String) :
    s.Files c (m.documents c) where
  ids_eq := h.ids_eq c
  digits id hid := by
    rw [h.ids_eq] at hid
    obtain ⟨e, he, rfl⟩ := List.mem_map.mp hid
    obtain ⟨x, hx⟩ := hw.named c e he
    rw [hx]
    exact x.toHex_digits
  labelled e he := ⟨hw.labelled c e he, get?_view (hw.labelled c e he)⟩
  ascending := by
    rw [h.ids_eq, List.pairwise_map]
    refine (hw.sorted c).imp_of_mem fun {e e'} he he' hlt => ?_
    obtain ⟨x, hx⟩ := hw.named c e he
    obtain ⟨y, hy⟩ := hw.named c e' he'
    rw [hx, hy] at hlt ⊢
    exact ⟨x, y, x.parse_toHex, y.parse_toHex, ObjectId.toHex_lt_toHex.mp hlt⟩

theorem Holds.finds (h : s.Holds m) (hw : m.WellKept) {c : String}
    (hds : ∀ e ∈ m.documents c, e.2.Regular) : s.Finds c (m.documents c) where
  all hfit := by
    rw [h.select_all, mapM_read (List.forall_mem_map.mpr hds) (List.forall_mem_map.mpr hfit),
      List.map_map]
    rfl
  all_tooDeep hdeep := by
    obtain ⟨e, he, hdeep⟩ := hdeep
    rw [h.select_all]
    exact mapM_read_tooDeep (List.forall_mem_map.mpr hds) ⟨e.2, List.mem_map_of_mem he, hdeep⟩
  byId t x hx d hd hfit := by
    rw [ObjectId.parse_eq_ok_iff.mp hx] at hd
    rw [h.select_byId hw hds, hd]
    exact mapM_read (by simpa using hds _ (Entries.mem_of_get? hd)) (by simpa using hfit)
  byId_tooDeep t x hx d hd hdeep := by
    rw [ObjectId.parse_eq_ok_iff.mp hx] at hd
    rw [h.select_byId hw hds, hd]
    exact mapM_read_tooDeep (by simpa using hds _ (Entries.mem_of_get? hd)) (by simpa using hdeep)
  byId_absent t x hx ht := by
    rw [ObjectId.parse_eq_ok_iff.mp hx, h.ids_eq, Entries.mem_keys_iff, Bool.not_eq_true,
      Option.isSome_eq_false_iff, Option.isNone_iff_eq_none] at ht
    rw [h.select_byId hw hds, ht]
    rfl

/-- A refused insertion leaves the store as it was. -/
theorem insert_refused {e : StoreError}
    (he : (s.perform fresh (.insert d c)).1 = .error e) :
    (s.perform fresh (.insert d c)).2 = s := by
  cases s with
  | memory s =>
    have he : (s.insert fresh d c).1 = .error e := he
    obtain ⟨e', hs⟩ | ⟨x, -, -, hs⟩ := s.insert_cases fresh d c
    · exact congrArg (memory ·.2) hs
    · rw [hs] at he
      cases he
  | keyed s =>
    have he : (s.insert fresh d c).1 = .error e := he
    refine congrArg keyed (show (s.insert fresh d c).2 = s from ?_)
    unfold KeyedStore.insert at he ⊢
    simp only at he ⊢
    split at he
    · cases he
    · rfl

theorem Holds.grows (h : s.Holds m) (hw : m.WellKept) (fresh : ObjectId) : s.Grows fresh where
  select f c := by cases s <;> rfl
  replace f d c c' := by
    obtain hafter | ⟨x, hx, hafter⟩ := h.replace hw f d c
    · rw [hafter.ids_eq, h.ids_eq]
    · rw [hafter.ids_eq, h.ids_eq, MemoryStore.put, MemoryStore.documents_insert]
      split
      · next heq =>
        subst heq
        exact (hw.sorted c').keys_insert hx _
      · rfl
  inserted d c id hid := by
    obtain ⟨hanswer, hafter⟩ := h.insert fresh d c
    obtain ⟨e, hm⟩ | ⟨x, -, hnew, hm⟩ := m.insert_cases fresh d c
    · rw [hanswer, hm] at hid
      cases hid
    · rw [hm] at hanswer hafter
      obtain rfl : x.toHex = id := Except.ok.inj (hanswer.symm.trans hid)
      refine ⟨by rwa [h.ids_eq], fun c' k => ?_⟩
      rw [hafter.ids_eq, h.ids_eq, MemoryStore.mem_keys_put]
  refused _ _ _ := insert_refused
  refused_iff d c := by
    rw [(h.insert fresh d c).1, h.ids_eq]
    exact m.insert_error_iff fresh d c

/-! ## Sequences of requests -/

/-- Every document that is held was written by a request, and got the id that it is filed under. -/
def Written (rs : Requests) (m : MemoryStore) : Prop :=
  ∀ c, ∀ e ∈ m.documents c, ∃ r ∈ rs, ∃ d, r.2.written? = some (c, d) ∧ e.2 = d.withId e.1

theorem Written.mono {rs rs' : Requests} (h : Written rs m) (hrs : rs ⊆ rs') : Written rs' m := by
  intro c e he
  obtain ⟨r, hr, hd⟩ := h c e he
  exact ⟨r, hrs hr, hd⟩

theorem Written.put {rs : Requests} (h : Written rs m) {r : ObjectId × StoreRequest} (hr : r ∈ rs)
    (hd : r.2.written? = some (c, d)) (x : ObjectId) : Written rs (m.put c d x) := by
  intro c' e he
  obtain ⟨rfl, rfl⟩ | he := MemoryStore.mem_documents_put he
  · exact ⟨r, hr, d, hd, rfl⟩
  · exact h c' e he

/-- After requests a store holds documents that they wrote, each under its id. -/
theorem holds_through {start : DocumentStore} (hstart : start.Holds []) (rs : Requests) :
    ∃ m : MemoryStore, (start.through rs).Holds m ∧ m.WellKept ∧ Written rs m := by
  induction rs using List.reverseRecOn with
  | nil => exact ⟨[], hstart, MemoryStore.wellKept_nil, fun _ _ h => nomatch h⟩
  | append_singleton rs r ih =>
    obtain ⟨m, hm, hw, hwritten⟩ := ih
    have hmore := hwritten.mono (List.subset_append_left rs [r])
    have hlast : (start.through (rs ++ [r])) = ((start.through rs).perform r.1 r.2).2 := by
      simp [through]
    rw [hlast]
    obtain hafter | ⟨c, d, x, hd, hafter⟩ := hm.perform hw r.1 r.2
    · exact ⟨m, hafter, hw, hmore⟩
    · exact ⟨m.put c d x, hafter, hw.put c d x, hmore.put (by simp) hd x⟩

/-- Which documents fit depends on the kind of the store only. -/
theorem fits_through {start : DocumentStore} (rs : Requests) :
    (start.through rs).Fits d ↔ start.Fits d := by
  induction rs generalizing start with
  | nil => rfl
  | cons r rs ih =>
    have hstep : (start.perform r.1 r.2).2.Fits d ↔ start.Fits d := by cases start <;> rfl
    exact ih.trans hstep

theorem Fits.withId (h : s.Fits d) (id : String) : s.Fits (d.withId id) := by
  cases s with
  | memory s => trivial
  | keyed s => exact (d.nesting_withId_le id).trans h

/-- After every sequence of requests to either store, successful or failing, the documents of each
collection are filed under their own ids and found by them, and the next request adds an id exactly
if it is an insertion that succeeds. A document that is nested too deeply for its text to be read
again fails the selections from tables that read it, so nothing is found amiss as long as none is
written. -/
theorem kept_under_ids {start : DocumentStore} (hstart : start = memory [] ∨ start = keyed [])
    (rs : Requests) (hregular : ∀ r ∈ rs, ∀ c d, r.2.written? = some (c, d) → d.Regular) :
    (∃ m : MemoryStore, (start.through rs).Holds m ∧ Written rs m ∧ ∀ c,
      (start.through rs).Files c (m.documents c) ∧ (start.through rs).Finds c (m.documents c) ∧
        ((∀ r ∈ rs, ∀ d, r.2.written? = some (c, d) → start.Fits d) →
          ∀ e ∈ m.documents c, (start.through rs).Fits e.2)) ∧
      ∀ fresh, (start.through rs).Grows fresh := by
  have hempty : start.Holds [] := by
    obtain rfl | rfl := hstart
    · rfl
    · exact Represents.nil
  obtain ⟨m, hm, hw, hwritten⟩ := holds_through hempty rs
  refine ⟨⟨m, hm, hwritten, fun c => ⟨hm.files hw c, hm.finds hw ?_, ?_⟩⟩, hm.grows hw⟩
  · intro e he
    obtain ⟨r, hr, d, hd, heq⟩ := hwritten c e he
    rw [heq]
    exact (hregular r hr c d hd).withId e.1
  · intro hfits e he
    obtain ⟨r, hr, d, hd, heq⟩ := hwritten c e he
    rw [heq, fits_through]
    exact (hfits r hr d hd).withId e.1

theorem regular_assorted : ∀ r ∈ assorted, ∀ c d, r.2.written? = some (c, d) → d.Regular := by
  have hdocuments : ∀ d ∈ assorted.filterMap (·.2.written?.map (·.2)),
      (Json.object d).regular = true := by decide
  intro r hr c d hd
  exact hdocuments d (List.mem_filterMap.mpr ⟨r, hr, by rw [hd]; rfl⟩)

theorem kept_under_ids_assorted :
    (∀ r ∈ assorted, ∀ c d, r.2.written? = some (c, d) → d.Regular) ∧
      (∃ m : MemoryStore, ((keyed []).through assorted).Holds m ∧
        ((keyed []).through assorted).Files "probes" (m.documents "probes") ∧
        ((keyed []).through assorted).Finds "probes" (m.documents "probes")) ∧
      ∀ fresh, ((keyed []).through assorted).Grows fresh := by
  obtain ⟨⟨m, hm, -, hfound⟩, hgrows⟩ := kept_under_ids (.inr rfl) assorted regular_assorted
  exact ⟨regular_assorted, ⟨m, hm, (hfound "probes").1, (hfound "probes").2.1⟩, hgrows⟩

/-- Lists inside each other, one more than a number. -/
def nestedLists : Nat → Json
  | 0 => .list []
  | n + 1 => .list [nestedLists n]

/-- An id, and a document of this id with 127 lists inside each other. -/
def deepId : ObjectId := ⟨List.replicate 12 0xde, rfl⟩

def deepDocument : Document := [("_id", .text deepId.toHex), ("deep", nestedLists 126)]

theorem deepDocument_regular : deepDocument.Regular := by
  have hregular : (Json.object deepDocument).regular = true := by decide +kernel
  exact hregular

/-- The document is inserted under its id, but neither the filter for this id nor the empty one
selects it. -/
theorem deepDocument_unselected :
    (KeyedStore.insert [] deepId deepDocument "probes").1 = .ok deepId.toHex ∧
      ((keyed []).through [(deepId, .insert deepDocument "probes")]).ids "probes" =
        [deepId.toHex] ∧
      ((keyed []).through [(deepId, .insert deepDocument "probes")]).select (.byId deepId)
        "probes" = .error KeyedStore.tooDeep ∧
      ((keyed []).through [(deepId, .insert deepDocument "probes")]).select .all "probes" =
        .error KeyedStore.tooDeep := by
  obtain ⟨hanswer, hholds⟩ :=
    Holds.insert (s := keyed []) (m := []) Represents.nil deepId deepDocument "probes"
  have hw := MemoryStore.wellKept_nil.put "probes" deepDocument deepId
  have hdocuments : (MemoryStore.put [] "probes" deepDocument deepId).documents "probes" =
      [(deepId.toHex, deepDocument)] := by decide +kernel
  have hid : (MemoryStore.insert [] deepId deepDocument "probes").1 = .ok deepId.toHex := by
    decide +kernel
  have hm : (MemoryStore.insert [] deepId deepDocument "probes").2 =
      MemoryStore.put [] "probes" deepDocument deepId := by decide +kernel
  rw [hid] at hanswer
  rw [hm] at hholds
  have hregular : ∀ e ∈ [(deepId.toHex, deepDocument)], e.2.Regular := by
    simpa using deepDocument_regular
  have hdeep : ¬ deepDocument.nesting ≤ Json.nestingLimit := by
    have hnesting : ¬ (Json.object deepDocument).nesting ≤ Json.nestingLimit := by decide +kernel
    exact hnesting
  have hfinds := hholds.finds hw (by rwa [hdocuments])
  have hids := hholds.ids_eq "probes"
  rw [hdocuments] at hfinds hids
  have hfiled : Entries.get? [(deepId.toHex, deepDocument)] deepId.toHex.toLower =
      some deepDocument := by decide +kernel
  exact ⟨hanswer, hids,
    hfinds.byId_tooDeep deepId.toHex deepId deepId.parse_toHex deepDocument hfiled hdeep,
    hfinds.all_tooDeep ⟨_, List.mem_singleton.mpr rfl, hdeep⟩⟩

end DocumentStore

end Telemetry
