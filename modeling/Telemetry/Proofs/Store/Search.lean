import Telemetry.Proofs.Attained

/-!
# Looking for the first document

Both stores look for the first document, in the order of the ids, that a filter accepts. What a table
holds has to be read for this, so that a search in a table fails at a row that is not readable.

* `DocumentStore.readings`: what can be read under each id of a collection.
* `Readings.Reaches`: a search gets to an id; `Readings.search_eq_some_iff` and
  `Readings.search_eq_error_iff` say what it comes to there.
* `DocumentStore.First`, `DocumentStore.Stuck`: the document that is found, and why none is.
* `Orderly.filed`: what can be read in an orderly store is in the order of the ids and has its id.
* `Holds.first_byId_iff`: when the filter for an id finds a document.
-/

namespace Telemetry

/-- A document has the id that it is kept under, so the filter for an id accepts it under this id
only. -/
theorem Filter.accepts_byId_iff {x : ObjectId} {d : Document} {k : String} (hd : d.get? idKey = some (.text k)) :
    (byId x).accepts d = true ↔ k = x.toHex := by
  constructor
  · intro h
    exact Json.text.inj (Option.some.inj (hd.symm.trans (id_of_accepts h)))
  · rintro rfl
    exact accepts_byId hd

/-- What can be read under each id. -/
abbrev Readings := Entries (Except StoreError Document)

namespace Readings

variable {f : Filter} {es : Readings} {id : String} {d : Document} {e : StoreError}
  {reading : Except StoreError Document}

/-- The first document that a filter accepts. What stands before it has to be readable. -/
def search (f : Filter) : Readings → Except StoreError (Option (String × Document))
  | [] => .ok none
  | (id, reading) :: es => do
    let d ← reading
    if f.accepts d then return some (id, d) else search f es

@[simp] theorem search_cons_error : search f ((id, .error e) :: es) = .error e := rfl

theorem search_cons_ok : search f ((id, .ok d) :: es) =
    if f.accepts d then .ok (some (id, d)) else search f es := rfl

/-- A search gets to an id: the documents before it can be read, and the filter accepts none of
them. -/
structure Reaches (f : Filter) (es : Readings) (id : String) (reading : Except StoreError Document) :
    Prop where
  here : (id, reading) ∈ es
  passed : ∀ e ∈ es, e.1 < id → ∃ d, e.2 = .ok d ∧ f.accepts d = false

/-- A search that gets to an id goes on from there. -/
theorem Reaches.search_eq (hs : Entries.Sorted es) (h : Reaches f es id reading) :
    ∃ rest, search f es = search f ((id, reading) :: rest) := by
  obtain ⟨hhere, hpassed⟩ := h
  induction es with
  | nil => cases hhere
  | cons e₀ es ih =>
    obtain ⟨hhead, htail⟩ := List.pairwise_cons.mp hs
    obtain ⟨hfirst, hothers⟩ := List.forall_mem_cons.mp hpassed
    obtain rfl | hmem := List.mem_cons.mp hhere
    · exact ⟨es, rfl⟩
    · obtain ⟨id₀, reading₀⟩ := e₀
      have hlt : id₀ < id := hhead _ hmem
      obtain ⟨d₀, rfl, hd₀⟩ := hfirst hlt
      obtain ⟨rest, hrest⟩ := ih htail hmem hothers
      exact ⟨rest, by rw [search_cons_ok, hd₀, ← hrest, if_neg Bool.false_ne_true]⟩

/-- A search gets beyond a document that is not accepted. -/
theorem Reaches.cons (hd : f.accepts d = false) (h : Reaches f es id reading) (k : String) :
    Reaches f ((k, .ok d) :: es) id reading where
  here := .tail _ h.here
  passed := List.forall_mem_cons.mpr ⟨fun _ => ⟨d, rfl, hd⟩, h.passed⟩

/-- A search gets to the least id. -/
theorem reaches_head (hs : Entries.Sorted ((id, reading) :: es)) :
    Reaches f ((id, reading) :: es) id reading where
  here := .head _
  passed := by
    obtain ⟨hhead, -⟩ := List.pairwise_cons.mp hs
    refine List.forall_mem_cons.mpr ⟨fun hlt => absurd hlt (lt_irrefl id), ?_⟩
    exact fun e he hlt => absurd (hhead e he) hlt.asymm

/-- The place where a search ends, if it does not pass all documents. -/
theorem reaches_of_search (hs : Entries.Sorted es) :
    (∀ id d, search f es = .ok (some (id, d)) → Reaches f es id (.ok d) ∧ f.accepts d = true) ∧
      ∀ e, search f es = .error e → ∃ id, Reaches f es id (.error e) := by
  induction es with
  | nil => exact ⟨fun _ _ h => (nomatch h), fun _ h => (nomatch h)⟩
  | cons e₀ es ih =>
    obtain ⟨k, reading₀⟩ := e₀
    obtain ⟨hfound, hfailed⟩ := ih (List.pairwise_cons.mp hs).2
    cases reading₀ with
    | error e₀ =>
      constructor
      · intro id d h
        cases h
      · intro e h
        rw [← Except.error.inj h]
        exact ⟨k, reaches_head hs⟩
    | ok d₀ =>
      rw [search_cons_ok]
      cases hd₀ : f.accepts d₀ with
      | true =>
        constructor
        · intro id d h
          obtain ⟨rfl, rfl⟩ := Prod.mk.inj (Option.some.inj (Except.ok.inj h))
          exact ⟨reaches_head hs, hd₀⟩
        · intro e h
          cases h
      | false =>
        constructor
        · intro id d h
          obtain ⟨hreaches, hd⟩ := hfound id d h
          exact ⟨hreaches.cons hd₀ k, hd⟩
        · intro e h
          obtain ⟨id, hreaches⟩ := hfailed e h
          exact ⟨id, hreaches.cons hd₀ k⟩

theorem search_eq_some_iff (hs : Entries.Sorted es) :
    search f es = .ok (some (id, d)) ↔ Reaches f es id (.ok d) ∧ f.accepts d = true := by
  refine ⟨(reaches_of_search hs).1 id d, ?_⟩
  rintro ⟨hreaches, hd⟩
  obtain ⟨rest, hrest⟩ := hreaches.search_eq hs
  rw [hrest, search_cons_ok, if_pos hd]

theorem search_eq_error_iff (hs : Entries.Sorted es) :
    search f es = .error e ↔ ∃ id, Reaches f es id (.error e) := by
  refine ⟨(reaches_of_search hs).2 e, ?_⟩
  rintro ⟨id, hreaches⟩
  obtain ⟨rest, hrest⟩ := hreaches.search_eq hs
  rw [hrest, search_cons_error]

/-- A search gets to a document as far as one for its id, if each document has its id. -/
theorem Reaches.byId {x : ObjectId} {reading' : Except StoreError Document}
    (hlabel : ∀ id d, (id, .ok d) ∈ es → d.get? idKey = some (.text id))
    (h : Reaches f es x.toHex reading) :
    Reaches (.byId x) (es.insert x.toHex reading') x.toHex reading' where
  here := Entries.mem_of_get? (by rw [Entries.get?_insert, if_pos rfl])
  passed := by
    intro e he hlt
    obtain rfl | he := Entries.mem_insert he
    · exact absurd hlt (lt_irrefl _)
    · obtain ⟨d, hd, -⟩ := h.passed e he hlt
      have hid := hlabel e.1 d (hd ▸ he)
      refine ⟨d, hd, Bool.eq_false_iff.mpr fun haccepts => hlt.ne ?_⟩
      exact (Filter.accepts_byId_iff hid).mp haccepts

end Readings

theorem MemoryStore.find?_eq_search (f : Filter) (ds : Entries Document) :
    Readings.search f (ds.mapValues .ok) = .ok (ds.find? fun e => f.accepts e.2) := by
  induction ds with
  | nil => rfl
  | cons e ds ih =>
    rw [Entries.mapValues_cons, Readings.search_cons_ok, ih, List.find?_cons]
    cases f.accepts e.2 <;> rfl

theorem KeyedStore.firstAccepted_eq_search (f : Filter) (rows : Entries String) :
    firstAccepted f rows = Readings.search f (rows.mapValues decode) := by
  induction rows with
  | nil => rfl
  | cons row rows ih =>
    obtain ⟨id, text⟩ := row
    rw [Entries.mapValues_cons, firstAccepted, ih]
    rfl

namespace DocumentStore

variable {s : DocumentStore} {m : MemoryStore} {c id : String} {f : Filter} {d d₀ : Document}
  {e : StoreError} {x : ObjectId}

/-! ## Looking into a collection -/

/-- What can be read under each id of a collection, unless its table is of another kind. -/
def readings (c : String) : DocumentStore → Except StoreError Readings
  | memory s => .ok ((s.documents c).mapValues .ok)
  | keyed s => (s.rows c).map (Entries.mapValues KeyedStore.decode)

/-- The first document of a collection that a filter accepts. -/
def found (s : DocumentStore) (f : Filter) (c : String) :
    Except StoreError (Option (String × Document)) := do
  Readings.search f (← s.readings c)

/-- The collections are in the order of their ids, and what can be read in them has its id. -/
structure Filed (s : DocumentStore) : Prop where
  sorted : ∀ c es, s.readings c = .ok es → es.Sorted
  labelled : ∀ c es, s.readings c = .ok es → ∀ id d, (id, .ok d) ∈ es →
    d.get? idKey = some (.text id)

/-- The document with the smallest id that the filter accepts. The ones before it can be read. -/
def First (s : DocumentStore) (f : Filter) (c id : String) (d : Document) : Prop :=
  ∃ es, s.readings c = .ok es ∧ es.Reaches f id (.ok d) ∧ f.accepts d = true

/-- The table is of another kind, or the search in it gets to a row that cannot be read. -/
def Stuck (s : DocumentStore) (f : Filter) (c : String) (e : StoreError) : Prop :=
  s.readings c = .error e ∨ ∃ es id, s.readings c = .ok es ∧ es.Reaches f id (.error e)

theorem Filed.found_eq_some_iff (h : s.Filed) :
    s.found f c = .ok (some (id, d)) ↔ s.First f c id d := by
  unfold found First
  cases hes : s.readings c with
  | error e => simp [bind, Except.bind]
  | ok es =>
    simp only [bind, Except.bind, Except.ok.injEq, exists_eq_left']
    exact Readings.search_eq_some_iff (h.sorted c es hes)

theorem Filed.found_eq_error_iff (h : s.Filed) : s.found f c = .error e ↔ s.Stuck f c e := by
  unfold found Stuck
  cases hes : s.readings c with
  | error e => simp [bind, Except.bind]
  | ok es =>
    have hiff := Readings.search_eq_error_iff (f := f) (e := e) (h.sorted c es hes)
    simpa [bind, Except.bind] using hiff

/-- The only document that the filter for an id can find is the one with this id. -/
theorem First.id_eq (hs : s.Filed) (h : s.First (.byId x) c id d) :
    id = x.toHex := by
  obtain ⟨es, hes, hreaches, haccepts⟩ := h
  exact (Filter.accepts_byId_iff (hs.labelled c es hes id d hreaches.here)).mp haccepts

/-- In memory every document can be read. -/
theorem not_stuck_memory {m : MemoryStore} : ¬ (memory m).Stuck f c e := by
  rintro (hes | ⟨es, id, hes, hreaches⟩)
  · cases hes
  · obtain rfl : (m.documents c).mapValues .ok = es := Except.ok.inj hes
    obtain ⟨e, -, he⟩ := List.mem_map.mp hreaches.here
    cases congrArg Prod.snd he

/-! ## Documents that are held -/

/-- A document that is read again has its id still. -/
theorem get?_of_read {id : String} (hd : d.Regular) (h : s.read d = .ok d₀)
    (hid : d.get? idKey = some (.text id)) : d₀.get? idKey = some (.text id) := by
  by_cases hfit : s.Fits d
  · rw [read_of_fits hd hfit] at h
    rw [← Except.ok.inj h]
    exact get?_view hid
  · cases (read_of_not_fits hd hfit).symm.trans h

theorem Holds.readings_eq (h : s.Holds m) (c : String) :
    s.readings c = .ok ((m.documents c).mapValues (s.read ·)) := by
  cases s with
  | memory s =>
    obtain rfl : s = m := h
    rfl
  | keyed s =>
    have hrows : s.rows c = .ok ((m.documents c).mapValues KeyedStore.encode) := h c
    simp only [readings, hrows, Entries.mapValues, Except.map, List.map_map]
    rfl

/-- What can be read is read from a document that is held. -/
theorem Holds.mem_readings (h : s.Holds m) {es : Readings} (hes : s.readings c = .ok es)
    {reading : Except StoreError Document} :
    (id, reading) ∈ es ↔ ∃ d, (id, d) ∈ m.documents c ∧ s.read d = reading := by
  rw [← Except.ok.inj ((h.readings_eq c).symm.trans hes), Entries.mapValues]
  simp

/-- An orderly store is filed. -/
theorem Orderly.filed (h : s.Orderly) : s.Filed := by
  obtain ⟨m, hm, hw, hregular⟩ := h
  constructor
  · intro c es hes
    rw [← Except.ok.inj ((hm.readings_eq c).symm.trans hes)]
    exact (hw.sorted c).mapValues _
  · intro c es hes id d hmem
    obtain ⟨d₀, hd₀, hread⟩ := (hm.mem_readings hes).mp hmem
    exact get?_of_read (hregular c _ hd₀) hread (hw.labelled c _ hd₀)

/-- The filter for an id finds the document under this id if it and those before it can be read. -/
theorem Holds.first_byId_iff (h : s.Holds m) (hw : m.WellKept)
    (hds : ∀ e ∈ m.documents c, e.2.Regular) : s.First (.byId x) c id d ↔
      id = x.toHex ∧ (∀ e ∈ m.documents c, e.1 ≤ x.toHex → s.Fits e.2) ∧
        ∃ d₀, (m.documents c).get? x.toHex = some d₀ ∧ s.view d₀ = d := by
  have hfits : ∀ {e d'}, e ∈ m.documents c → s.read e.2 = .ok d' →
      s.Fits e.2 ∧ s.view e.2 = d' := fun {e d'} he hread => by
    by_cases hfit : s.Fits e.2
    · exact ⟨hfit, Except.ok.inj ((read_of_fits (hds e he) hfit).symm.trans hread)⟩
    · cases (read_of_not_fits (hds e he) hfit).symm.trans hread
  constructor
  · rintro ⟨es, hes, ⟨hhere, hpassed⟩, haccepts⟩
    obtain ⟨d₀, hd₀, hread⟩ := (h.mem_readings hes).mp hhere
    have hid := get?_of_read (hds _ hd₀) hread (hw.labelled c _ hd₀)
    obtain rfl := (Filter.accepts_byId_iff hid).mp haccepts
    obtain ⟨hfit, hview⟩ := hfits hd₀ hread
    refine ⟨rfl, fun e he hle => ?_, d₀, (hw.sorted c).get?_of_mem hd₀, hview⟩
    obtain hlt | heq := hle.lt_or_eq
    · obtain ⟨d', hd', -⟩ := hpassed _ ((h.mem_readings hes).mpr ⟨e.2, he, rfl⟩) hlt
      exact (hfits he hd').1
    · have hsame := (hw.sorted c).get?_of_mem (heq ▸ he : (x.toHex, e.2) ∈ m.documents c)
      rw [(hw.sorted c).get?_of_mem hd₀] at hsame
      rwa [← Option.some.inj hsame]
  · rintro ⟨rfl, hbelow, d₀, hd₀, rfl⟩
    have hmem := Entries.mem_of_get? hd₀
    have hread : ∀ e ∈ m.documents c, e.1 ≤ x.toHex → s.read e.2 = .ok (s.view e.2) :=
      fun e he hle => read_of_fits (hds e he) (hbelow e he hle)
    refine ⟨_, h.readings_eq c, ⟨?_, ?_⟩, Filter.accepts_byId (get?_view (hw.labelled c _ hmem))⟩
    · exact (h.mem_readings (h.readings_eq c)).mpr ⟨d₀, hmem, hread _ hmem le_rfl⟩
    · rintro ⟨id, reading⟩ he hlt
      obtain ⟨d', hd', rfl⟩ := (h.mem_readings (h.readings_eq c)).mp he
      refine ⟨s.view d', hread _ hd' (le_of_lt hlt), Bool.eq_false_iff.mpr fun haccepts => ?_⟩
      exact hlt.ne ((Filter.accepts_byId_iff (get?_view (hw.labelled c _ hd'))).mp haccepts)

end DocumentStore

end Telemetry
