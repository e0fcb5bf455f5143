import Telemetry.Proofs.Store.Search

/-!
# What a write changes in a store

* `DocumentStore.contents`: what a store keeps in a collection by id: the documents or their texts.
* `DocumentStore.Puts`: a document has been put into a collection, and nothing else has changed.
* `Orderly.insert_effect`: an insertion is refused, or it puts the document under a new id.
* `DocumentStore.Places`: a document stands under an id, and nothing else has changed.
* `DocumentStore.replaced`: all that a replacement can do, in any store.
* `DocumentStore.Replaceable`: a document with an id is found, and it differs from the one that is to
  take its place.
* `Orderly.replace_effect`: a replacement changes nothing, or it puts the document in this place.
* `Puts.contents_eq_iff`: what is put under an id changes a collection unless it is there already.
-/

namespace Telemetry

/-- A value that is there already makes no difference. -/
theorem Entries.Sorted.insert_eq_iff {α : Type} {m : Entries α} (hm : m.Sorted) {k : String}
    {v : α} : m.insert k v = m ↔ m.get? k = some v := by
  constructor
  · intro h
    rw [← h, get?_insert, if_pos rfl]
  · intro h
    induction m with
    | nil => cases h
    | cons e m ih =>
      obtain ⟨k₀, v₀⟩ := e
      obtain ⟨hhead, htail⟩ := List.pairwise_cons.mp hm
      rw [get?_cons] at h
      unfold Entries.insert
      split at h
      · next heq =>
        rw [if_pos heq, heq, Option.some.inj h]
      · next hne =>
        have hlt : k₀ < k := hhead _ (mem_of_get? h)
        rw [if_neg hne, if_neg hlt.asymm, ih htail h]

theorem Document.Regular.same_self {d : Document} (h : d.Regular) : d.same d = true :=
  Json.same_self (.object d) h

/-- What a replacement in a table answers and leaves behind. -/
theorem KeyedStore.replace_eq {s : KeyedStore} {c : String} {rows : Entries String}
    (h : s.rows c = .ok rows) (f : Filter) (d : Document) : s.replace f d c =
      match firstAccepted f rows with
      | .error e => (.error e, s)
      | .ok none => (.ok 0, Entries.insert s c (.documents rows))
      | .ok (some (id, d₀)) =>
        if d₀.same (d.withId id) then (.ok 0, s)
        else (.ok 1, Entries.insert s c (.documents (rows.insert id (encode (d.withId id))))) := by
  simp only [replace, h, bind, Except.bind]
  cases firstAccepted f rows with
  | error e => rfl
  | ok found =>
    cases found with
    | none => rfl
    | some found =>
      obtain ⟨id, d₀⟩ := found
      by_cases hsame : d₀.same (d.withId id) = true
      · simp only [if_pos hsame]
        rfl
      · simp only [if_neg hsame]
        rfl

namespace DocumentStore

variable {s s' : DocumentStore} {m : MemoryStore} {c id : String} {f : Filter} {d d₀ : Document}
  {e : StoreError} {x fresh : ObjectId}

/-! ## Contents -/

/-- A document as it is kept: as such, or as its text. -/
def kept (d : Document) : DocumentStore → Json
  | memory _ => .object d
  | keyed _ => .text (KeyedStore.encode d)

/-- What a store keeps in a collection, by id. -/
def contents (c : String) : DocumentStore → Entries Json
  | memory s => (s.documents c).mapValues .object
  | keyed s => match s.rows c with
    | .ok rows => rows.mapValues .text
    | .error _ => []

theorem Holds.contents_eq (h : s.Holds m) (c : String) :
    s.contents c = (m.documents c).mapValues (s.kept ·) := by
  cases s with
  | memory s =>
    obtain rfl : s = m := h
    rfl
  | keyed s =>
    have hrows : s.rows c = _ := h c
    simp only [contents, hrows, Entries.mapValues, List.map_map]
    rfl

/-- A document has been put into a collection under an id, and nothing else has changed. -/
def Puts (s : DocumentStore) (c : String) (x : ObjectId) (d : Document) (s' : DocumentStore) :
    Prop :=
  ∀ c', s'.contents c' =
    if c' = c then (s.contents c).insert x.toHex (s.kept (d.withId x.toHex)) else s.contents c'

/-- How a document is kept depends on the kind of the store only. -/
theorem kept_perform (s : DocumentStore) (fresh : ObjectId) (r : StoreRequest) (d : Document) :
    (s.perform fresh r).2.kept d = s.kept d := by
  cases s <;> rfl

theorem Holds.puts (h : s.Holds m) (h' : s'.Holds (m.put c d x)) (hkept : ∀ d, s'.kept d = s.kept d) :
    s.Puts c x d s' := by
  intro c'
  rw [h'.contents_eq, h.contents_eq, h.contents_eq, MemoryStore.put, MemoryStore.documents_insert]
  simp only [hkept]
  split
  · exact Entries.mapValues_insert ..
  · rfl

theorem Orderly.sorted_contents (h : s.Orderly) (c : String) : (s.contents c).Sorted := by
  obtain ⟨m, hm, hw, -⟩ := h
  rw [hm.contents_eq]
  exact (hw.sorted c).mapValues _

theorem Orderly.ids_eq (h : s.Orderly) (c : String) : s.ids c = (s.contents c).map (·.1) := by
  obtain ⟨m, hm, -, -⟩ := h
  rw [hm.ids_eq, hm.contents_eq, Entries.mapValues, List.map_map]
  rfl

/-- What is put under an id changes a collection unless it is there already. -/
theorem Puts.contents_eq_iff (h : s.Puts c x d s') (hs : s.Orderly) :
    s'.contents c = s.contents c ↔
      (s.contents c).get? x.toHex = some (s.kept (d.withId x.toHex)) := by
  rw [h c, if_pos rfl]
  exact (hs.sorted_contents c).insert_eq_iff

/-! ## Insertions -/

/-- An insertion is refused and leaves the store as it was, or it puts the document under a new
id. -/
theorem Orderly.insert_effect (h : s.Orderly) (fresh : ObjectId) (d : Document) (c : String) :
    (d.Refused (s.ids c) fresh ∧ (s.perform fresh (.insert d c)).2 = s ∧
      ∃ e, (s.perform fresh (.insert d c)).1 = .error e) ∨
    ¬ d.Refused (s.ids c) fresh ∧ ∃ x : ObjectId,
      d.identified fresh = .ok (x.toHex, d.withId x.toHex) ∧ x.toHex ∉ s.ids c ∧
      (s.perform fresh (.insert d c)).1 = .ok x.toHex ∧
      s.Puts c x d (s.perform fresh (.insert d c)).2 := by
  obtain ⟨m, hm, hw, -⟩ := h
  obtain ⟨hanswer, hafter⟩ := hm.insert fresh d c
  have hrefused := m.insert_error_iff fresh d c
  rw [hm.ids_eq, ← hrefused, ← hanswer]
  obtain ⟨e, he⟩ | ⟨x, hx, hnew, hput⟩ := m.insert_cases fresh d c
  · have herror : (s.perform fresh (.insert d c)).1 = .error e := by rw [hanswer, he]
    exact .inl ⟨⟨e, herror⟩, insert_refused herror, e, herror⟩
  · rw [hput] at hanswer hafter
    refine .inr ⟨?_, x, hx, hnew, hanswer, hm.puts hafter (s.kept_perform fresh _)⟩
    rintro ⟨e, he⟩
    cases hanswer.symm.trans he

/-! ## Writing one document -/

/-- Nothing that is kept or read has changed. -/
structure Keeps (s s' : DocumentStore) : Prop where
  contents : ∀ c, s'.contents c = s.contents c
  readings : ∀ c, s'.readings c = s.readings c

theorem Keeps.refl (s : DocumentStore) : s.Keeps s := ⟨fun _ => rfl, fun _ => rfl⟩

/-- A document is kept under an id of a collection, and nothing else has changed. -/
structure Places (s : DocumentStore) (c id : String) (d : Document) (s' : DocumentStore) : Prop where
  contents : ∀ c', s'.contents c' =
    if c' = c then (s.contents c).insert id (s.kept d) else s.contents c'
  readings : ∀ c', s'.readings c' =
    if c' = c then (s.readings c).map (Entries.insert · id (s.read d)) else s.readings c'

theorem places_memory (m : MemoryStore) (c id : String) (d : Document) :
    (memory m).Places c id d (memory (Entries.insert m c ((m.documents c).insert id d))) where
  contents c' := by
    simp only [contents, MemoryStore.documents_insert]
    split
    · exact Entries.mapValues_insert ..
    · rfl
  readings c' := by
    simp only [readings, MemoryStore.documents_insert]
    split
    · exact congrArg Except.ok (Entries.mapValues_insert ..)
    · rfl

section

variable {k : KeyedStore} {rows : Entries String}

theorem keeps_keyed (h : k.rows c = .ok rows) :
    (keyed k).Keeps (keyed (Entries.insert k c (.documents rows))) := by
  have hsame : ∀ c', KeyedStore.rows (Entries.insert k c (.documents rows)) c' = k.rows c' := by
    intro c'
    rw [KeyedStore.rows_insert]
    split
    · next heq => rw [heq, h]
    · rfl
  constructor
  · intro c'
    simp only [contents, hsame]
  · intro c'
    simp only [readings, hsame]

theorem places_keyed (h : k.rows c = .ok rows) (id : String) (d : Document) :
    (keyed k).Places c id d
      (keyed (Entries.insert k c (.documents (rows.insert id (KeyedStore.encode d))))) where
  contents c' := by
    by_cases hc : c' = c
    · simp only [contents, KeyedStore.rows_insert, if_pos hc, h]
      exact Entries.mapValues_insert ..
    · simp only [contents, KeyedStore.rows_insert, if_neg hc]
  readings c' := by
    by_cases hc : c' = c
    · simp only [readings, KeyedStore.rows_insert, if_pos hc, h]
      exact congrArg Except.ok (Entries.mapValues_insert ..)
    · simp only [readings, KeyedStore.rows_insert, if_neg hc]

end

/-! ## Replacements -/

/-- A replacement in either store. -/
def replace (f : Filter) (d : Document) (c : String) :
    DocumentStore → Except StoreError Nat × DocumentStore
  | memory s => (.ok (s.replace f d c).1, .memory (s.replace f d c).2)
  | keyed s => ((s.replace f d c).1, .keyed (s.replace f d c).2)

theorem perform_replace (s : DocumentStore) (fresh : ObjectId) (f : Filter) (d : Document)
    (c : String) : s.perform fresh (.replace f d c) = s.replace f d c := by
  cases s <;> rfl

/-- The answer and the store after it, if the outcome of the search is known. -/
inductive Replaced (s : DocumentStore) (d : Document) (c : String) :
    Except StoreError (Option (String × Document)) → Except StoreError Nat × DocumentStore → Prop
  | stuck {e : StoreError} : Replaced s d c (.error e) (.error e, s)
  | absent {s' : DocumentStore} : s.Keeps s' → Replaced s d c (.ok none) (.ok 0, s')
  | same {id : String} {d₀ : Document} : d₀.same (d.withId id) = true →
    Replaced s d c (.ok (some (id, d₀))) (.ok 0, s)
  | placed {id : String} {d₀ : Document} {s' : DocumentStore} : d₀.same (d.withId id) = false →
    s.Places c id (d.withId id) s' → Replaced s d c (.ok (some (id, d₀))) (.ok 1, s')

/-- All that a replacement can do. -/
theorem replaced (s : DocumentStore) (f : Filter) (d : Document) (c : String) :
    s.Replaced d c (s.found f c) (s.replace f d c) := by
  cases s with
  | memory m =>
    have hfound : (memory m).found f c = .ok ((m.documents c).find? fun e => f.accepts e.2) :=
      MemoryStore.find?_eq_search f _
    rw [hfound, replace, MemoryStore.replace]
    cases (m.documents c).find? fun e => f.accepts e.2 with
    | none => exact .absent (.refl _)
    | some found =>
      obtain ⟨id, d₀⟩ := found
      cases hsame : d₀.same (d.withId id) with
      | true =>
        simp only [hsame, if_true]
        exact .same hsame
      | false =>
        simp only [hsame, if_neg Bool.false_ne_true]
        exact .placed hsame (places_memory m c id _)
  | keyed k =>
    cases hrows : k.rows c with
    | error e =>
      have hfound : (keyed k).found f c = .error e := by
        simp only [found, readings, hrows]
        rfl
      have hreplace : k.replace f d c = (.error e, k) := by
        simp only [KeyedStore.replace, hrows]
        rfl
      rw [hfound, replace, hreplace]
      exact .stuck
    | ok rows =>
      have hfound : (keyed k).found f c = KeyedStore.firstAccepted f rows := by
        simp only [found, readings, hrows, KeyedStore.firstAccepted_eq_search]
        rfl
      rw [hfound, replace, KeyedStore.replace_eq hrows]
      cases KeyedStore.firstAccepted f rows with
      | error e => exact .stuck
      | ok found =>
        cases found with
        | none => exact .absent (keeps_keyed hrows)
        | some found =>
          obtain ⟨id, d₀⟩ := found
          cases hsame : d₀.same (d.withId id) with
          | true =>
            simp only [hsame, if_true]
            exact .same hsame
          | false =>
            simp only [hsame, if_neg Bool.false_ne_true]
            exact .placed hsame (places_keyed hrows id _)

namespace Replaced

variable {outcome : Except StoreError (Option (String × Document))}
  {r : Except StoreError Nat × DocumentStore}

theorem one_iff (h : s.Replaced d c outcome r) : r.1 = .ok 1 ↔
    ∃ id d₀, outcome = .ok (some (id, d₀)) ∧ d₀.same (d.withId id) = false := by
  cases h with
  | stuck => simp
  | absent _ => simp
  | same hsame => simp [hsame]
  | placed hdiffers _ => simp [hdiffers]

theorem error_iff (h : s.Replaced d c outcome r) : r.1 = .error e ↔ outcome = .error e := by
  cases h <;> simp

theorem otherwise (h : s.Replaced d c outcome r) (hone : r.1 ≠ .ok 1)
    (hread : ∀ e, outcome ≠ .error e) : r.1 = .ok 0 := by
  cases h with
  | stuck => exact absurd rfl (hread _)
  | absent _ => rfl
  | same _ => rfl
  | placed _ _ => exact absurd rfl hone

theorem keeps (h : s.Replaced d c outcome r) (hone : r.1 ≠ .ok 1) : s.Keeps r.2 := by
  cases h with
  | stuck => exact .refl s
  | absent hkeeps => exact hkeeps
  | same _ => exact .refl s
  | placed _ _ => exact absurd rfl hone

theorem places (h : s.Replaced d c outcome r) (houtcome : outcome = .ok (some (id, d₀)))
    (hdiffers : d₀.same (d.withId id) = false) : s.Places c id (d.withId id) r.2 := by
  subst houtcome
  cases h with
  | same hsame => cases hsame.symm.trans hdiffers
  | placed _ hplaces => exact hplaces

theorem answer_of_some (h : s.Replaced d c (.ok (some (id, d₀))) r) :
    r.1 = .ok (if d₀.same (d.withId id) then 0 else 1) := by
  cases h with
  | same hsame => rw [hsame, if_pos rfl]
  | placed hdiffers _ => rw [hdiffers, if_neg Bool.false_ne_true]

/-- The answer depends on the outcome of the search only. -/
theorem answer_eq {r' : Except StoreError Nat × DocumentStore} (h : s.Replaced d c outcome r)
    (h' : s'.Replaced d c outcome r') : r'.1 = r.1 := by
  cases h with
  | stuck => exact h'.error_iff.mpr rfl
  | absent _ => cases h' with | absent _ => rfl
  | same hsame => rw [h'.answer_of_some, hsame, if_pos rfl]
  | placed hdiffers _ => rw [h'.answer_of_some, hdiffers, if_neg Bool.false_ne_true]

end Replaced

/-! ## Replacements by id -/

/-- A document with this id is found, the ones before it can be read, and it differs from the one
that is to take its place. -/
structure Replaceable (s : DocumentStore) (c : String) (x : ObjectId) (d : Document) : Prop where
  readable : ∀ y : ObjectId, y.toHex ≤ x.toHex → ∃ ds, s.select (.byId y) c = .ok ds
  differs : ∃ d₀, s.select (.byId x) c = .ok [d₀] ∧ d₀.same (d.withId x.toHex) = false

theorem Holds.select_byId_ok_iff (h : s.Holds m) (hw : m.WellKept)
    (hds : ∀ e ∈ m.documents c, e.2.Regular) {d' : Document} :
    s.select (.byId x) c = .ok [d'] ↔
      ∃ d₀, (m.documents c).get? x.toHex = some d₀ ∧ s.Fits d₀ ∧ s.view d₀ = d' := by
  rw [h.select_byId hw hds, mapM_eq_ok_iff]
  cases hd₀ : (m.documents c).get? x.toHex with
  | none => simp
  | some d₀ =>
    have hregular : d₀.Regular := hds _ (Entries.mem_of_get? hd₀)
    by_cases hfit : s.Fits d₀
    · simp [read_of_fits hregular hfit, hfit]
    · simp [read_of_not_fits hregular hfit, hfit]

theorem Holds.replaceable_iff (h : s.Holds m) (hw : m.WellKept)
    (hds : ∀ e ∈ m.documents c, e.2.Regular) : s.Replaceable c x d ↔
      (∀ e ∈ m.documents c, e.1 ≤ x.toHex → s.Fits e.2) ∧
        ∃ d₀, (m.documents c).get? x.toHex = some d₀ ∧
          (s.view d₀).same (d.withId x.toHex) = false := by
  constructor
  · rintro ⟨hreadable, d', hd', hsame⟩
    obtain ⟨d₀, hd₀, -, rfl⟩ := (h.select_byId_ok_iff hw hds).mp hd'
    refine ⟨fun e he hle => ?_, d₀, hd₀, hsame⟩
    obtain ⟨y, hy⟩ := hw.named c e he
    obtain ⟨ds, hselect⟩ := hreadable y (hy ▸ hle)
    have hget := (hw.sorted c).get?_of_mem (hy ▸ he : (y.toHex, e.2) ∈ m.documents c)
    rw [h.select_byId hw hds, hget] at hselect
    by_contra hdeep
    rw [mapM_read_tooDeep (by simpa using hds e he) (by simpa using hdeep)] at hselect
    cases hselect
  · rintro ⟨hfits, d₀, hd₀, hsame⟩
    have hmem : (x.toHex, d₀) ∈ m.documents c := Entries.mem_of_get? hd₀
    refine ⟨fun y hle => ?_, s.view d₀, ?_, hsame⟩
    · rw [h.select_byId hw hds]
      cases hget : (m.documents c).get? y.toHex with
      | none => exact ⟨[], rfl⟩
      | some d' =>
        have hmem' := Entries.mem_of_get? hget
        exact ⟨_, mapM_read (by simpa using hds _ hmem') (by simpa using hfits _ hmem' hle)⟩
    · exact (h.select_byId_ok_iff hw hds).mpr ⟨d₀, hd₀, hfits _ hmem le_rfl, rfl⟩

theorem Orderly.replaceable_iff (h : s.Orderly) : s.Replaceable c x d ↔
    ∃ d₀, s.First (.byId x) c x.toHex d₀ ∧ d₀.same (d.withId x.toHex) = false := by
  obtain ⟨m, hm, hw, hregular⟩ := h
  rw [hm.replaceable_iff hw (hregular c)]
  simp only [hm.first_byId_iff hw (hregular c), true_and]
  constructor
  · rintro ⟨hbelow, d₀, hd₀, hdiffers⟩
    exact ⟨s.view d₀, ⟨hbelow, d₀, hd₀, rfl⟩, hdiffers⟩
  · rintro ⟨_, ⟨hbelow, d₀, hd₀, rfl⟩, hdiffers⟩
    exact ⟨hbelow, d₀, hd₀, hdiffers⟩

/-- A replacement changes nothing and counts none, or it puts the document in the place that it
found. -/
theorem Orderly.replace_effect (h : s.Orderly) (fresh x : ObjectId) (d : Document) (c : String) :
    (¬ s.Replaceable c x d ∧
      (∀ c', (s.perform fresh (.replace (.byId x) d c)).2.contents c' = s.contents c') ∧
      ((∃ e, (s.perform fresh (.replace (.byId x) d c)).1 = .error e) ∨
        (s.perform fresh (.replace (.byId x) d c)).1 = .ok 0)) ∨
    s.Replaceable c x d ∧ (s.perform fresh (.replace (.byId x) d c)).1 = .ok 1 ∧
      s.Puts c x d (s.perform fresh (.replace (.byId x) d c)).2 := by
  rw [s.perform_replace]
  have hreplaced := s.replaced (.byId x) d c
  have hfirst := h.replaceable_iff (c := c) (x := x) (d := d)
  by_cases hr : s.Replaceable c x d
  · obtain ⟨d₀, hfound, hdiffers⟩ := hfirst.mp hr
    have hfound := h.filed.found_eq_some_iff.mpr hfound
    exact .inr ⟨hr, hreplaced.one_iff.mpr ⟨x.toHex, d₀, hfound, hdiffers⟩,
      (hreplaced.places hfound hdiffers).contents⟩
  · have hone : (s.replace (.byId x) d c).1 ≠ .ok 1 := fun hone => by
      obtain ⟨id, d₀, hfound, hdiffers⟩ := hreplaced.one_iff.mp hone
      have hfound := h.filed.found_eq_some_iff.mp hfound
      obtain rfl := hfound.id_eq h.filed
      exact hr (hfirst.mpr ⟨d₀, hfound, hdiffers⟩)
    refine .inl ⟨hr, (hreplaced.keeps hone).contents, ?_⟩
    by_cases hread : ∃ e, s.found (.byId x) c = .error e
    · obtain ⟨e, he⟩ := hread
      exact .inl ⟨e, hreplaced.error_iff.mpr he⟩
    · exact .inr (hreplaced.otherwise hone fun e he => hread ⟨e, he⟩)

/-- In memory every document can be read. -/
theorem replaceable_memory_iff {m : MemoryStore} : (memory m).Replaceable c x d ↔
    ∃ d₀, (memory m).select (.byId x) c = .ok [d₀] ∧ d₀.same (d.withId x.toHex) = false :=
  ⟨fun h => h.differs, fun h => ⟨fun _ _ => ⟨_, rfl⟩, h⟩⟩

/-- In memory a document that differs from the one in its place is not there already. -/
theorem Replaceable.contents_ne {m : MemoryStore} (hr : (memory m).Replaceable c x d)
    (h : (memory m).Orderly) (hd : d.Regular) : ((memory m).contents c).get? x.toHex ≠
      some ((memory m).kept (d.withId x.toHex)) := by
  obtain ⟨m', hm, hw, hregular⟩ := h
  obtain ⟨-, d', hselect, hsame⟩ := hr
  obtain ⟨d₀, hd₀, -, rfl⟩ := (hm.select_byId_ok_iff hw (hregular c)).mp hselect
  rw [hm.contents_eq, Entries.get?_mapValues, hd₀]
  intro heq
  obtain rfl : d₀ = d.withId x.toHex := Json.object.inj (Option.some.inj heq)
  have hself : ((memory m).view (d.withId x.toHex)).same (d.withId x.toHex) = true :=
    (hd.withId x.toHex).same_self
  cases hself.symm.trans hsame

end DocumentStore

end Telemetry
