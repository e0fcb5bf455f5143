import Telemetry.Proofs.Store.Contents

/-!
# What a replacement touches

A replacement changes at most the first document that its filter accepts. A table has to read what it
has written, and so a document that has just been put in its place may differ from the one that is
found there.

* `Places.found_byId`: what the filter for an id finds where a document has been put.
* `DocumentStore.TouchesOne`: when a replacement changes a document, which one, and what the same
  replacement comes to afterwards.
* `Filed.replace_touchesOne`: every replacement is of this kind.
* `DocumentStore.gauge_replaced_twice`: a replacement that changes the document each time.
-/

namespace Telemetry

namespace DocumentStore

variable {s s' : DocumentStore} {c id : String} {f : Filter} {d d₀ : Document} {e : StoreError}
  {x : ObjectId}

/-- Where nothing has changed, the same is found. -/
theorem Keeps.found_eq (h : s.Keeps s') (f : Filter) (c : String) : s'.found f c = s.found f c := by
  rw [found, found, h.readings c]

/-- The filter for an id finds the document that has been put in its place, as it is read again. -/
theorem Places.found_byId (h : s.Places c x.toHex (d.withId x.toHex) s') (hs : s.Filed)
    (hd : d.Regular) (hfirst : s.First f c x.toHex d₀) :
    s'.found (.byId x) c = (s.read (d.withId x.toHex)).map fun d' => some (x.toHex, d') := by
  obtain ⟨es, hes, hreaches, -⟩ := hfirst
  have hes' : s'.readings c = .ok (es.insert x.toHex (s.read (d.withId x.toHex))) := by
    rw [h.readings c, if_pos rfl, hes]
    rfl
  have hsorted := (hs.sorted c es hes).insert x.toHex (s.read (d.withId x.toHex))
  obtain ⟨rest, hrest⟩ := (hreaches.byId (hs.labelled c es hes)).search_eq hsorted
  have hfound : s'.found (.byId x) c = Readings.search (.byId x)
      ((x.toHex, s.read (d.withId x.toHex)) :: rest) := by
    rw [← hrest, found, hes']
    rfl
  rw [hfound]
  cases hread : s.read (d.withId x.toHex) with
  | error e => rfl
  | ok d' =>
    have hid := get?_of_read (hd.withId _) hread (d.get?_withId x.toHex)
    rw [Readings.search_cons_ok, if_pos (Filter.accepts_byId hid)]
    rfl

/-- A replacement changes one document at most: the first one that the filter accepts, if it differs
from the one that is to take its place. Then the filter for its id finds what has been written, as
it is read again. -/
structure TouchesOne (s : DocumentStore) (f : Filter) (d : Document) (c : String) : Prop where
  one_iff : (s.replace f d c).1 = .ok 1 ↔
    ∃ id d₀, s.First f c id d₀ ∧ d₀.same (d.withId id) = false
  places : ∀ id d₀, s.First f c id d₀ → d₀.same (d.withId id) = false →
    s.Places c id (d.withId id) (s.replace f d c).2
  keeps : (s.replace f d c).1 ≠ .ok 1 → s.Keeps (s.replace f d c).2
  error_iff : ∀ e, (s.replace f d c).1 = .error e ↔ s.Stuck f c e
  otherwise : (s.replace f d c).1 ≠ .ok 1 → (∀ e, ¬ s.Stuck f c e) → (s.replace f d c).1 = .ok 0
  again : (s.replace f d c).1 ≠ .ok 1 →
    ((s.replace f d c).2.replace f d c).1 = (s.replace f d c).1
  thenById : (s.replace f d c).1 = .ok 1 →
    ∀ x : ObjectId, (f = .byId x ∨ ∃ d₀, s.First f c x.toHex d₀) →
      ((s.replace f d c).2.replace (.byId x) d c).1 =
        (s.read (d.withId x.toHex)).map fun d' => if d'.same (d.withId x.toHex) then 0 else 1

theorem Filed.touchesOne (hs : s.Filed) (hd : d.Regular) (f : Filter) (c : String) :
    s.TouchesOne f d c := by
  have hreplaced := s.replaced f d c
  constructor
  case one_iff =>
    simp only [hreplaced.one_iff, hs.found_eq_some_iff]
  case places =>
    intro id d₀ hfirst hdiffers
    exact hreplaced.places (hs.found_eq_some_iff.mpr hfirst) hdiffers
  case keeps => exact hreplaced.keeps
  case error_iff =>
    intro e
    rw [hreplaced.error_iff, hs.found_eq_error_iff]
  case otherwise =>
    intro hone hread
    exact hreplaced.otherwise hone fun e he => hread e (hs.found_eq_error_iff.mp he)
  case again =>
    intro hone
    have hagain := (s.replace f d c).2.replaced f d c
    rw [(hreplaced.keeps hone).found_eq] at hagain
    exact hreplaced.answer_eq hagain
  case thenById =>
    intro hone x hx
    obtain ⟨id, d₀, hfound, hdiffers⟩ := hreplaced.one_iff.mp hone
    have hfirst := hs.found_eq_some_iff.mp hfound
    obtain rfl : id = x.toHex := by
      obtain rfl | ⟨d₁, hx⟩ := hx
      · exact hfirst.id_eq hs
      · have hsame := hfound.symm.trans (hs.found_eq_some_iff.mpr hx)
        exact congrArg Prod.fst (Option.some.inj (Except.ok.inj hsame))
    have hthen := (s.replace f d c).2.replaced (.byId x) d c
    rw [(hreplaced.places hfound hdiffers).found_byId hs hd hfirst] at hthen
    cases hread : s.read (d.withId x.toHex) with
    | error e =>
      rw [hread] at hthen
      exact hthen.error_iff.mpr rfl
    | ok d' =>
      rw [hread] at hthen
      exact hthen.answer_of_some

/-- In every store a replacement touches one document at most. The same replacement by id comes to
nothing afterwards if no document stands in its way and the one that has been written is read again
as it was, which is always so in memory. -/
theorem Filed.replace_touchesOne (hs : s.Filed) (hd : d.Regular) (f : Filter) (c : String) :
    s.TouchesOne f d c ∧
      (∀ x, f = .byId x → (∀ e, ¬ s.Stuck f c e) →
        s.read (d.withId x.toHex) = .ok (d.withId x.toHex) →
          ((s.replace f d c).2.replace f d c).1 = .ok 0) ∧
      ∀ m, s = memory m → (∀ e, ¬ s.Stuck f c e) ∧ ∀ d, s.read d = .ok d := by
  have htouches := hs.touchesOne hd f c
  refine ⟨htouches, ?_, ?_⟩
  · rintro x rfl hclear hread
    by_cases hone : (s.replace (.byId x) d c).1 = .ok 1
    · rw [htouches.thenById hone x (.inl rfl), hread]
      have hself : (d.withId x.toHex).same (d.withId x.toHex) = true := (hd.withId _).same_self
      exact congrArg Except.ok (if_pos hself)
    · rw [htouches.again hone]
      exact htouches.otherwise hone hclear
  · rintro m rfl
    exact ⟨fun e => not_stuck_memory, fun d => rfl⟩

/-- A document is found by another of its values, behind one that the filter does not accept, and the
one that takes its place brings an id of its own. -/
theorem replace_touchesOne_assorted :
    let s := (keyed []).through assorted
    let f : Filter := ⟨[("size", .list [.int 1, .null])]⟩
    let d : Document := [("_id", .int 7), ("name", .text "c")]
    s.Filed ∧ d.Regular ∧ s.TouchesOne f d "probes" ∧ (s.replace f d "probes").1 = .ok 1 := by
  intro s f d
  have hs : s.Filed := (orderly_keyed.through regular_assorted).filed
  have hd : d.Regular := by decide
  refine ⟨hs, hd, (hs.replace_touchesOne hd f "probes").1, ?_⟩
  decide +kernel

/-- An id, and a document with a number that is not read back from its own text. -/
def gaugeId : ObjectId := ⟨0x65 :: List.replicate 10 0 ++ [1], rfl⟩

def gauge : Document := [("gain", .float ⟨4607000810146439952⟩)]

/-- A document is replaced twice by the same one, and each replacement counts it as changed: its
number is written with other digits than it was read from, and these are read as the next number. -/
theorem gauge_replaced_twice :
    let s := (keyed []).through [(gaugeId, .insert [] "probes")]
    Json.read "\x7b\"gain\":0.9798373891327134\x7d" = .ok (.object gauge) ∧ s.Filed ∧ gauge.Regular ∧
      (s.replace (.byId gaugeId) gauge "probes").1 = .ok 1 ∧
      ((s.replace (.byId gaugeId) gauge "probes").2.replace (.byId gaugeId) gauge "probes").1 =
        .ok 1 := by
  intro s
  have hs : s.Orderly := by
    refine orderly_keyed.through fun r hr c d hd => ?_
    obtain rfl := List.mem_singleton.mp hr
    obtain ⟨-, rfl⟩ := Prod.mk.inj (Option.some.inj hd)
    decide
  exact ⟨by decide +kernel, hs.filed, by decide +kernel, by decide +kernel, by decide +kernel⟩

end DocumentStore

end Telemetry
