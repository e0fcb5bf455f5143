import Telemetry.Proofs.Attained
import Telemetry.Proofs.Flattening

/-!
# Sensors under their ids

A sensor is shown with the members of its dynamic part in the place of its own, the id among them.

* `Document.BringsOtherId`: the dynamic part of a marked document has something else for an id.
* `Sensors.read_by_id`: which sensors are listed, read and shown under an id; the three agree on the
  id exactly if the dynamic part does not bring another.
* `Sensors.nested_id_shown`: a sensor that is shown with the id of its dynamic part.
-/

namespace Telemetry

namespace Document

variable {d : Document} {id : String}

/-- The document as it is shown: flattened, if it is marked. -/
def shown (d : Document) : Document := if d.isDynamic then d.flattenDynamic else d

/-- The document is marked, and its dynamic part has something else for an id. -/
def BringsOtherId (d : Document) (id : String) : Prop :=
  d.isDynamic = true ∧ ∃ v, d.dynamicMembers.get? idKey = some v ∧ v ≠ .text id

/-- Reading a document from its text reads its dynamic part. -/
theorem dynamicMembers_reread (d : Document) :
    d.reread.dynamicMembers = d.dynamicMembers.mapValues Json.reread := by
  unfold dynamicMembers
  rw [reread, Entries.get?_mapValues]
  cases d.get? dynamicContent with
  | none => rfl
  | some v =>
    cases v with
    | object m => exact Json.rereadMembers_eq m
    | _ => rfl

theorem Regular.sorted_dynamicMembers_view (h : d.Regular) (s : DocumentStore) :
    (s.view d).dynamicMembers.Sorted := by
  cases s with
  | memory s => exact h.sorted_dynamicMembers
  | keyed s =>
    show d.reread.dynamicMembers.Sorted
    rw [dynamicMembers_reread]
    exact h.sorted_dynamicMembers.mapValues _

/-- A document is shown under its own id exactly if its dynamic part does not bring another. -/
theorem get?_shown_iff (h : d.dynamicMembers.Sorted) (hid : d.get? idKey = some (.text id)) :
    d.shown.get? idKey = some (.text id) ↔ ¬ d.BringsOtherId id := by
  unfold shown BringsOtherId
  by_cases hd : d.isDynamic = true
  · rw [if_pos hd, get?_flattenDynamic h (by decide), ← get?_dynamicMembers, hid]
    cases d.dynamicMembers.get? idKey <;> simp [hd]
  · simp [hd, hid]

end Document

/-- A document that is selected is read from a regular one. -/
theorem DocumentStore.Orderly.sorted_dynamicMembers {s : DocumentStore} (h : s.Orderly) {c : String}
    {x : ObjectId} {d : Document} (hd : s.select (.byId x) c = .ok [d]) :
    d.dynamicMembers.Sorted := by
  obtain ⟨m, hm, hw, hregular⟩ := h
  rw [hm.select_byId hw (hregular c)] at hd
  obtain ⟨d₀, hd₀, hread⟩ := (mem_mapM_iff hd).mp (List.mem_singleton.mpr rfl)
  have hd₀ : d₀.Regular := hregular c _ (Entries.mem_of_get? (Option.mem_toList.mp hd₀))
  by_cases hfit : s.Fits d₀
  · rw [DocumentStore.read_of_fits hd₀ hfit] at hread
    rw [← Except.ok.inj hread]
    exact hd₀.sorted_dynamicMembers_view s
  · rw [DocumentStore.read_of_not_fits hd₀ hfit] at hread
    cases hread

namespace Sensors

variable {σ : Type} {b : Backends σ} {s : DocumentStore × σ}

theorem result_get {id : String} {d : Document} (h : Operation.result b.answer (raw id) s = .ok d) :
    Operation.result b.answer (get id) s = .ok d.shown := by
  rw [get, Operation.result_bind_of_ok h]
  rfl

/-- In every state that changes of regular documents lead to, what is listed as a sensor is what is
read under the texts of its id, and under no other id. It is shown under these texts too, and with
this id exactly if its dynamic part does not bring another. -/
theorem read_by_id (h : Attained b s) :
    (∀ ds, Operation.result b.answer list s = .ok ds → ∀ d ∈ ds, ∃ x : ObjectId,
      d.get? idKey = some (.text x.toHex) ∧ ∀ id, ObjectId.parse id = .ok x →
        Operation.result b.answer (raw id) s = .ok d) ∧
    ∀ id, (∀ e, Operation.result b.answer (raw id) s = .error e →
        Operation.result b.answer (get id) s = .error e) ∧
      ∀ d, Operation.result b.answer (raw id) s = .ok d →
        ∃ x, ObjectId.parse id = .ok x ∧ d.get? idKey = some (.text x.toHex) ∧
          (∀ ds, Operation.result b.answer list s = .ok ds →
            d ∈ ds ∧ ∀ d' ∈ ds, d'.get? idKey = some (.text x.toHex) → d' = d) ∧
          Operation.result b.answer (get id) s = .ok d.shown ∧
          (d.shown.get? idKey = some (.text x.toHex) ↔ ¬ d.BringsOtherId x.toHex) := by
  have hlist : ∀ ds, Operation.result b.answer list s = .ok ds →
      s.1.select .all Collection.sensors = .ok ds := fun ds =>
    Operation.result_select_eq_ok_iff.mp
  have hid : ∀ x d, s.1.select (.byId x) Collection.sensors = .ok [d] →
      d.get? idKey = some (.text x.toHex) := fun x d hd =>
    DocumentStore.id_of_select_byId hd d (List.mem_singleton.mpr rfl)
  constructor
  · intro ds hds d hd
    obtain ⟨x, hx⟩ := (h.orderly.mem_select_all_iff (hlist ds hds)).mp hd
    exact ⟨x, hid x d hx, fun id hparse => (Operation.find_ok_iff h.orderly).mpr ⟨x, hparse, hx⟩⟩
  · intro id
    refine ⟨fun e he => Operation.result_bind_of_error he _, fun d hd => ?_⟩
    obtain ⟨x, hparse, hx⟩ := (Operation.find_ok_iff h.orderly).mp hd
    refine ⟨x, hparse, hid x d hx, fun ds hds => ⟨?_, fun d' hd' hsame => ?_⟩, result_get hd,
      Document.get?_shown_iff (h.orderly.sorted_dynamicMembers hx) (hid x d hx)⟩
    · exact (h.orderly.mem_select_all_iff (hlist ds hds)).mpr ⟨x, hx⟩
    · obtain ⟨y, hy⟩ := (h.orderly.mem_select_all_iff (hlist ds hds)).mp hd'
      have htext := Json.text.inj (Option.some.inj ((hid y d' hy).symm.trans hsame))
      obtain rfl : y = x := ObjectId.toHex_injective htext
      exact (List.cons.inj (Except.ok.inj (hy.symm.trans hx))).1

/-- A sensor without a dynamic part is listed, read and shown under its id. -/
theorem read_by_id_hygrometer :
    Attained Dashboard.quiet
      (Experiments.furnishedWith Dashboard.hygrometer Dashboard.greenhouse) ∧
    ∃ d ds, Operation.result Dashboard.quiet.answer list
        (Experiments.furnishedWith Dashboard.hygrometer Dashboard.greenhouse) = .ok ds ∧
      d ∈ ds ∧ d.get? idKey = some (.text Experiments.sensorId.toHex) ∧
      Operation.result Dashboard.quiet.answer (get Experiments.sensorId.toHex)
        (Experiments.furnishedWith Dashboard.hygrometer Dashboard.greenhouse) = .ok d := by
  have hattained : Attained Dashboard.quiet
      (Experiments.furnishedWith Dashboard.hygrometer Dashboard.greenhouse) :=
    attained_furnishedWith (by decide +kernel) (by decide +kernel)
  have hlist : Operation.result Dashboard.quiet.answer list
      (Experiments.furnishedWith Dashboard.hygrometer Dashboard.greenhouse) =
        .ok [Dashboard.hygrometer] := by decide +kernel
  have hid : Dashboard.hygrometer.get? idKey = some (.text Experiments.sensorId.toHex) := by
    decide +kernel
  obtain ⟨hlisted, hread⟩ := read_by_id hattained
  obtain ⟨x, hx, hraw⟩ := hlisted _ hlist Dashboard.hygrometer (by simp)
  obtain rfl : Experiments.sensorId = x :=
    ObjectId.toHex_injective (Json.text.inj (Option.some.inj (hid.symm.trans hx)))
  have hraw := hraw _ Experiments.sensorId.parse_toHex
  obtain ⟨x, -, -, -, hget, -⟩ := (hread _).2 _ hraw
  exact ⟨hattained, Dashboard.hygrometer, _, hlist, by simp, hid, hget⟩

/-- A sensor with an id in its dynamic part. -/
def impostor : Document :=
  [("_id", .text "650000000000000000000001"),
    ("dynamicJson", .object [("_id", .text "650000000000000000000002")]),
    ("dynamicSchema", .bool true), ("name", .text "Thermo"), ("shortName", .text "th")]

/-- A sensor was stored under one id, and under this id it is shown with another. -/
theorem nested_id_shown : ∃ s, ∃ x : ObjectId, ∃ d,
    Attained Dashboard.quiet s ∧
    Operation.result Dashboard.quiet.answer (raw x.toHex) s = .ok impostor ∧
    impostor.get? idKey = some (.text x.toHex) ∧
    Operation.result Dashboard.quiet.answer (get x.toHex) s = .ok d ∧
    d.get? idKey = some (.text "650000000000000000000002") ∧
    x.toHex ≠ "650000000000000000000002" :=
  ⟨Experiments.furnishedWith impostor Dashboard.greenhouse, Experiments.sensorId, impostor.shown,
    attained_furnishedWith (by decide +kernel) (by decide +kernel), by decide +kernel,
    by decide +kernel, by decide +kernel, by decide +kernel, by decide +kernel⟩

end Sensors

end Telemetry
