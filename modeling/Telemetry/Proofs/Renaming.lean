import Telemetry.Proofs.Experiments
import Telemetry.Proofs.Results

/-!
# Documents under another id

A document is checked as it comes and stored under an id that may be another text. The check does not
depend on it.

* `Renamed`: two documents that differ in the id only, which is a text in the second; flattening
  keeps them so.
* `Admitted.withId`: what is admitted is admitted under every id.
-/

namespace Telemetry

/-- Every key holds the same in both documents, except that the id may be another text. -/
def Renamed (d d' : Document) : Prop :=
  ∀ key, d'.get? key = d.get? key ∨ key = idKey ∧ ∃ id, d'.get? key = some (.text id)

namespace Renamed

variable {d d' : Document}

theorem withId (d : Document) (id : String) : Renamed d (d.withId id) := by
  intro key
  rw [Document.withId, Entries.get?_insert]
  split
  · next h => exact .inr ⟨h, id, rfl⟩
  · exact .inl rfl

theorem get?_eq (h : Renamed d d') {key : String} (hkey : key ≠ idKey) :
    d'.get? key = d.get? key := by
  obtain heq | ⟨hid, -⟩ := h key
  · exact heq
  · exact absurd hid hkey

theorem field?_eq {α : Type} (h : Renamed d d') {key : String} (hkey : key ≠ idKey)
    (decode : Json → Decoded α) : d'.field? key decode = d.field? key decode := by
  simp only [Entries.field?, h.get?_eq hkey]

/-- If the id of one document is an optional text, so is that of the other. -/
theorem exists_id (h : Renamed d d') {x : Option (Option String)}
    (hx : d.field? idKey (Json.decodeOption Json.decodeText) = .ok x) :
    ∃ y, d'.field? idKey (Json.decodeOption Json.decodeText) = .ok y := by
  obtain heq | ⟨-, id, hid⟩ := h idKey
  · exact ⟨x, by rw [← hx, Entries.field?, Entries.field?, heq]⟩
  · exact ⟨some (some id), by rw [Entries.field?, hid]; rfl⟩

/-! ## Flattening -/

theorem insert (h : Renamed d d') (key : String) (v : Json) :
    Renamed (d.insert key v) (d'.insert key v) := by
  intro key'
  rw [Entries.get?_insert, Entries.get?_insert]
  split
  · exact .inl rfl
  · exact h key'

theorem erase (h : Renamed d d') (key : String) : Renamed (d.erase key) (d'.erase key) := by
  intro key'
  rw [Entries.get?_erase, Entries.get?_erase]
  split
  · exact .inl rfl
  · exact h key'

theorem union (h : Renamed d d') (m : Entries Json) : Renamed (d.union m) (d'.union m) := by
  induction m generalizing d d' with
  | nil => exact h
  | cons e m ih => exact ih (h.insert e.1 e.2)

theorem isDynamic_eq (h : Renamed d d') : d'.isDynamic = d.isDynamic := by
  rw [Document.isDynamic, Document.isDynamic, Entries.contains, Entries.contains,
    h.get?_eq (by decide)]

theorem flattenDynamic (h : Renamed d d') : Renamed d.flattenDynamic d'.flattenDynamic := by
  have hmembers : d'.dynamicMembers = d.dynamicMembers := by
    rw [Document.dynamicMembers, Document.dynamicMembers, h.get?_eq (by decide)]
  rw [Document.flattenDynamic, Document.flattenDynamic, hmembers]
  exact ((h.erase _).erase _).union _

/-! ## Checks -/

theorem sensor (h : Renamed d d') {r : SensorRecord} (hr : SensorRecord.ofMembers d = .ok r) :
    ∃ r', SensorRecord.ofMembers d' = .ok r' := by
  obtain ⟨id, hid, hr⟩ := bind_eq_ok_iff.mp hr
  obtain ⟨address, haddress, hr⟩ := bind_eq_ok_iff.mp hr
  obtain ⟨whiteboard, hwhiteboard, hr⟩ := bind_eq_ok_iff.mp hr
  obtain ⟨name, hname, hr⟩ := bind_eq_ok_iff.mp hr
  obtain ⟨services, hservices, hr⟩ := bind_eq_ok_iff.mp hr
  obtain ⟨shortName, hshortName, -⟩ := bind_eq_ok_iff.mp hr
  obtain ⟨id', hid'⟩ := h.exists_id hid
  unfold SensorRecord.ofMembers
  rw [hid', h.field?_eq (by decide), haddress, h.field?_eq (by decide), hwhiteboard,
    h.field?_eq (by decide), hname, h.field?_eq (by decide), hservices, h.field?_eq (by decide),
    hshortName]
  exact ⟨_, rfl⟩

theorem experiment (h : Renamed d d') {r : ExperimentRecord}
    (hr : ExperimentRecord.ofMembers d = .ok r) : ∃ r', ExperimentRecord.ofMembers d' = .ok r' := by
  obtain ⟨id, hid, hr⟩ := bind_eq_ok_iff.mp hr
  obtain ⟨description, hdescription, hr⟩ := bind_eq_ok_iff.mp hr
  obtain ⟨devices, hdevices, -⟩ := bind_eq_ok_iff.mp hr
  obtain ⟨id', hid'⟩ := h.exists_id hid
  unfold ExperimentRecord.ofMembers
  rw [hid', h.field?_eq (by decide), hdescription, h.field?_eq (by decide), hdevices]
  exact ⟨_, rfl⟩

end Renamed

theorem Sensors.record_ok_iff {d : Document} : (∃ r, record d = .ok r) ↔
    ∃ r, SensorRecord.ofMembers (if d.isDynamic then d.flattenDynamic else d) = .ok r := by
  simp only [record]
  cases SensorRecord.ofMembers (if d.isDynamic then d.flattenDynamic else d) <;> simp

theorem ExperimentRecord.ofDocument_ok_iff {d : Document} :
    (∃ r, ofDocument d = .ok r) ↔ ∃ r, ofMembers d = .ok r := by
  unfold ofDocument
  cases ofMembers d <;> simp

/-- What is admitted is admitted under every id. -/
theorem Admitted.withId {collection : String} {d : Document} (h : Admitted collection d)
    (id : String) : Admitted collection (d.withId id) where
  sensor hc := by
    obtain ⟨r, hr⟩ := Sensors.record_ok_iff.mp (h.sensor hc)
    have hrenamed := Renamed.withId d id
    rw [Sensors.record_ok_iff, hrenamed.isDynamic_eq]
    cases hd : d.isDynamic with
    | true => exact hrenamed.flattenDynamic.sensor (by simpa [hd] using hr)
    | false => exact hrenamed.sensor (by simpa [hd] using hr)
  experiment hc := by
    obtain ⟨r, hr⟩ := ExperimentRecord.ofDocument_ok_iff.mp (h.experiment hc)
    exact ExperimentRecord.ofDocument_ok_iff.mpr ((Renamed.withId d id).experiment hr)

end Telemetry
