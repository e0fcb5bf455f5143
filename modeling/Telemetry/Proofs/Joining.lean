import Telemetry.Proofs.Completion
import Telemetry.Proofs.Dashboard

/-!
# What was admitted and what joins

A sensor is checked in the form in which it is stored: flattened if it is marked, and as it stands
otherwise. A slot reads it flattened if the sensor or the slot is marked. So a sensor that is not
marked may hold a dynamic part that nobody read before a marked slot does.

* `DocumentStore.Unreadable`: a marked slot names a sensor that is not marked, and whose dynamic part
  does not fit.
* `Experiments.joinSlots_cases`: what comes of joining slots with stored sensors.
* `Experiments.complete_ok_iff`: a stored experiment with stored sensors is completed exactly if it
  has no such slot.
* `Experiments.admitted_sensor_refused`: there are such slots.
-/

namespace Telemetry

/-- A marked slot names a sensor that is not marked and does not make a sensor when it is
flattened. -/
structure DocumentStore.Unreadable (s : DocumentStore) (slot : DeviceSlot) (sensor : Document)
    (fault : DecodeFault) : Prop where
  stored : s.Stored Collection.sensors slot.sensorId sensor
  marked : slot.dynamicSchema.isSome = true
  unmarked : sensor.isDynamic = false
  refused : SensorRecord.ofMembers sensor.flattenDynamic = .error fault

/-- The error of a slot whose sensor cannot be read. -/
def DeviceSlot.unreadable (slot : DeviceSlot) (fault : DecodeFault) : Error :=
  .invalidDocument ("sensor " ++ slot.sensorId ++ ": " ++ fault.message)

namespace Experiments

variable {σ : Type} {b : Backends σ} {s : DocumentStore × σ}

/-! ## One slot -/

/-- An admitted sensor cannot be read by a slot only if the slot is marked and the sensor is not. -/
theorem sensorRecord_error_iff (h : s.1.Sound) {slot : DeviceSlot} {sensor : Document}
    (hd : s.1.Stored Collection.sensors slot.sensorId sensor) {e : Error} :
    slot.sensorRecord sensor = .error e ↔
      ∃ fault, s.1.Unreadable slot sensor fault ∧ e = slot.unreadable fault := by
  obtain ⟨record, hrecord⟩ := Sensors.record_ok_iff.mp ((h.admitted hd).sensor rfl)
  constructor
  · intro he
    unfold DeviceSlot.sensorRecord at he
    cases hm : SensorRecord.ofMembers (slot.sensorDocument sensor) with
    | ok r => simp [hm] at he
    | error fault =>
      simp only [hm, Except.error.injEq] at he
      -- Read as it was checked, the sensor fits. So it is read in the other form.
      have hother : slot.dynamicSchema.isSome = true ∧ sensor.isDynamic = false := by
        unfold DeviceSlot.sensorDocument at hm
        cases hslot : slot.dynamicSchema.isSome <;> cases hsensor : sensor.isDynamic <;>
          simp_all
      have hview : slot.sensorDocument sensor = sensor.flattenDynamic := by
        simp [DeviceSlot.sensorDocument, hother.1]
      exact ⟨fault, ⟨hd, hother.1, hother.2, hview ▸ hm⟩, he.symm⟩
  · rintro ⟨fault, hu, rfl⟩
    have hview : slot.sensorDocument sensor = sensor.flattenDynamic := by
      simp [DeviceSlot.sensorDocument, hu.marked]
    simp [DeviceSlot.sensorRecord, DeviceSlot.unreadable, hview, hu.refused]

/-- A slot with a stored sensor is not joined only if it cannot read this sensor. -/
theorem joinAt_error_iff (h : s.1.Sound) {slot : DeviceSlot}
    (hd : ∃ sensor, s.1.Stored Collection.sensors slot.sensorId sensor) {root experiment : String}
    {index : Nat} {e : Error} : s.1.joinAt root experiment index slot = .error e ↔
      ∃ sensor fault, s.1.Unreadable slot sensor fault ∧ e = slot.unreadable fault := by
  obtain ⟨sensor, hd⟩ := hd
  have hfind := DocumentStore.lookUp_of_stored h hd "sensor"
  have hjoin : s.1.joinAt root experiment index slot = .error e ↔
      slot.sensorRecord sensor = .error e := by
    rw [DocumentStore.joinAt, hfind]
    simp only [bind, Except.bind, DeviceSlot.join]
    cases slot.sensorRecord sensor <;> simp [Except.map]
  rw [hjoin, sensorRecord_error_iff h hd]
  constructor
  · rintro ⟨fault, hu, rfl⟩
    exact ⟨sensor, fault, hu, rfl⟩
  · rintro ⟨sensor', fault, hu, rfl⟩
    obtain rfl := h.stored_unique hd hu.stored
    exact ⟨fault, hu, rfl⟩

/-! ## All slots -/

/-- Slots with stored sensors are joined, or the first of them that cannot read its sensor is the
reason why not. -/
theorem joinSlots_cases (h : s.1.Sound) {slots : List DeviceSlot}
    (hslots : ∀ slot ∈ slots, ∃ sensor, s.1.Stored Collection.sensors slot.sensorId sensor)
    (root experiment : String) (index : Nat) :
    ((∃ devices, Operation.result b.answer (joinSlots root experiment index slots) s =
        .ok devices) ∧ ∀ slot ∈ slots, ∀ sensor fault, ¬ s.1.Unreadable slot sensor fault) ∨
    ∃ slot ∈ slots, ∃ sensor fault, s.1.Unreadable slot sensor fault ∧
      Operation.result b.answer (joinSlots root experiment index slots) s =
        .error (slot.unreadable fault) := by
  rw [result_joinSlots]
  have herror : ∀ p ∈ slots.zipIdx index, ∀ e, s.1.joinAt root experiment p.2 p.1 = .error e ↔
      ∃ sensor fault, s.1.Unreadable p.1 sensor fault ∧ e = p.1.unreadable fault :=
    fun p hp e => joinAt_error_iff h (hslots p.1 (List.fst_mem_of_mem_zipIdx hp))
  cases hresult : (slots.zipIdx index).mapM fun p => s.1.joinAt root experiment p.2 p.1 with
  | error e =>
    obtain ⟨pre, p, post, hp, -, hfailed⟩ := mapM_eq_error_iff.mp hresult
    have hmem : p ∈ slots.zipIdx index := by simp [hp]
    obtain ⟨sensor, fault, hu, rfl⟩ := (herror p hmem e).mp hfailed
    exact .inr ⟨p.1, List.fst_mem_of_mem_zipIdx hmem, sensor, fault, hu, rfl⟩
  | ok devices =>
    refine .inl ⟨⟨devices, rfl⟩, fun slot hslot sensor fault hu => ?_⟩
    obtain ⟨i, hi⟩ := List.mem_iff_getElem?.mp hslot
    have hmem : (slot, index + i) ∈ slots.zipIdx index :=
      List.mem_of_getElem? (i := i) (by rw [List.getElem?_zipIdx, hi]; rfl)
    obtain ⟨device, hdevice⟩ := exists_mapM_eq_ok_iff.mp ⟨devices, hresult⟩ _ hmem
    cases hdevice.symm.trans ((herror _ hmem _).mpr ⟨sensor, fault, hu, rfl⟩)

/-- In a reachable state every stored experiment can be read. If its slots name stored sensors, it is
completed exactly if no marked slot names a sensor that is not marked and cannot be read flattened;
such a slot is the only reason to fail. -/
theorem complete_ok_iff (hs : Reachable b s) {id : String} {d : Document}
    (hd : s.1.Stored Collection.experiments id d) (root : String) :
    ∃ record, ExperimentRecord.ofDocument d = .ok record ∧
      ((∀ slot ∈ record.devices, ∃ sensor,
          s.1.Stored Collection.sensors slot.sensorId sensor) →
        ((∃ e, Operation.result b.answer (complete root id) s = .ok e) ↔
          ∀ slot ∈ record.devices, ∀ sensor fault, ¬ s.1.Unreadable slot sensor fault) ∧
        ∀ error, Operation.result b.answer (complete root id) s = .error error →
          ∃ slot ∈ record.devices, ∃ sensor fault, s.1.Unreadable slot sensor fault ∧
            error = slot.unreadable fault) := by
  have hsound := hs.sound
  obtain ⟨record, hrecord⟩ := (hsound.admitted hd).experiment rfl
  refine ⟨record, hrecord, fun hslots => ?_⟩
  have hraw : Operation.result b.answer (raw id) s = .ok d :=
    Operation.find_of_stored hsound hd "experiment"
  have hstore : (Operation.after b.answer (raw id) s).1 = s.1 := Operation.after_fst
    (Operation.asksOnly_find fun x => Operation.writesNothing_select _ _) s
  have hread : Operation.result b.answer (Operation.ofExcept (ExperimentRecord.ofDocument d))
      (Operation.after b.answer (raw id) s) = .ok record := hrecord
  rw [complete, Operation.result_bind_of_ok hraw, Operation.result_bind_of_ok hread]
  obtain ⟨⟨devices, hdevices⟩, hall⟩ | ⟨slot, hmem, sensor, fault, hu, herror⟩ :=
    joinSlots_cases (b := b) (s := Operation.after b.answer (raw id) s) (hstore ▸ hsound)
      (hstore ▸ hslots) root (record.id.getD id) 0
  · rw [hstore] at hall
    have hok := Operation.result_bind_of_ok hdevices fun devices => do
      Operation.log (joined (record.id.getD id) devices.length)
      return (⟨record.id.getD id, record.description, devices⟩ : CompleteExperiment)
    refine ⟨⟨fun _ => hall, fun _ => ⟨_, hok⟩⟩, fun error herror => ?_⟩
    cases hok.symm.trans herror
  · rw [hstore] at hu
    have herror := Operation.result_bind_of_error herror fun devices => do
      Operation.log (joined (record.id.getD id) devices.length)
      return (⟨record.id.getD id, record.description, devices⟩ : CompleteExperiment)
    refine ⟨⟨fun ⟨e, he⟩ => ?_, fun hall => absurd hu (hall slot hmem sensor fault)⟩, ?_⟩
    · cases herror.symm.trans he
    · intro error he
      exact ⟨slot, hmem, sensor, fault, hu, (Except.error.inj (herror.symm.trans he)).symm⟩

/-! ## Two experiments -/

/-- A store in memory into which a sensor and an experiment were put. -/
def furnishedWith (sensor experiment : Document) : DocumentStore × Unit :=
  Operation.after Dashboard.quiet.answer
    (Change.insertExperiment "qiot" none experiment).operation
    (Operation.after Dashboard.quiet.answer (Change.insertSensor sensor).operation
      (.memory [], ()))

theorem reachable_furnishedWith (sensor experiment : Document) :
    Reachable Dashboard.quiet (furnishedWith sensor experiment) :=
  .change (.insertExperiment "qiot" none experiment)
    (.change (.insertSensor sensor) (.memory ()) trivial)
    ((Operation.preserves_after _ _).mpr trivial)

/-- If the only slot of an experiment names a stored sensor, every slot does. -/
theorem forall_slot_stored {s : DocumentStore} {id : String} {sensor experiment : Document}
    {record : ExperimentRecord} (hsensor : s.Stored Collection.sensors id sensor)
    (hslots : (ExperimentRecord.ofDocument experiment).map
      (fun r => r.devices.map DeviceSlot.sensorId) = .ok [id])
    (hrecord : ExperimentRecord.ofDocument experiment = .ok record) :
    ∀ slot ∈ record.devices, ∃ sensor, s.Stored Collection.sensors slot.sensorId sensor := by
  intro slot hslot
  have hid : record.devices.map DeviceSlot.sensorId = [id] := by
    rw [hrecord] at hslots
    exact Except.ok.inj hslots
  have hmem := List.mem_map_of_mem (f := DeviceSlot.sensorId) hslot
  rw [hid, List.mem_singleton] at hmem
  exact ⟨sensor, hmem ▸ hsensor⟩

/-- The ids of the sensor and of the experiment. -/
def sensorId : ObjectId := ⟨[0x65, 0, 0, 0, 0, 0, 0, 0, 0, 0, 0, 1], rfl⟩

def experimentId : ObjectId := ⟨[0x65, 0, 0, 0, 0, 0, 0, 0, 0, 0, 0, 0xaa], rfl⟩

/-- A sensor without a mark and without a dynamic part can be read by every slot, and so the
experiment is completed. -/
theorem complete_ok_greenhouse :
    Reachable Dashboard.quiet (furnishedWith Dashboard.hygrometer Dashboard.greenhouse) ∧
    ∃ e, Operation.result Dashboard.quiet.answer (complete "qiot" experimentId.toHex)
      (furnishedWith Dashboard.hygrometer Dashboard.greenhouse) = .ok e := by
  have hreachable := reachable_furnishedWith Dashboard.hygrometer Dashboard.greenhouse
  have hsensor : (furnishedWith Dashboard.hygrometer Dashboard.greenhouse).1.Stored
      Collection.sensors sensorId.toHex Dashboard.hygrometer :=
    ⟨⟨[Dashboard.hygrometer], by decide +kernel, by simp⟩, sensorId, by decide +kernel,
      by decide +kernel⟩
  have hexperiment : (furnishedWith Dashboard.hygrometer Dashboard.greenhouse).1.Stored
      Collection.experiments experimentId.toHex Dashboard.greenhouse :=
    ⟨⟨[Dashboard.greenhouse], by decide +kernel, by simp⟩, experimentId, by decide +kernel,
      by decide +kernel⟩
  obtain ⟨record, hrecord, hjoin⟩ := complete_ok_iff hreachable hexperiment "qiot"
  have hstored := forall_slot_stored hsensor (by decide +kernel) hrecord
  refine ⟨hreachable, (hjoin hstored).1.mpr fun slot hslot sensor fault hu => ?_⟩
  have hmarks : record.devices.map (fun slot => slot.dynamicSchema.isSome) = [false] := by
    have hcomputed : (ExperimentRecord.ofDocument Dashboard.greenhouse).map
        (fun r => r.devices.map fun slot => slot.dynamicSchema.isSome) = .ok [false] := by
      decide +kernel
    rw [hrecord] at hcomputed
    exact Except.ok.inj hcomputed
  have hmem := List.mem_map_of_mem (f := fun slot => slot.dynamicSchema.isSome) hslot
  rw [hmarks, List.mem_singleton, hu.marked] at hmem
  cases hmem

/-- A sensor without a mark, with a dynamic part in which the services are no list. -/
def sketch : Document :=
  [("_id", .text "650000000000000000000001"),
    ("dynamicJson", .object [("services", .text "none")]), ("name", .text "Thermo"),
    ("shortName", .text "th")]

/-- An experiment with a marked slot for this sensor. -/
def bench : Document :=
  [("_id", .text "6500000000000000000000aa"),
    ("devices", .list [.object [("dynamicSchema", .bool true), ("macAddress", .text "AA:01"),
      ("sensorId", .text "650000000000000000000001")]])]

/-- A sensor was admitted, every slot of the experiment names it, and the experiment is not completed
because the sensor is refused. -/
theorem admitted_sensor_refused : ∃ s id d,
    Reachable Dashboard.quiet s ∧ s.1.Stored Collection.experiments id d ∧
    (∃ record, ExperimentRecord.ofDocument d = .ok record ∧ ∀ slot ∈ record.devices,
      ∃ sensor, s.1.Stored Collection.sensors slot.sensorId sensor) ∧
    Operation.result Dashboard.quiet.answer (complete "qiot" id) s = .error (.invalidDocument
      "sensor 650000000000000000000001: invalid type: string \"none\", expected a sequence") := by
  have hsensor : (furnishedWith sketch bench).1.Stored Collection.sensors sensorId.toHex sketch :=
    ⟨⟨[sketch], by decide +kernel, by simp⟩, sensorId, by decide +kernel, by decide +kernel⟩
  have hexperiment : (furnishedWith sketch bench).1.Stored Collection.experiments
      experimentId.toHex bench :=
    ⟨⟨[bench], by decide +kernel, by simp⟩, experimentId, by decide +kernel, by decide +kernel⟩
  have hreachable := reachable_furnishedWith sketch bench
  obtain ⟨record, hrecord⟩ := (hreachable.sound.admitted hexperiment).experiment rfl
  exact ⟨furnishedWith sketch bench, experimentId.toHex, bench, hreachable, hexperiment,
    ⟨record, hrecord, forall_slot_stored hsensor (by decide +kernel) hrecord⟩,
    by decide +kernel⟩

end Experiments

end Telemetry
