import Telemetry.Proofs.Dashboard
import Telemetry.Proofs.Reachable
import Telemetry.Proofs.Slots

/-!
# Complete experiments

An experiment is completed slot after slot. What is found for a slot depends on the documents only,
and nothing is written on the way, so that the outcome is that of a computation on the store.

* `DocumentStore.lookUp`: the document under an id, or why there is none; `Operation.result_find_eq`
  says that it is what is found.
* `DocumentStore.joinAt`: a slot joined with the sensor that it names.
* `Experiments.result_joinSlots`: what comes of all slots, one after the other.
* `DocumentStore.Completes`: what comes of an experiment: every slot is joined, or the first that
  cannot be is the reason why not.
* `Experiments.enabled_services_joined`: what is joined, in which order, and what for.
-/

namespace Telemetry

namespace DocumentStore

/-- The document under an id of a collection; `what` says what it is. -/
def lookUp (s : DocumentStore) (id c what : String) : Except Error Document := do
  let x ← ObjectId.parseId id
  match ← (s.select (.byId x) c).mapError StoreError.toError with
  | d :: _ => return d
  | [] => throw (.notFound (what ++ " " ++ id))

/-- The slot at a place of an experiment, joined with the sensor that it names. -/
def joinAt (s : DocumentStore) (root experiment : String) (index : Nat) (slot : DeviceSlot) :
    Except Error CompleteDevice := do
  slot.join index experiment root (← s.lookUp slot.sensorId Collection.sensors "sensor")

theorem joinAt_eq_ok_iff {s : DocumentStore} {root experiment : String} {index : Nat}
    {slot : DeviceSlot} {device : CompleteDevice} :
    s.joinAt root experiment index slot = .ok device ↔
      ∃ sensor, s.lookUp slot.sensorId Collection.sensors "sensor" = .ok sensor ∧
        slot.join index experiment root sensor = .ok device := by
  unfold joinAt
  cases s.lookUp slot.sensorId Collection.sensors "sensor" <;> simp [bind, Except.bind]

/-- A stored document is found under every text that writes its id. -/
theorem lookUp_of_stored {s : DocumentStore} (h : s.Sound) {id c : String} {d : Document}
    (hd : s.Stored c id d) (what : String) : s.lookUp id c what = .ok d := by
  obtain ⟨x, hx, hone⟩ := h.select_byId hd
  rw [lookUp, ObjectId.parseId_eq_ok_iff.mpr hx]
  simp only [bind, Except.bind, hone]
  rfl

/-- What comes of completing an experiment. -/
inductive Completes (s : DocumentStore) (root id : String) : Except Error CompleteExperiment → Prop
  /-- There is no such experiment. -/
  | unknown {e : Error} : s.lookUp id Collection.experiments "experiment" = .error e →
    Completes s root id (.error e)
  /-- The document of the experiment is no record. -/
  | unreadable {d : Document} {e : Error} :
    s.lookUp id Collection.experiments "experiment" = .ok d →
      ExperimentRecord.ofDocument d = .error e → Completes s root id (.error e)
  /-- A slot is the first that cannot be joined. -/
  | refused {d : Document} {record : ExperimentRecord} {i : Nat} {slot : DeviceSlot} {e : Error} :
    s.lookUp id Collection.experiments "experiment" = .ok d →
      ExperimentRecord.ofDocument d = .ok record → record.devices[i]? = some slot →
        s.joinAt root (record.id.getD id) i slot = .error e →
          (∀ j < i, ∀ slot', record.devices[j]? = some slot' →
            ∃ device, s.joinAt root (record.id.getD id) j slot' = .ok device) →
              Completes s root id (.error e)
  /-- Every slot is joined. -/
  | joined {d : Document} {record : ExperimentRecord} {devices : List CompleteDevice} :
    s.lookUp id Collection.experiments "experiment" = .ok d →
      ExperimentRecord.ofDocument d = .ok record → devices.length = record.devices.length →
        (∀ i slot, record.devices[i]? = some slot → ∃ device, devices[i]? = some device ∧
          s.joinAt root (record.id.getD id) i slot = .ok device) →
            Completes s root id (.ok ⟨record.id.getD id, record.description, devices⟩)

end DocumentStore

section

variable {σ : Type} {b : Backends σ} {s : DocumentStore × σ}

/-- What is found depends on the documents only. -/
theorem Operation.result_find_eq (id c what : String) (s : DocumentStore × σ) :
    result b.answer (find id c what) s = s.1.lookUp id c what := by
  unfold DocumentStore.lookUp
  cases hx : ObjectId.parseId id with
  | error e =>
    have hparse : result b.answer (ofExcept (ObjectId.parseId id)) s = .error e := hx
    exact result_bind_of_error hparse _
  | ok x =>
    rw [result_find (ObjectId.parseId_eq_ok_iff.mp hx)]
    simp only [bind, Except.bind]
    cases s.1.select (.byId x) c with
    | error e => rfl
    | ok ds => cases ds <;> rfl

namespace Experiments

variable {root experiment : String} {index : Nat} {slot : DeviceSlot}

/-! ## One slot -/

theorem result_logAll (es : List LogEvent) (s : DocumentStore × σ) :
    Operation.result b.answer (Operation.logAll es) s = .ok () := by
  induction es generalizing s with
  | nil => rfl
  | cons e es ih =>
    have he : Operation.result b.answer (Operation.log e) s = .ok () := rfl
    rw [Operation.logAll, Operation.result_bind_of_ok he]
    exact ih _

/-- A slot is joined with the document that is found for it. -/
theorem result_joinSlot (root experiment : String) (index : Nat) (slot : DeviceSlot)
    (s : DocumentStore × σ) : Operation.result b.answer (joinSlot root experiment index slot) s =
      s.1.joinAt root experiment index slot := by
  have hfind : Operation.result b.answer (sensorOf slot) s =
      s.1.lookUp slot.sensorId Collection.sensors "sensor" := Operation.result_find_eq ..
  unfold DocumentStore.joinAt joinSlot
  cases hsensor : s.1.lookUp slot.sensorId Collection.sensors "sensor" with
  | error e => exact Operation.result_bind_of_error (hfind.trans hsensor) _
  | ok sensor =>
    rw [Operation.result_bind_of_ok (hfind.trans hsensor)]
    simp only [bind, Except.bind, DeviceSlot.join]
    cases hr : slot.sensorRecord sensor with
    | error e => exact Operation.result_bind_of_error rfl _
    | ok record =>
      have hrecord : Operation.result b.answer (Operation.ofExcept (.ok record))
        (Operation.after b.answer (sensorOf slot) s) = .ok record := rfl
      refine (Operation.result_bind_of_ok hrecord _).trans ?_
      refine (Operation.result_bind_of_ok (result_logAll ..) _).trans ?_
      rfl

theorem writesNothing_sensorOf (slot : DeviceSlot) :
    (sensorOf slot).run.AsksOnly OperationStep.WritesNothing :=
  Operation.asksOnly_find fun _ => Operation.writesNothing_select _ _

theorem writesNothing_joinSlot (root experiment : String) (index : Nat) (slot : DeviceSlot) :
    (joinSlot root experiment index slot).run.AsksOnly OperationStep.WritesNothing := by
  refine Operation.asksOnly_bind (writesNothing_sensorOf slot) fun sensor => ?_
  refine Operation.asksOnly_bind (Operation.asksOnly_ofExcept _) fun record => ?_
  exact Operation.asksOnly_bind
    (Operation.asksOnly_logAll (fun e => Operation.writesNothing_sync _) _) fun _ =>
      Operation.asksOnly_pure _

/-! ## All slots -/

/-- The slots are joined one after the other, all with the same documents. -/
theorem result_joinSlots (root experiment : String) (index : Nat) (slots : List DeviceSlot)
    (s : DocumentStore × σ) :
    Operation.result b.answer (joinSlots root experiment index slots) s =
      (slots.zipIdx index).mapM fun p => s.1.joinAt root experiment p.2 p.1 := by
  induction slots generalizing s index with
  | nil => rfl
  | cons slot slots ih =>
    have hslot := result_joinSlot (b := b) root experiment index slot s
    rw [joinSlots, List.zipIdx_cons, List.mapM_cons]
    cases hdevice : s.1.joinAt root experiment index slot with
    | error e => exact Operation.result_bind_of_error (hslot.trans hdevice) _
    | ok device =>
      -- Joining a slot logs and selects, so that the next one finds the same documents.
      have hstore := Operation.after_fst (b := b)
        (writesNothing_joinSlot root experiment index slot) s
      have hrest := ih (index + 1) (Operation.after b.answer (joinSlot root experiment index slot) s)
      rw [hstore] at hrest
      rw [Operation.result_bind_of_ok (hslot.trans hdevice)]
      cases hdevices : (slots.zipIdx (index + 1)).mapM fun p =>
          s.1.joinAt root experiment p.2 p.1 with
      | error e =>
        exact Operation.result_bind_of_error (hrest.trans hdevices) _
      | ok devices =>
        exact Operation.result_bind_of_ok (hrest.trans hdevices) _

/-- What comes of completing an experiment, in every state of the stores. -/
theorem complete_completes (b : Backends σ) (root id : String) (s : DocumentStore × σ) :
    s.1.Completes root id (Operation.result b.answer (complete root id) s) := by
  have hraw : Operation.result b.answer (raw id) s =
      s.1.lookUp id Collection.experiments "experiment" := Operation.result_find_eq ..
  unfold complete
  cases hd : s.1.lookUp id Collection.experiments "experiment" with
  | error e =>
    rw [Operation.result_bind_of_error (hraw.trans hd)]
    exact .unknown hd
  | ok d =>
    rw [Operation.result_bind_of_ok (hraw.trans hd)]
    cases hrecord : ExperimentRecord.ofDocument d with
    | error e =>
      have hread : Operation.result b.answer (Operation.ofExcept (.error e))
        (Operation.after b.answer (raw id) s) = (.error e : Except Error ExperimentRecord) := rfl
      rw [Operation.result_bind_of_error hread]
      exact .unreadable hd hrecord
    | ok record =>
      have hread : Operation.result b.answer (Operation.ofExcept (.ok record))
        (Operation.after b.answer (raw id) s) = .ok record := rfl
      have hstore : (Operation.after b.answer (raw id) s).1 = s.1 := Operation.after_fst
        (Operation.asksOnly_find fun x => Operation.writesNothing_select _ _) s
      rw [Operation.result_bind_of_ok hread]
      have hplace : ∀ i slot, record.devices[i]? = some slot →
          record.devices.zipIdx[i]? = some (slot, i) := fun i slot hslot => by
        rw [List.getElem?_zipIdx, hslot, Nat.zero_add]
        rfl
      have hslots : Operation.result b.answer
          (joinSlots root (record.id.getD id) 0 record.devices)
          (Operation.after b.answer (raw id) s) =
            record.devices.zipIdx.mapM fun p =>
              s.1.joinAt root (record.id.getD id) p.2 p.1 := by
        rw [result_joinSlots, hstore]
      cases hdevices : record.devices.zipIdx.mapM fun p =>
          s.1.joinAt root (record.id.getD id) p.2 p.1 with
      | error e =>
        rw [hdevices] at hslots
        obtain ⟨i, p, hp, herror, hbefore⟩ := getElem?_of_mapM_eq_error hdevices
        rw [List.getElem?_zipIdx, Option.map_eq_some_iff] at hp
        obtain ⟨slot, hslot, rfl⟩ := hp
        rw [Nat.zero_add] at herror
        refine Operation.result_bind_of_error hslots _ ▸ .refused hd hrecord hslot herror ?_
        exact fun j hj slot' hslot' => hbefore j hj _ (hplace j slot' hslot')
      | ok devices =>
        rw [hdevices] at hslots
        obtain ⟨hlength, hjoined⟩ := getElem?_of_mapM_eq_ok hdevices
        rw [List.length_zipIdx] at hlength
        refine Operation.result_bind_of_ok hslots _ ▸ .joined hd hrecord hlength ?_
        exact fun i slot hslot => hjoined i _ (hplace i slot hslot)

/-- A slot joins the services that it enables, in the order in which it enables them, and the order
in which its sensor offers services with different uuids makes no difference. The dynamic part of
the sensor counts, before all that stands beside it, exactly if the slot or the sensor is marked. An
experiment is completed with the devices that its slots join, or fails as the first slot that cannot
be joined. -/
theorem enabled_services_joined (b : Backends σ) (s : DocumentStore × σ) (root : String) :
    (∀ (slot : DeviceSlot) (index : Nat) (experiment : String) (sensor : Document)
      (device : CompleteDevice), slot.join index experiment root sensor = .ok device ↔
        ∃ d record, slot.Reads sensor d ∧ SensorRecord.ofMembers d = .ok record ∧
          slot.Joined index experiment root record device) ∧
    (∀ (slot : DeviceSlot) (sensor d : Document), sensor.Regular → slot.Reads sensor d →
      ∀ k, k ∉ ["dynamicSchema", "dynamicJson"] →
        d.get? k = if slot.dynamicSchema ≠ none ∨ sensor.get? "dynamicSchema" ≠ none
          then (sensor.nested? k).or (sensor.get? k) else sensor.get? k) ∧
    (∀ (slot : DeviceSlot) (index : Nat) (experiment : String) (sensor sensor' : Document)
      (device : CompleteDevice), sensor.Regular → sensor.Reorders sensor' →
        (∀ d record, slot.Reads sensor d → SensorRecord.ofMembers d = .ok record →
          (record.services.map Service.uuid).Nodup) →
        (slot.join index experiment root sensor' = .ok device ↔
          slot.join index experiment root sensor = .ok device)) ∧
    ∀ id, s.1.Completes root id (Operation.result b.answer (complete root id) s) := by
  refine ⟨fun slot index experiment sensor device => ?_, fun _ _ _ hsensor hreads _ hk =>
    hreads.get?_eq hsensor hk, fun slot index experiment sensor sensor' device hsensor hreorders
      hdistinct => ?_, fun id => complete_completes b root id s⟩
  · simp only [DeviceSlot.join_eq_ok_iff, DeviceSlot.reads_iff, exists_and_left, exists_eq_left]
  · exact DeviceSlot.join_reordered hsensor hreorders fun record =>
      hdistinct _ record (DeviceSlot.reads_iff.mpr rfl)

end Experiments

end

namespace Experiments

/-- A sensor with two services. -/
def station : Document :=
  [("_id", .text "650000000000000000000001"), ("name", .text "Station"),
    ("services", .list [
      .object [("characteristics", .list [.object [("mqttTopic", .text "old"),
        ("name", .text "Air Temperature")]]), ("uuid", .text "env")],
      .object [("uuid", .text "battery")]])]

/-- The same sensor with the services in the other order. -/
def turnedStation : Document :=
  station.insert "services" (.list [.object [("uuid", .text "battery")],
    .object [("characteristics", .list [.object [("mqttTopic", .text "old"),
      ("name", .text "Air Temperature")]]), ("uuid", .text "env")]])

/-- A marked sensor whose services stand in its dynamic part. -/
def packedStation : Document :=
  [("_id", .text "650000000000000000000001"),
    ("dynamicJson", .object [("services", .list [.object [("uuid", .text "env")]])]),
    ("dynamicSchema", .bool true), ("name", .text "Station")]

/-- A slot that enables one of the services twice, and one that is not there. -/
def porch : DeviceSlot where
  sensorId := "650000000000000000000001"
  macAddress := "AA:01"
  enabledServices := ["battery", "env", "wind", "battery"]
  name := some "Porch"
  shortName := none
  dynamicSchema := none
  whiteboard := none

theorem enabled_services_joined_station :
    station.Regular ∧ station.Reorders turnedStation ∧
    (∃ device, porch.join 0 "6500000000000000000000aa" "qiot" station = .ok device ∧
      porch.join 0 "6500000000000000000000aa" "qiot" turnedStation = .ok device ∧
      device.services.map Service.uuid = ["battery", "env", "battery"] ∧
      (device.services.flatMap (·.characteristics)).map Characteristic.mqttTopic =
        [some "qiot/6500000000000000000000aa/Porch/aa01/airtemperature"]) ∧
    (∃ device d, porch.join 0 "6500000000000000000000aa" "qiot" packedStation = .ok device ∧
      device.services.map Service.uuid = ["env"] ∧ porch.Reads packedStation d ∧
      d.get? "services" = packedStation.nested? "services") ∧
    Dashboard.furnished.1.Completes "qiot" "6500000000000000000000aa"
      (Operation.result Dashboard.quiet.answer (complete "qiot" "6500000000000000000000aa")
        Dashboard.furnished) := by
  obtain ⟨hjoin, hholds, hreordered, hcompletes⟩ :=
    enabled_services_joined Dashboard.quiet Dashboard.furnished "qiot"
  have hregular : station.Regular := by
    have hregular : (Json.object station).regular = true := by decide +kernel
    exact hregular
  have hreorders : station.Reorders turnedStation := .top rfl (.swap _ _ [])
  have hdistinct : ∀ d record, porch.Reads station d → SensorRecord.ofMembers d = .ok record →
      (record.services.map Service.uuid).Nodup := by
    intro d record hreads hrecord
    obtain rfl := DeviceSlot.reads_iff.mp hreads
    have huuids : (SensorRecord.ofMembers (porch.sensorDocument station)).map
        (fun record => record.services.map Service.uuid) = .ok ["env", "battery"] := by rfl
    rw [hrecord] at huuids
    have huuids : record.services.map Service.uuid = ["env", "battery"] := Except.ok.inj huuids
    rw [huuids]
    decide
  have hjoined : (porch.join 0 "6500000000000000000000aa" "qiot" station).map (fun device =>
      (device.services.map Service.uuid,
        (device.services.flatMap (·.characteristics)).map Characteristic.mqttTopic)) =
      .ok (["battery", "env", "battery"],
        [some "qiot/6500000000000000000000aa/Porch/aa01/airtemperature"]) := by
    decide +kernel
  have hpacked : packedStation.Regular := by
    have hregular : (Json.object packedStation).regular = true := by decide +kernel
    exact hregular
  have hunpacked : ∃ device d, porch.join 0 "6500000000000000000000aa" "qiot" packedStation =
      .ok device ∧ device.services.map Service.uuid = ["env"] ∧ porch.Reads packedStation d ∧
        d.get? "services" = packedStation.nested? "services" := by
    obtain ⟨device, hdevice, huuids⟩ := map_eq_ok_iff.mp
      (show (porch.join 0 "6500000000000000000000aa" "qiot" packedStation).map
        (fun device => device.services.map Service.uuid) = .ok ["env"] by decide +kernel)
    obtain ⟨d, record, hreads, -, -⟩ := (hjoin ..).mp hdevice
    exact ⟨device, d, hdevice, huuids, hreads, hholds _ _ d hpacked hreads _ (by decide)⟩
  cases hdevice : porch.join 0 "6500000000000000000000aa" "qiot" station with
  | error e =>
    rw [hdevice] at hjoined
    cases hjoined
  | ok device =>
    rw [hdevice] at hjoined
    have hturned := (hreordered porch 0 _ station turnedStation device hregular hreorders
      hdistinct).mpr hdevice
    obtain ⟨huuids, htopics⟩ := Prod.mk.inj (Except.ok.inj hjoined)
    exact ⟨hregular, hreorders, ⟨device, rfl, hturned, huuids, htopics⟩, hunpacked, hcompletes _⟩

end Experiments

end Telemetry
