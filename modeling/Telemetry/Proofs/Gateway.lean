import Telemetry.Proofs.Codec.Faithful
import Telemetry.Proofs.Joining

/-!
# What the gateway is told and what is joined

The gateway's configuration and the complete experiment both keep the enabled services of a slot's
sensor. The configuration looks for them in the document as it is stored, and among services that
are objects. The complete experiment looks for them in the record that is read from the document,
after it was flattened, and from services of either form.

* `Experiments.gatewayDevices_ok`, `Experiments.joinSlots_ok`: what is made of each slot.
* `Experiments.Compared`: the services that the two ways keep for a slot, and when they are the
  same.
* `Experiments.gateway_agrees`: a configuration has one entry for each device of the complete
  experiment, and their services compare in this way.
* `Experiments.nested_services_unexported`: a sensor whose services get lost on one of the ways.
-/

namespace Telemetry

/-! ## Keys -/

theorem slotKey_injective : Function.Injective slotKey := by
  intro i j h
  have hlist := congrArg String.toList h
  simp only [slotKey, String.toList_append] at hlist
  have hdigits := List.append_cancel_left hlist
  have hnumber := congrArg (fun ds => Nat.ofDigitChars 10 ds 0) hdigits
  simpa [Nat.toString_eq_ofList_toDigits] using hnumber

/-! ## Services -/

namespace DeviceSlot

/-- The services of a sensor document, as they are stored. -/
def storedServices (sensor : Document) : List Json :=
  ((sensor.get? "services").bind Json.items?).getD []

/-- The stored document of a sensor has a service of a uuid, in the form of an object. -/
def storedOffer (sensor : Document) (uuid : String) : Bool :=
  (Experiments.serviceOf (storedServices sensor) uuid).isSome

/-- A slot finds the services of a sensor where they are stored, all of them objects: a dynamic part
that the slot would read brings no services. -/
structure ReadsAsStored (slot : DeviceSlot) (sensor : Document) : Prop where
  services : slot.dynamicSchema.isSome = true ∨ sensor.isDynamic = true →
    sensor.dynamicMembers.get? "services" = none
  objects : ∀ v ∈ storedServices sensor, ∃ m, v = .object m

theorem get?_sensorDocument {slot : DeviceSlot} {sensor : Document}
    (h : slot.dynamicSchema.isSome = true ∨ sensor.isDynamic = true →
      sensor.dynamicMembers.get? "services" = none) :
    (slot.sensorDocument sensor).get? "services" = sensor.get? "services" := by
  unfold sensorDocument
  split
  · next hmarked =>
    have hnone := h (by simpa using hmarked)
    rw [Document.flattenDynamic, Entries.get?_union_of_none hnone, Entries.get?_erase,
      if_neg (by decide), Entries.get?_erase, if_neg (by decide)]
  · rfl

end DeviceSlot

/-- A field that was read as a text holds this text. -/
theorem Entries.get?_of_field?_text {m : Entries Json} {key s : String}
    (h : m.field? key Json.decodeText = .ok (some s)) : m.get? key = some (.text s) := by
  unfold field? at h
  split at h
  · next v hv =>
    cases v with
    | text t =>
      obtain rfl : t = s := by simpa using h
      exact hv
    | _ => cases h
  · cases h

/-- A service that is an object holds its uuid. -/
theorem Service.uuid_of_ofMembers {m : Entries Json} {s : Service} (h : ofMembers m = .ok s) :
    m.get? "uuid" = some (.text s.uuid) := by
  simp only [ofMembers, bind_eq_ok_iff, Decoded.pure_eq_ok, Except.ok.injEq] at h
  obtain ⟨_, -, uuid, huuid, u, hneed, rfl⟩ := h
  cases uuid with
  | none => cases hneed
  | some u' =>
    cases hneed
    exact Entries.get?_of_field?_text huuid

/-- Services that are objects are found under the same uuids before and after they are read. -/
theorem isSome_serviceOf {vs : List Json} {services : List Service}
    (hobjects : ∀ v ∈ vs, ∃ m, v = .object m)
    (h : Json.decodeItems Service.decode vs = .ok services) (uuid : String) :
    (Experiments.serviceOf vs uuid).isSome = (services.find? (·.uuid == uuid)).isSome := by
  induction vs generalizing services with
  | nil => cases h; rfl
  | cons v vs ih =>
    obtain ⟨⟨m, rfl⟩, htail⟩ := List.forall_mem_cons.mp hobjects
    obtain ⟨x, hx, h⟩ := bind_eq_ok_iff.mp h
    obtain ⟨xs, hxs, h⟩ := bind_eq_ok_iff.mp h
    cases h
    have huuid : ((Json.object m).get? "uuid").bind Json.text? = some x.uuid := by
      rw [Json.get?, Json.members?, Option.bind_some, Service.uuid_of_ofMembers hx]
      rfl
    have hrest := ih htail hxs
    rw [Experiments.serviceOf] at hrest ⊢
    rw [List.find?_cons, List.find?_cons, huuid]
    by_cases heq : x.uuid = uuid
    · simp [heq]
    · have hne : (x.uuid == uuid) = false := beq_false_of_ne heq
      simp [hne, hrest]

namespace DeviceSlot

/-- A slot that reads a sensor as it is stored finds the uuids that are stored. -/
theorem ReadsAsStored.storedOffer_eq {slot : DeviceSlot} {sensor : Document}
    {record : SensorRecord} (h : slot.ReadsAsStored sensor)
    (hrecord : slot.sensorRecord sensor = .ok record) (uuid : String) :
    storedOffer sensor uuid = (offered record uuid).isSome := by
  have hmembers : SensorRecord.ofMembers (slot.sensorDocument sensor) = .ok record := by
    unfold sensorRecord at hrecord
    split at hrecord
    · next r hr => rw [hr, Except.ok.inj hrecord]
    · cases hrecord
  simp only [SensorRecord.ofMembers, bind_eq_ok_iff, Decoded.pure_eq_ok,
    Except.ok.injEq] at hmembers
  obtain ⟨_, -, _, -, _, -, _, -, services, hservices, _, -, rfl⟩ := hmembers
  have hobjects := h.objects
  rw [Entries.field?, get?_sensorDocument h.services] at hservices
  unfold storedOffer offered
  unfold storedServices at hobjects ⊢
  cases hstored : Entries.get? sensor "services" with
  | none =>
    rw [hstored] at hservices
    cases hservices
    rfl
  | some v =>
    rw [hstored] at hservices hobjects
    cases v with
    | list vs =>
      obtain ⟨xs, hxs, rfl⟩ := Decoded.map_eq_ok.mp hservices
      exact isSome_serviceOf hobjects hxs uuid
    | _ => cases hservices

end DeviceSlot

namespace Experiments

variable {σ : Type} {b : Backends σ} {s : DocumentStore × σ}

/-! ## Slot by slot -/

/-- What is found depends on the documents only. -/
theorem result_find_congr {s' : DocumentStore × σ} (h : s'.1 = s.1) (id c what : String) :
    Operation.result b.answer (Operation.find id c what) s' =
      Operation.result b.answer (Operation.find id c what) s := by
  rw [Operation.result_find_eq, Operation.result_find_eq, h]

/-- What the gateway is told of each slot. -/
theorem gatewayDevices_ok {slots : List DeviceSlot} {index : Nat} {entries : List (String × Json)}
    (h : Operation.result b.answer (gatewayDevices index slots) s = .ok entries) :
    entries.length = slots.length ∧ ∀ i slot, slots[i]? = some slot → ∃ sensor,
      Operation.result b.answer (sensorOf slot) s = .ok sensor ∧
      entries[i]? = some (slotKey (index + i), .object (gatewayDevice slot sensor)) := by
  induction slots generalizing s index entries with
  | nil =>
    cases h
    exact ⟨rfl, fun i slot hi => by simp at hi⟩
  | cons slot slots ih =>
    obtain ⟨sensor, hsensor, h⟩ := Operation.result_bind h
    obtain ⟨rest, hrest, h⟩ := Operation.result_bind h
    cases h
    obtain ⟨hlength, hslots⟩ := ih hrest
    have hstore := Operation.after_fst (b := b) (writesNothing_sensorOf slot) s
    refine ⟨congrArg Nat.succ hlength, fun i slot' hi => ?_⟩
    cases i with
    | zero =>
      obtain rfl : slot = slot' := by simpa using hi
      exact ⟨sensor, hsensor, rfl⟩
    | succ i =>
      obtain ⟨sensor', hsensor', hentry⟩ := hslots i slot' hi
      refine ⟨sensor', (result_find_congr hstore ..).symm.trans hsensor', ?_⟩
      rw [List.getElem?_cons_succ, hentry, Nat.add_assoc, Nat.add_comm 1 i]

/-- The gateway is told of the slots under their keys, in their order. -/
theorem keys_gatewayDevices {slots : List DeviceSlot} {entries : List (String × Json)}
    (h : Operation.result b.answer (gatewayDevices 0 slots) s = .ok entries) :
    entries.map Prod.fst = (List.range slots.length).map slotKey := by
  obtain ⟨hlength, hslots⟩ := gatewayDevices_ok h
  refine List.ext_getElem? fun i => ?_
  rw [List.getElem?_map, List.getElem?_map]
  by_cases hi : i < slots.length
  · obtain ⟨sensor, -, hentry⟩ := hslots i _ (List.getElem?_eq_getElem hi)
    rw [hentry, List.getElem?_range hi, Option.map_some, Option.map_some, Nat.zero_add]
  · rw [List.getElem?_eq_none (by omega), List.getElem?_eq_none (by simpa using hi)]
    rfl

/-- What is joined for each slot. -/
theorem joinSlots_ok {root experiment : String} {slots : List DeviceSlot} {index : Nat}
    {devices : List CompleteDevice}
    (h : Operation.result b.answer (joinSlots root experiment index slots) s = .ok devices) :
    devices.length = slots.length ∧ ∀ i slot, slots[i]? = some slot → ∃ sensor record,
      Operation.result b.answer (sensorOf slot) s = .ok sensor ∧
      slot.sensorRecord sensor = .ok record ∧
      devices[i]? = some (slot.joinRecord (index + i) experiment root record) := by
  rw [result_joinSlots] at h
  obtain ⟨hlength, hslots⟩ := getElem?_of_mapM_eq_ok h
  refine ⟨hlength.trans List.length_zipIdx, fun i slot hslot => ?_⟩
  have hplace : (slots.zipIdx index)[i]? = some (slot, index + i) := by
    rw [List.getElem?_zipIdx, hslot]
    rfl
  obtain ⟨device, hdevice, hjoin⟩ := hslots i _ hplace
  obtain ⟨sensor, hsensor, hjoin⟩ := DocumentStore.joinAt_eq_ok_iff.mp hjoin
  obtain ⟨record, hrecord, hjoined⟩ := DeviceSlot.join_eq_ok_iff.mp hjoin
  rw [DeviceSlot.joined_iff.mp hjoined] at hdevice
  exact ⟨sensor, record, (Operation.result_find_eq ..).trans hsensor,
    DeviceSlot.sensorRecord_eq_ok_iff.mpr hrecord, hdevice⟩

/-! ## One slot on both ways -/

/-- The uuids of the services of an exported sensor. -/
def exportedUuids (entry : Document) : List String :=
  (DeviceSlot.storedServices entry).filterMap fun v => (v.get? "uuid").bind Json.text?

/-- The keys whose values are found. -/
theorem filterMap_filterMap_eq_filter {α β : Type} {f : α → Option β} {g : β → Option α}
    (h : ∀ x y, f x = some y → g y = some x) (xs : List α) :
    (xs.filterMap f).filterMap g = xs.filter fun x => (f x).isSome := by
  induction xs with
  | nil => rfl
  | cons x xs ih =>
    cases hx : f x with
    | none => simp [hx, ih]
    | some y => simp [hx, ih, h x y hx]

theorem filter_eq_filter_iff {α : Type} {p q : α → Bool} {xs : List α} :
    xs.filter p = xs.filter q ↔ ∀ x ∈ xs, p x = q x := by
  refine ⟨fun h x hx => ?_, List.filter_congr⟩
  have hmem : x ∈ xs.filter p ↔ x ∈ xs.filter q := by rw [h]
  rw [List.mem_filter, List.mem_filter] at hmem
  exact Bool.eq_iff_iff.mpr (by simpa [hx] using hmem)

/-- An exported sensor has the enabled services that are stored as objects. -/
theorem exportedUuids_gatewayDevice (slot : DeviceSlot) (sensor : Document) :
    exportedUuids (gatewayDevice slot sensor) =
      slot.enabledServices.filter (DeviceSlot.storedOffer sensor) := by
  have hservices : DeviceSlot.storedServices (gatewayDevice slot sensor) =
      slot.enabledServices.filterMap (serviceOf (DeviceSlot.storedServices sensor)) := by
    rw [DeviceSlot.storedServices, gatewayDevice, Entries.get?_insert, if_pos rfl]
    rfl
  rw [exportedUuids, hservices]
  refine filterMap_filterMap_eq_filter (fun uuid v hv => ?_) _
  simpa using List.find?_some hv

/-- A joined device has the enabled services that its sensor's record offers. -/
theorem uuids_joinedServices (slot : DeviceSlot) (record : SensorRecord)
    (experiment root : String) :
    (slot.joinedServices record experiment root).map Service.uuid =
      slot.enabledServices.filter fun uuid => (DeviceSlot.offered record uuid).isSome := by
  rw [DeviceSlot.joinedServices, List.map_map, ← filterMap_filterMap_eq_filter (g := fun s =>
    some s.uuid) (fun uuid s hs => ?_), List.filterMap_eq_map']
  · rfl
  · simpa using List.find?_some hs

/-- What the gateway is told of a slot's services and what is joined for it: the enabled services
that the stored document of the sensor offers, and those that its record offers. They are the same
services exactly if the two offer the same of those that are enabled, as they do where the slot
reads the sensor as it is stored. -/
structure Compared (slot : DeviceSlot) (sensor : Document) (record : SensorRecord)
    (entry : Document) (device : CompleteDevice) : Prop where
  exported : exportedUuids entry = slot.enabledServices.filter (DeviceSlot.storedOffer sensor)
  joined : device.services.map Service.uuid =
    slot.enabledServices.filter fun uuid => (DeviceSlot.offered record uuid).isSome
  agree_iff : exportedUuids entry = device.services.map Service.uuid ↔
    ∀ uuid ∈ slot.enabledServices,
      DeviceSlot.storedOffer sensor uuid = (DeviceSlot.offered record uuid).isSome
  agree : slot.ReadsAsStored sensor → exportedUuids entry = device.services.map Service.uuid

theorem compared {slot : DeviceSlot} {sensor : Document} {record : SensorRecord}
    (hrecord : slot.sensorRecord sensor = .ok record) (index : Nat) (experiment root : String) :
    Compared slot sensor record (gatewayDevice slot sensor)
      (slot.joinRecord index experiment root record) := by
  have hexported := exportedUuids_gatewayDevice slot sensor
  have hjoined := uuids_joinedServices slot record experiment root
  have hiff : exportedUuids (gatewayDevice slot sensor) =
      (slot.joinedServices record experiment root).map Service.uuid ↔
      ∀ uuid ∈ slot.enabledServices,
        DeviceSlot.storedOffer sensor uuid = (DeviceSlot.offered record uuid).isSome := by
    rw [hexported, hjoined, filter_eq_filter_iff]
  exact ⟨hexported, hjoined, hiff, fun h => hiff.mpr fun uuid _ => h.storedOffer_eq hrecord uuid⟩

/-! ## All slots on both ways -/

/-- If an experiment is exported and completed, the configuration has exactly one entry for each
device, under the key of its slot, and the services of entry and device compare. This is so in every
state of the stores. -/
theorem gateway_agrees {root id text : String} {e : CompleteExperiment}
    (htext : Operation.result b.answer (gatewayConfiguration id) s = .ok text)
    (he : Operation.result b.answer (complete root id) s = .ok e) :
    ∃ d r, Operation.result b.answer (raw id) s = .ok d ∧ ExperimentRecord.ofDocument d = .ok r ∧
      ∃ entries : Entries Json, text = Yaml.write [("devices", .object entries)] ∧
        (entries.map Prod.fst).Nodup ∧
        (∀ key, key ∈ entries.map Prod.fst ↔ ∃ i < r.devices.length, key = slotKey i) ∧
        e.devices.length = r.devices.length ∧
        ∀ i slot, r.devices[i]? = some slot → ∃ sensor record entry device,
          Operation.result b.answer (sensorOf slot) s = .ok sensor ∧
          slot.sensorRecord sensor = .ok record ∧
          entries.get? (slotKey i) = some (.object entry) ∧ e.devices[i]? = some device ∧
          device.slot = slotKey i ∧ Compared slot sensor record entry device := by
  obtain ⟨d, hd, htext⟩ := Operation.result_bind htext
  obtain ⟨r, hr, htext⟩ := Operation.result_bind htext
  obtain ⟨pairs, hpairs, htext⟩ := Operation.result_bind htext
  obtain ⟨d', hd', he⟩ := Operation.result_bind he
  obtain ⟨r', hr', he⟩ := Operation.result_bind he
  obtain ⟨devices, hdevices, he⟩ := Operation.result_bind he
  obtain ⟨_, -, he⟩ := Operation.result_bind he
  obtain rfl := Except.ok.inj (hd.symm.trans hd')
  have hr : ExperimentRecord.ofDocument d = .ok r := hr
  obtain rfl := Except.ok.inj (hr.symm.trans hr')
  cases he
  cases htext
  -- Both ways read the experiment first, and so they look for its sensors in the same documents.
  have hstore : (Operation.after b.answer (raw id) s).1 = s.1 := Operation.after_fst
    (Operation.asksOnly_find fun _ => Operation.writesNothing_select _ _) s
  obtain ⟨-, hslots⟩ := gatewayDevices_ok hpairs
  obtain ⟨hlength', hslots'⟩ := joinSlots_ok hdevices
  have hkeys := keys_gatewayDevices hpairs
  have hnodup : (pairs.map Prod.fst).Nodup := by
    rw [hkeys]
    exact List.nodup_range.map slotKey_injective
  refine ⟨d, r, hd, hr, Entries.ofList pairs, rfl, (Entries.sorted_nil.union pairs).nodup_keys,
    fun key => ?_, hlength', fun i slot hslot => ?_⟩
  · rw [Entries.ofList, ← Entries.union, Entries.mem_keys_union, hkeys]
    simp [eq_comm]
  · obtain ⟨sensor, hsensor, hentry⟩ := hslots i slot hslot
    obtain ⟨sensor', record, hsensor', hrecord, hdevice⟩ := hslots' i slot hslot
    obtain rfl := Except.ok.inj (hsensor.symm.trans hsensor')
    rw [Nat.zero_add] at hentry hdevice
    exact ⟨sensor, record, gatewayDevice slot sensor, _,
      (result_find_congr hstore ..).symm.trans hsensor, hrecord,
      Entries.get?_ofList hnodup (List.mem_of_getElem? hentry), hdevice, rfl,
      compared hrecord i _ root⟩

/-! ## Two sensors -/

/-- What the gateway is told of the slots of a stored experiment. -/
def gatewayEntries (id : String) : Operation (List (String × Json)) := do
  let record ← Operation.ofExcept (ExperimentRecord.ofDocument (← raw id))
  gatewayDevices 0 record.devices

theorem result_gatewayConfiguration {id : String} {pairs : List (String × Json)}
    (h : Operation.result b.answer (gatewayEntries id) s = .ok pairs) :
    Operation.result b.answer (gatewayConfiguration id) s =
      .ok (Yaml.write [("devices", .object (Entries.ofList pairs))]) := by
  obtain ⟨d, hd, h⟩ := Operation.result_bind h
  obtain ⟨r, hr, h⟩ := Operation.result_bind h
  rw [gatewayConfiguration, Operation.result_bind_of_ok hd, Operation.result_bind_of_ok hr,
    Operation.result_bind_of_ok h]
  rfl

/-- The uuids of the services of each device of a complete experiment. -/
def joinedUuids (e : CompleteExperiment) : List (List String) :=
  e.devices.map fun device => device.services.map Service.uuid

/-- A sensor without a dynamic part is read as it is stored. -/
theorem readsAsStored_hygrometer {slot : DeviceSlot} (h : slot.dynamicSchema = none) :
    slot.ReadsAsStored Dashboard.hygrometer where
  services hmarked := by
    obtain hslot | hsensor := hmarked
    · rw [h] at hslot
      cases hslot
    · exact absurd hsensor (by decide)
  objects v hv := by
    obtain rfl := List.mem_singleton.mp hv
    exact ⟨_, rfl⟩

/-- The gateway is told of the service that is joined. -/
theorem gateway_agrees_greenhouse : ∃ text e entries entry,
    Operation.result Dashboard.quiet.answer (gatewayConfiguration experimentId.toHex)
      (furnishedWith Dashboard.hygrometer Dashboard.greenhouse) = .ok text ∧
    Operation.result Dashboard.quiet.answer (complete "qiot" experimentId.toHex)
      (furnishedWith Dashboard.hygrometer Dashboard.greenhouse) = .ok e ∧
    text = Yaml.write [("devices", .object entries)] ∧
    Entries.get? entries (slotKey 0) = some (.object entry) ∧
    joinedUuids e = [["env"]] ∧ exportedUuids entry = ["env"] := by
  have hentries : Operation.result Dashboard.quiet.answer (gatewayEntries experimentId.toHex)
      (furnishedWith Dashboard.hygrometer Dashboard.greenhouse) =
        .ok [(slotKey 0, .object (Dashboard.hygrometer.erase idKey))] := by decide +kernel
  have hjoined : (Operation.result Dashboard.quiet.answer (complete "qiot" experimentId.toHex)
      (furnishedWith Dashboard.hygrometer Dashboard.greenhouse)).map joinedUuids =
        .ok [["env"]] := by decide +kernel
  have hraw : Operation.result Dashboard.quiet.answer (raw experimentId.toHex)
      (furnishedWith Dashboard.hygrometer Dashboard.greenhouse) = .ok Dashboard.greenhouse := by
    decide +kernel
  have hslots : (ExperimentRecord.ofDocument Dashboard.greenhouse).map (fun r =>
      r.devices.map fun slot => (slot.sensorId, slot.dynamicSchema)) =
        .ok [(sensorId.toHex, none)] := by decide +kernel
  have hfind : Operation.result Dashboard.quiet.answer
      (Operation.find sensorId.toHex Collection.sensors "sensor")
      (furnishedWith Dashboard.hygrometer Dashboard.greenhouse) = .ok Dashboard.hygrometer := by
    decide +kernel
  have htext := result_gatewayConfiguration hentries
  obtain ⟨e, he, huuids⟩ := map_eq_ok_iff.mp hjoined
  obtain ⟨d, r, hd, hr, entries, hwritten, -, -, -, hcompared⟩ := gateway_agrees htext he
  obtain rfl := Except.ok.inj (hraw.symm.trans hd)
  obtain ⟨r', hr', hdevices⟩ := map_eq_ok_iff.mp hslots
  obtain rfl := Except.ok.inj (hr.symm.trans hr')
  obtain ⟨slot, hslot, hmarks⟩ := List.map_eq_singleton_iff.mp hdevices
  obtain ⟨hsensorId, hunmarked⟩ := Prod.mk.inj hmarks
  obtain ⟨sensor, record, entry, device, hsensor, -, hentry, hdevice, -, hslots⟩ :=
    hcompared 0 slot (by rw [hslot]; rfl)
  have hsensor : Operation.result Dashboard.quiet.answer
      (Operation.find slot.sensorId Collection.sensors "sensor")
      (furnishedWith Dashboard.hygrometer Dashboard.greenhouse) = .ok sensor := hsensor
  rw [hsensorId, hfind] at hsensor
  obtain rfl := Except.ok.inj hsensor
  refine ⟨_, e, entries, entry, htext, he, hwritten, hentry, huuids, ?_⟩
  rw [hslots.agree (readsAsStored_hygrometer hunmarked)]
  have hfirst := congrArg (·[0]?) huuids
  simpa [joinedUuids, hdevice] using hfirst

/-- A sensor that keeps its services in a dynamic part. -/
def nestedHygrometer : Document :=
  [("_id", .text "650000000000000000000001"),
    ("dynamicJson", .object [("services", .list [.object [
      ("characteristics", .list [.object [("name", .text "Humidity"),
        ("structParser", .object [("fields", .list [.object [("name", .text "h")]])])]]),
      ("uuid", .text "env")]])]),
    ("dynamicSchema", .bool true), ("name", .text "Hygro"), ("shortName", .text "hy")]

/-- What the gateway is told of that sensor. -/
def nestedEntry : Document := (nestedHygrometer.erase idKey).insert "services" (.list [])

/-- The enabled service of a sensor that keeps its services in a dynamic part is joined, and the
gateway is not told of it. -/
theorem nested_services_unexported : ∃ s text e,
    Reachable Dashboard.quiet s ∧
    Operation.result Dashboard.quiet.answer (gatewayConfiguration experimentId.toHex) s =
      .ok text ∧
    Operation.result Dashboard.quiet.answer (complete "qiot" experimentId.toHex) s = .ok e ∧
    text = Yaml.write [("devices", .object [(slotKey 0, .object nestedEntry)])] ∧
    exportedUuids nestedEntry = [] ∧ joinedUuids e = [["env"]] := by
  have hentries : Operation.result Dashboard.quiet.answer (gatewayEntries experimentId.toHex)
      (furnishedWith nestedHygrometer Dashboard.greenhouse) =
        .ok [(slotKey 0, .object nestedEntry)] := by decide +kernel
  have hjoined : (Operation.result Dashboard.quiet.answer (complete "qiot" experimentId.toHex)
      (furnishedWith nestedHygrometer Dashboard.greenhouse)).map joinedUuids = .ok [["env"]] := by
    decide +kernel
  obtain ⟨e, he, huuids⟩ := map_eq_ok_iff.mp hjoined
  exact ⟨furnishedWith nestedHygrometer Dashboard.greenhouse, _, e,
    reachable_furnishedWith nestedHygrometer Dashboard.greenhouse,
    result_gatewayConfiguration hentries, he, rfl, rfl, huuids⟩

end Experiments

end Telemetry
