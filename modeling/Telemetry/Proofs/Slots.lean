import Mathlib.Data.List.Perm.Basic
import Telemetry.Join
import Telemetry.Proofs.Codec.Faithful
import Telemetry.Proofs.Flattening
import Telemetry.Proofs.Results

/-!
# What a slot makes of its sensor

A slot names the services that it uses by their uuids. They are looked up one after the other in the
record of the sensor, which is the one of the flattened document if the slot or the sensor is marked.

* `Service.Published`: a service as a device offers it, with its own topics.
* `Enables`: the services that come of a list of enabled uuids.
* `DeviceSlot.Reads`: the document in which a slot reads its sensor; `DeviceSlot.Reads.get?_eq`: what
  it holds.
* `DeviceSlot.Joined`: what a joined device consists of; `DeviceSlot.join_eq_ok_iff` says that this
  is what comes of a slot and a sensor document.
* `Document.Reorders`: two sensor documents that differ in the order of their services.
* `DeviceSlot.join_reordered`: such documents join alike if no two services have the same uuid.
-/

namespace Telemetry

/-! ## Services -/

/-- A service as a device offers it. Each characteristic has the topic that is made from its name,
whatever topic was stored, and everything else stays as it is. -/
structure Service.Published (topic : String → String) (stored s : Service) : Prop where
  uuid : s.uuid = stored.uuid
  characteristics : List.Forall₂ (fun c c' : Characteristic => c'.name = c.name ∧ c'.uuid = c.uuid ∧
    c'.parsers = c.parsers ∧ c'.mqttTopic = some (topic c.name)) stored.characteristics
    s.characteristics

theorem Service.published_iff {topic : String → String} {stored s : Service} :
    stored.Published topic s ↔ s = stored.withTopics topic := by
  have hone : ∀ c c' : Characteristic, (c'.name = c.name ∧ c'.uuid = c.uuid ∧
      c'.parsers = c.parsers ∧ c'.mqttTopic = some (topic c.name)) ↔
      { c with mqttTopic := some (topic c.name) } = c' := by
    rintro ⟨name, uuid, parsers, mqttTopic⟩ ⟨name', uuid', parsers', mqttTopic'⟩
    simp [eq_comm]
  constructor
  · rintro ⟨huuid, hcharacteristics⟩
    simp only [hone] at hcharacteristics
    rw [← List.forall₂_map_left_iff (R := Eq), List.forall₂_eq_eq_eq] at hcharacteristics
    obtain ⟨uuid, characteristics⟩ := s
    simp only [withTopics, Service.mk.injEq]
    exact ⟨huuid, hcharacteristics.symm⟩
  · rintro rfl
    refine ⟨rfl, ?_⟩
    simp only [hone]
    rw [← List.forall₂_map_left_iff (R := Eq), List.forall₂_eq_eq_eq]
    rfl

/-- The first service with a uuid. -/
def FirstOffered (offered : List Service) (uuid : String) (s : Service) : Prop :=
  s.uuid = uuid ∧ ∃ pre post, offered = pre ++ s :: post ∧ ∀ t ∈ pre, t.uuid ≠ uuid

theorem firstOffered_iff {offered : List Service} {uuid : String} {s : Service} :
    FirstOffered offered uuid s ↔ offered.find? (·.uuid == uuid) = some s := by
  simp [FirstOffered, List.find?_eq_some_iff_append]

/-- The services that come of enabled uuids, in the order in which they are enabled: for each uuid
the first service that has it, and nothing for a uuid that is not offered. -/
inductive Enables (offered : List Service) (topic : String → String) :
    List String → List Service → Prop
  | nil : Enables offered topic [] []
  | absent {uuid : String} {uuids : List String} {services : List Service} :
    (∀ s ∈ offered, s.uuid ≠ uuid) → Enables offered topic uuids services →
      Enables offered topic (uuid :: uuids) services
  | present {uuid : String} {uuids : List String} {stored s : Service} {services : List Service} :
    FirstOffered offered uuid stored → stored.Published topic s →
      Enables offered topic uuids services →
        Enables offered topic (uuid :: uuids) (s :: services)

theorem enables_iff {offered : List Service} {topic : String → String} {uuids : List String}
    {services : List Service} : Enables offered topic uuids services ↔
      services = (uuids.filterMap fun uuid => offered.find? (·.uuid == uuid)).map
        (·.withTopics topic) := by
  have hnone : ∀ uuid, (∀ s ∈ offered, s.uuid ≠ uuid) ↔
      offered.find? (·.uuid == uuid) = none := fun uuid => by simp
  constructor
  · intro h
    induction h with
    | nil => rfl
    | absent habsent _ ih => simp only [List.filterMap_cons, (hnone _).mp habsent, ih]
    | present hfirst hpublished _ ih =>
      simp only [List.filterMap_cons, firstOffered_iff.mp hfirst, List.map_cons, ih,
        Service.published_iff.mp hpublished]
  · rintro rfl
    induction uuids with
    | nil => exact .nil
    | cons uuid uuids ih =>
      cases hfind : offered.find? (·.uuid == uuid) with
      | none =>
        simp only [List.filterMap_cons, hfind]
        exact .absent ((hnone uuid).mpr hfind) ih
      | some s =>
        simp only [List.filterMap_cons, hfind, List.map_cons]
        exact .present (firstOffered_iff.mpr hfind) (Service.published_iff.mpr rfl) ih

/-! ## Joined devices -/

namespace DeviceSlot

variable {slot : DeviceSlot} {index : Nat} {experiment root : String} {sensor : Document}
  {device : CompleteDevice}

/-- The document in which a slot reads its sensor: the flattened one if the slot or the sensor is
marked, and else the one that is stored. -/
inductive Reads (slot : DeviceSlot) (sensor : Document) : Document → Prop
  | flattened : slot.dynamicSchema ≠ none ∨ sensor.get? "dynamicSchema" ≠ none →
    Reads slot sensor sensor.flattenDynamic
  | stored : slot.dynamicSchema = none → sensor.get? "dynamicSchema" = none →
    Reads slot sensor sensor

theorem reads_iff {d : Document} : slot.Reads sensor d ↔ d = slot.sensorDocument sensor := by
  have hmarked : (slot.dynamicSchema.isSome || sensor.isDynamic) = true ↔
      slot.dynamicSchema ≠ none ∨ sensor.get? "dynamicSchema" ≠ none := by
    simp [Document.isDynamic, Entries.contains, dynamicMarker, Option.isSome_iff_ne_none]
  unfold sensorDocument
  constructor
  · rintro (h | ⟨hslot, hsensor⟩)
    · rw [if_pos (hmarked.mpr h)]
    · rw [if_neg (mt hmarked.mp (by simp [hslot, hsensor]))]
  · rintro rfl
    split
    · next h => exact .flattened (hmarked.mp h)
    · next h =>
      obtain ⟨hslot, hsensor⟩ := not_or.mp (mt hmarked.mpr h)
      exact .stored (not_not.mp hslot) (not_not.mp hsensor)

/-- If the slot or the sensor is marked, what the sensor holds in its dynamic part covers what it
holds beside it. -/
theorem Reads.get?_eq {d : Document} (h : slot.Reads sensor d) (hsensor : sensor.Regular)
    {k : String} (hk : k ∉ Document.dynamicKeys) :
    d.get? k = if slot.dynamicSchema ≠ none ∨ sensor.get? "dynamicSchema" ≠ none
      then (sensor.nested? k).or (sensor.get? k) else sensor.get? k := by
  cases h with
  | flattened hmarked =>
    rw [if_pos hmarked]
    exact Document.get?_flattenDynamic hsensor.sorted_dynamicMembers hk
  | stored hslot hunmarked => rw [if_neg (by simp [hslot, hunmarked])]

/-- A device joined from a slot and the record of its sensor. -/
structure Joined (slot : DeviceSlot) (index : Nat) (experiment root : String)
    (record : SensorRecord) (device : CompleteDevice) : Prop where
  key : device.slot = "sensor_" ++ toString index
  sensorId : device.sensorId = slot.sensorId
  name : device.name = slot.name.getD record.name
  shortName : device.shortName = slot.shortName.getD record.shortName
  address : device.address = slot.macAddress
  services : Enables record.services (mqttTopic root experiment device.name slot.macAddress)
    slot.enabledServices device.services
  whiteboard : device.whiteboard = ((slot.whiteboard.or record.whiteboard).map (·.measures)).getD []

theorem joined_iff {record : SensorRecord} : slot.Joined index experiment root record device ↔
    device = slot.joinRecord index experiment root record := by
  constructor
  · rintro ⟨hkey, hsensorId, hname, hshortName, haddress, hservices, hwhiteboard⟩
    rw [enables_iff, hname] at hservices
    obtain ⟨_, _, _, _, _, _, _⟩ := device
    simp only at hkey hsensorId hname hshortName haddress hservices hwhiteboard
    subst hkey hsensorId hname hshortName haddress hservices hwhiteboard
    rfl
  · rintro rfl
    exact ⟨rfl, rfl, rfl, rfl, rfl, enables_iff.mpr rfl, rfl⟩

theorem sensorRecord_eq_ok_iff {record : SensorRecord} : slot.sensorRecord sensor = .ok record ↔
    SensorRecord.ofMembers (slot.sensorDocument sensor) = .ok record := by
  unfold sensorRecord
  cases SensorRecord.ofMembers (slot.sensorDocument sensor) <;> simp

/-- A slot joins with a sensor exactly if the document of the sensor is a record, and the device is
what the slot and the record make. -/
theorem join_eq_ok_iff : slot.join index experiment root sensor = .ok device ↔
    ∃ record, SensorRecord.ofMembers (slot.sensorDocument sensor) = .ok record ∧
      slot.Joined index experiment root record device := by
  simp only [joined_iff, ← sensorRecord_eq_ok_iff, join]
  cases slot.sensorRecord sensor <;> simp [Except.map, eq_comm]

/-! ## Services in another order -/

/-- Among services with different uuids, the first one with a uuid is the only one. -/
theorem find?_uuid_eq_some_iff {services : List Service} (h : (services.map Service.uuid).Nodup)
    {uuid : String} {s : Service} :
    services.find? (·.uuid == uuid) = some s ↔ s ∈ services ∧ s.uuid = uuid := by
  refine ⟨fun hs => ⟨List.mem_of_find?_eq_some hs, by simpa using List.find?_some hs⟩, ?_⟩
  rintro ⟨hmem, rfl⟩
  cases hfind : services.find? (·.uuid == s.uuid) with
  | none =>
    have hne := List.find?_eq_none.mp hfind s hmem
    simp at hne
  | some t =>
    have huuid : t.uuid = s.uuid := by simpa using List.find?_some hfind
    exact congrArg some (List.inj_on_of_nodup_map h (List.mem_of_find?_eq_some hfind) hmem huuid)

/-- Among services with different uuids it makes no difference which come first. -/
theorem joinRecord_perm {record : SensorRecord} {services : List Service}
    (hperm : record.services.Perm services) (h : (record.services.map Service.uuid).Nodup) :
    slot.joinRecord index experiment root { record with services := services } =
      slot.joinRecord index experiment root record := by
  have h' : (services.map Service.uuid).Nodup := (hperm.map Service.uuid).nodup_iff.mp h
  have hoffered : offered { record with services := services } = offered record := by
    funext uuid
    refine Option.ext fun s => ?_
    rw [offered, offered, find?_uuid_eq_some_iff h', find?_uuid_eq_some_iff h, hperm.mem_iff]
  unfold joinRecord joinedServices
  rw [hoffered]
  rfl

end DeviceSlot

/-- Items in another order are read if the items are. -/
theorem Json.decodeItems_perm {α : Type} {decode : Json → Decoded α} {vs vs' : List Json}
    {xs : List α} (hperm : vs.Perm vs') (h : decodeItems decode vs = .ok xs) :
    ∃ xs', decodeItems decode vs' = .ok xs' ∧ xs.Perm xs' := by
  have hmapM : ∀ vs, decodeItems decode vs = vs.mapM decode := fun vs => by
    induction vs with
    | nil => rfl
    | cons v vs ih => rw [decodeItems, ih, List.mapM_cons]
  rw [hmapM, mapM_eq_ok_iff] at h
  obtain ⟨xs', hxs', hperm'⟩ := List.perm_comp_forall₂ hperm.symm h
  exact ⟨xs', by rw [hmapM, mapM_eq_ok_iff]; exact hxs', hperm'.symm⟩

namespace Document

variable {d d' : Document}

/-- Two sensor documents that differ in the order of their services, at the top or in the dynamic
part. -/
inductive Reorders : Document → Document → Prop
  | top {d : Document} {vs vs' : List Json} : d.get? "services" = some (.list vs) →
    vs.Perm vs' → Reorders d (d.insert "services" (.list vs'))
  | nested {d : Document} {m : Entries Json} {vs vs' : List Json} :
    d.get? "dynamicJson" = some (.object m) → m.get? "services" = some (.list vs) →
      vs.Perm vs' → Reorders d (d.insert "dynamicJson" (.object (m.insert "services" (.list vs'))))

/-- Nothing or a value, and the same again or a list with the same items in another order. -/
inductive SameItems : Option Json → Option Json → Prop
  | same (v : Option Json) : SameItems v v
  | moved {vs vs' : List Json} : vs.Perm vs' → SameItems (some (.list vs)) (some (.list vs'))

theorem SameItems.symm {v v' : Option Json} (h : SameItems v v') : SameItems v' v := by
  cases h with
  | same => exact .same v
  | moved hperm => exact .moved hperm.symm

/-- What stands first covers what stands behind it. -/
theorem SameItems.or {v v' w w' : Option Json} (h : SameItems v v') (h' : SameItems w w') :
    SameItems (v.or w) (v'.or w') := by
  cases h with
  | same =>
    cases v with
    | none => exact h'
    | some v => exact .same (some v)
  | moved hperm => exact .moved hperm

/-- Two documents with the same members, but for the order of the services. -/
structure Alike (d d' : Document) : Prop where
  other : ∀ k, k ≠ "services" → k ∉ dynamicKeys → d'.get? k = d.get? k
  services : SameItems (d.get? "services") (d'.get? "services")

theorem Alike.symm (h : d.Alike d') : d'.Alike d where
  other k hk hdynamic := (h.other k hk hdynamic).symm
  services := h.services.symm

/-- The records of such documents differ in the order of the services only. -/
theorem Alike.record (h : d.Alike d') {record : SensorRecord}
    (hrecord : SensorRecord.ofMembers d = .ok record) :
    ∃ services, record.services.Perm services ∧
      SensorRecord.ofMembers d' = .ok { record with services := services } := by
  have hother : ∀ {α : Type} (decode : Json → Decoded α) (k : String), k ≠ "services" →
      k ∉ dynamicKeys → Entries.field? d' k decode = Entries.field? d k decode := by
    intro α decode k hk hdynamic
    rw [Entries.field?, Entries.field?, h.other k hk hdynamic]
  simp only [SensorRecord.ofMembers, bind_eq_ok_iff, Decoded.pure_eq_ok,
    Except.ok.injEq] at hrecord ⊢
  obtain ⟨id, hid, address, haddress, whiteboard, hwhiteboard, name, hname, services, hservices,
    shortName, hshortName, rfl⟩ := hrecord
  obtain ⟨services', hservices', hperm⟩ : ∃ services',
      Entries.field? d' "services" (Json.decodeList Service.decode) = .ok services' ∧
        (services.getD []).Perm (services'.getD []) := by
    have hsame := h.services
    unfold Entries.field? at hservices ⊢
    generalize d.get? "services" = v at hsame hservices
    generalize d'.get? "services" = v' at hsame
    cases hsame with
    | same => exact ⟨services, hservices, .refl _⟩
    | moved hperm =>
      obtain ⟨xs, hxs, rfl⟩ := Decoded.map_eq_ok.mp hservices
      obtain ⟨xs', hxs', hperm⟩ := Json.decodeItems_perm hperm hxs
      exact ⟨some xs', congrArg (some <$> ·) hxs', hperm⟩
  refine ⟨services'.getD [], hperm, id, ?_, address, ?_, whiteboard, ?_, name, ?_, services',
    hservices', shortName, ?_, rfl⟩
  · rwa [hother _ _ (by decide) (by decide)]
  · rwa [hother _ _ (by decide) (by decide)]
  · rwa [hother _ _ (by decide) (by decide)]
  · rwa [hother _ _ (by decide) (by decide)]
  · rwa [hother _ _ (by decide) (by decide)]

theorem ne_dynamicJson {k : String} (hk : k ∉ dynamicKeys) : k ≠ "dynamicJson" :=
  (not_or.mp (mt mem_dynamicKeys_iff.mpr hk)).2

namespace Reorders

theorem isDynamic_eq (h : d.Reorders d') : d'.isDynamic = d.isDynamic := by
  cases h with
  | top _ _ => simp [isDynamic, Entries.contains, Entries.get?_insert, dynamicMarker]
  | nested _ _ _ => simp [isDynamic, Entries.contains, Entries.get?_insert, dynamicMarker]

theorem alike (h : d.Reorders d') : d.Alike d' := by
  cases h with
  | top hvs hperm =>
    refine ⟨fun k hk _ => by rw [Entries.get?_insert, if_neg hk], ?_⟩
    rw [hvs, Entries.get?_insert, if_pos rfl]
    exact .moved hperm
  | nested _ _ _ =>
    refine ⟨fun k _ hdynamic => ?_, ?_⟩
    · rw [Entries.get?_insert, if_neg (ne_dynamicJson hdynamic)]
    · rw [Entries.get?_insert, if_neg (by decide)]
      exact .same _

/-- What the dynamic parts hold differs in the order of the services only, too. -/
theorem nested_alike (h : d.Reorders d') :
    (∀ k, k ≠ "services" → d'.nested? k = d.nested? k) ∧
      SameItems (d.nested? "services") (d'.nested? "services") := by
  cases h with
  | @top vs vs' _ _ =>
    have hnested : ∀ k, nested? (d.insert "services" (.list vs')) k = d.nested? k := fun k => by
      rw [nested?, Entries.get?_insert, if_neg (by decide), nested?]
    exact ⟨fun k _ => hnested k, by rw [hnested]; exact .same _⟩
  | @nested m vs vs' hm hvs hperm =>
    have hnested : ∀ k, nested? (d.insert "dynamicJson" (.object (m.insert "services" (.list vs'))))
        k = (m.insert "services" (.list vs')).get? k := fun k => by
      rw [nested?, Entries.get?_insert, if_pos rfl]
      rfl
    have hnested₀ : ∀ k, d.nested? k = m.get? k := fun k => by
      rw [nested?, hm]
      rfl
    refine ⟨fun k hk => ?_, ?_⟩
    · rw [hnested, hnested₀, Entries.get?_insert, if_neg hk]
    · rw [hnested, hnested₀, hvs, Entries.get?_insert, if_pos rfl]
      exact .moved hperm

theorem sorted_dynamicMembers (h : d.Reorders d') (hd : d.dynamicMembers.Sorted) :
    d'.dynamicMembers.Sorted := by
  unfold dynamicMembers dynamicContent at hd ⊢
  cases h with
  | top _ _ => rwa [Entries.get?_insert, if_neg (by decide)]
  | nested hm _ _ =>
    rw [hm] at hd
    rw [Entries.get?_insert, if_pos rfl]
    exact hd.insert _ _

theorem alike_flattenDynamic (h : d.Reorders d') (hd : d.Regular) :
    d.flattenDynamic.Alike d'.flattenDynamic := by
  have hsorted := hd.sorted_dynamicMembers
  have hsorted' := h.sorted_dynamicMembers hsorted
  obtain ⟨hother, hservices⟩ := h.nested_alike
  constructor
  · intro k hk hkeys
    rw [get?_flattenDynamic hsorted hkeys, get?_flattenDynamic hsorted' hkeys, hother k hk,
      h.alike.other k hk hkeys]
  · have hkeys : "services" ∉ dynamicKeys := by decide
    rw [get?_flattenDynamic hsorted hkeys, get?_flattenDynamic hsorted' hkeys]
    exact hservices.or h.alike.services

/-- Every slot reads a document and its reordering alike. -/
theorem alike_sensorDocument (h : d.Reorders d') (hd : d.Regular) (slot : DeviceSlot) :
    (slot.sensorDocument d).Alike (slot.sensorDocument d') := by
  unfold DeviceSlot.sensorDocument
  rw [h.isDynamic_eq]
  split
  · exact h.alike_flattenDynamic hd
  · exact h.alike

end Reorders

end Document

namespace DeviceSlot

variable {slot : DeviceSlot} {index : Nat} {experiment root : String} {sensor sensor' : Document}
  {device : CompleteDevice}

/-- The order of the services makes no difference if their uuids do. -/
theorem join_reordered (hsensor : sensor.Regular) (h : sensor.Reorders sensor')
    (hdistinct : ∀ record, SensorRecord.ofMembers (slot.sensorDocument sensor) = .ok record →
      (record.services.map Service.uuid).Nodup) :
    slot.join index experiment root sensor' = .ok device ↔
      slot.join index experiment root sensor = .ok device := by
  have halike := h.alike_sensorDocument hsensor slot
  simp only [join_eq_ok_iff, joined_iff]
  constructor
  · rintro ⟨record', hrecord', rfl⟩
    obtain ⟨services, hperm, hrecord⟩ := halike.symm.record hrecord'
    refine ⟨_, hrecord, ?_⟩
    exact (joinRecord_perm hperm ((hperm.map Service.uuid).nodup_iff.mpr
      (hdistinct _ hrecord))).symm
  · rintro ⟨record, hrecord, rfl⟩
    obtain ⟨services, hperm, hrecord'⟩ := halike.record hrecord
    exact ⟨_, hrecord', (joinRecord_perm hperm (hdistinct record hrecord)).symm⟩

end DeviceSlot

end Telemetry
