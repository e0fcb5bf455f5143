import Telemetry.Proofs.Codec.Faithful

/-!
# Sensors and experiments are read as they were written

* `Field.faithful`, …, `SensorRecord.faithful`, `CompleteExperiment.faithful`: every value of these
  types is read back, wherever it stands.
* `ParserSlots.ofMembers_append`: the parsers that stand beside the keys of another object are read
  from among them.
* `DeviceSlot.readBack`, `ExperimentRecord.readBack`: a slot may hold an untyped value, which is
  read back unless it is null; `DeviceSlot.schema_ne_null`, `ExperimentRecord.schema_ne_null`: one that
  was read is not.
-/

namespace Telemetry

open Json (Faithful Legible ReadBack Standing)

/-! ## Parsers -/

@[simp] theorem Field.faithful (standing : Standing) :
    Faithful (Field.decode standing) Field.toJson := by
  refine fun f => ⟨nofun, ?_⟩
  simp [decode, toJson, ofMembers, Entries.field?_eq_mapM]

@[simp] theorem StructParser.faithful (standing : Standing) :
    Faithful (StructParser.decode standing) StructParser.toJson := by
  refine fun p => ⟨nofun, ?_⟩
  simp [decode, toJson, ofMembers, Entries.field?_eq_mapM]

@[simp] theorem JsonPayloadParser.faithful (standing : Standing) :
    Faithful (JsonPayloadParser.decode standing) JsonPayloadParser.toJson := by
  refine fun p => ⟨nofun, ?_⟩
  simp [decode, toJson, ofMembers, Entries.field?_eq_mapM]

@[simp] theorem JsonArrayParser.faithful (standing : Standing) :
    Faithful (JsonArrayParser.decode standing) JsonArrayParser.toJson := by
  refine fun p => ⟨nofun, ?_⟩
  simp [decode, toJson, ofMembers, Entries.field?_eq_mapM]

/-- A list of fields, as the parser of a single measurement. -/
@[simp] theorem Field.faithful_fields (standing : Standing) :
    Faithful (Json.decodeList (Field.decode standing))
      (fun fields => .list (fields.map Field.toJson)) :=
  fun fields => ⟨nofun, Json.faithful_list (Field.faithful standing) fields⟩

namespace ParserSlots

/-- The parsers are found among other members, unless these use a parser's key. -/
theorem ofMembers_append (standing : Standing) (s : ParserSlots) {m : Entries Json}
    (h : ∀ k : ParserKind, m.get? k.key = none) : ofMembers standing (s.members ++ m) = .ok s := by
  have hsingle := h .single
  have hjsonArray := h .jsonArray
  have hjsonPayload := h .jsonPayload
  have hstruct := h .struct
  simp [ofMembers, members, ParserKind.key, Entries.field?_eq_mapM] at *
  simp [*]

/-- The parsers leave the other keys of an object to it. -/
theorem get?_members_append (s : ParserSlots) (m : Entries Json) {key : String}
    (h : ∀ k : ParserKind, key ≠ k.key) : Entries.get? (s.members ++ m) key = m.get? key := by
  have hsingle : key ≠ "SingleMeasurementParser" := h .single
  have hjsonArray : key ≠ "jsonArrayParser" := h .jsonArray
  have hjsonPayload : key ≠ "jsonPayloadParser" := h .jsonPayload
  have hstruct : key ≠ "structParser" := h .struct
  simp [members, ParserKind.key, hsingle, hjsonArray, hjsonPayload, hstruct]

@[simp] theorem faithful : Faithful decode toJson := by
  refine fun s => ⟨nofun, ?_⟩
  have h := ofMembers_append .direct s (m := []) fun _ => rfl
  rwa [List.append_nil] at h

end ParserSlots

/-! ## Sensors -/

@[simp] theorem Characteristic.faithful : Faithful decode toJson := by
  refine fun c => ⟨nofun, ?_⟩
  simp only [decode, toJson, List.append_assoc, Entries.field?_eq_mapM]
  rw [ParserSlots.ofMembers_append _ _ (by rintro ⟨⟩ <;> simp [ParserKind.key]),
    ParserSlots.get?_members_append _ _ (by rintro ⟨⟩ <;> decide),
    ParserSlots.get?_members_append _ _ (by rintro ⟨⟩ <;> decide),
    ParserSlots.get?_members_append _ _ (by rintro ⟨⟩ <;> decide)]
  simp

@[simp] theorem Service.faithful : Faithful decode toJson := by
  refine fun s => ⟨nofun, ?_⟩
  simp [decode, toJson, ofMembers, Entries.field?_eq_mapM]

@[simp] theorem WhiteboardMeasure.faithful : Faithful decode toJson := by
  refine fun w => ⟨nofun, ?_⟩
  simp only [decode, toJson, Entries.field?_eq_mapM]
  rw [ParserSlots.ofMembers_append _ _ (by rintro ⟨⟩ <;> simp [ParserKind.key]),
    ParserSlots.get?_members_append _ _ (by rintro ⟨⟩ <;> decide),
    ParserSlots.get?_members_append _ _ (by rintro ⟨⟩ <;> decide)]
  simp

@[simp] theorem Whiteboard.faithful : Faithful decode toJson := by
  refine fun w => ⟨nofun, ?_⟩
  simp [decode, toJson, ofMembers, Entries.field?_eq_mapM]

@[simp] theorem SensorRecord.faithful : Faithful decode toJson := by
  refine fun s => ⟨nofun, ?_⟩
  simp [decode, toJson, ofMembers, Entries.field?_eq_mapM, idKey, whiteboardKey]

/-! ## Complete experiments -/

@[simp] theorem CompleteDevice.faithful : Faithful decode toJson := by
  refine fun d => ⟨nofun, ?_⟩
  simp [decode, toJson, ofMembers, Entries.field?_eq_mapM, SensorRecord.whiteboardKey]

@[simp] theorem CompleteExperiment.faithful : Faithful decode toJson := by
  refine fun e => ⟨nofun, ?_⟩
  simp [decode, toJson, ofMembers, Entries.field?_eq_mapM]

/-! ## Experiments -/

namespace DeviceSlot

/-- A slot is read back if its untyped value is not null. -/
theorem readBack {s : DeviceSlot} (h : s.dynamicSchema ≠ some .null) :
    ReadBack decode toJson s := by
  refine ⟨nofun, ?_⟩
  simp [decode, toJson, ofMembers, Entries.field?_eq_mapM, SensorRecord.whiteboardKey,
    dynamicMarker, Json.mapM_decodePresent h]

theorem schema_ne_null {s : DeviceSlot} (h : Legible decode s) : s.dynamicSchema ≠ some .null := by
  refine h.record (P := fun s => s.dynamicSchema ≠ some .null) (fun m hm => ?_) fun vs hvs => ?_
  · simp only [ofMembers, bind_eq_ok_iff, Decoded.pure_eq_ok, Except.ok.injEq] at hm
    obtain ⟨dynamicSchema, hschema, _, -, _, -, _, -, _, -, _, -, _, -, _, -, rfl⟩ := hm
    exact Legible.join_ne_null (Legible.field? hschema)
  · simp only [ofItems, bind_eq_ok_iff, Decoded.pure_eq_ok, Except.ok.injEq] at hvs
    obtain ⟨_, -, _, -, _, -, _, -, _, -, dynamicSchema, hschema, _, -, rfl⟩ := hvs
    exact Legible.join_ne_null (Legible.item? hschema)

end DeviceSlot

namespace ExperimentRecord

/-- An experiment is read back if the untyped values of its slots are not null. -/
theorem readBack {r : ExperimentRecord} (h : ∀ s ∈ r.devices, s.dynamicSchema ≠ some .null) :
    ReadBack decode toJson r := by
  refine ⟨nofun, ?_⟩
  have hdevices := Json.readBack_list fun s hs => DeviceSlot.readBack (h s hs)
  simp [decode, toJson, ofMembers, Entries.field?_eq_mapM, idKey, hdevices]

theorem schema_ne_null {r : ExperimentRecord} (h : Legible decode r) :
    ∀ s ∈ r.devices, s.dynamicSchema ≠ some .null := by
  refine h.record (P := fun r => ∀ s ∈ r.devices, s.dynamicSchema ≠ some .null)
    (fun m hm => ?_) fun vs hvs => ?_
  · simp only [ofMembers, bind_eq_ok_iff, Decoded.pure_eq_ok, Except.ok.injEq] at hm
    obtain ⟨_, -, _, -, devices, hdevices, rfl⟩ := hm
    exact fun s hs => DeviceSlot.schema_ne_null (Legible.getD_nil (Legible.field? hdevices) s hs)
  · simp only [ofItems, bind_eq_ok_iff, Decoded.pure_eq_ok, Except.ok.injEq] at hvs
    obtain ⟨_, -, _, -, devices, hdevices, rfl⟩ := hvs
    exact fun s hs => DeviceSlot.schema_ne_null (Legible.getD_nil (Legible.item? hdevices) s hs)

end ExperimentRecord

end Telemetry
