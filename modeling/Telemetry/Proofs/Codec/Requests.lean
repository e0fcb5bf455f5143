import Telemetry.Broker.Payload
import Telemetry.Proofs.Codec.Faithful

/-!
# The broker's bodies are read as they were written

* `RulePayload.faithful`: every body of a rule is read back.
* `RemoteAction.readBack`, `ActionPayload.readBack`: a listed action and the body of an action may
  hold the times at which the action was written, whose kind only the broker knows; they are read
  back unless they are null.
* `RemoteAction.times_ne_null`, `ActionPayload.times_ne_null`: times that were read are not.
-/

namespace Telemetry

open Json (Faithful Legible ReadBack)

@[simp] theorem ActionParameters.faithful : Faithful decode toJson := by
  refine fun p => ⟨nofun, ?_⟩
  simp [decode, toJson, ofMembers, Entries.field?_eq_mapM]

@[simp] theorem ResourceOptions.faithful : Faithful decode toJson := by
  refine fun o => ⟨nofun, ?_⟩
  simp [decode, toJson, ofMembers, Entries.field?_eq_mapM]

theorem RulePayload.faithful : Faithful decode toJson := by
  refine fun p => ⟨nofun, ?_⟩
  simp [decode, toJson, ofMembers, Entries.field?_eq_mapM]

namespace RemoteAction

theorem readBack {a : RemoteAction} (hcreated : a.createdAt ≠ some .null)
    (hmodified : a.lastModifiedAt ≠ some .null) : ReadBack decode toJson a := by
  refine ⟨nofun, ?_⟩
  simp [decode, toJson, ofMembers, Entries.field?_eq_mapM, Json.mapM_decodePresent hcreated,
    Json.mapM_decodePresent hmodified]

theorem times_ne_null {a : RemoteAction} (h : Legible decode a) :
    a.createdAt ≠ some .null ∧ a.lastModifiedAt ≠ some .null := by
  refine h.record (P := fun a => a.createdAt ≠ some .null ∧ a.lastModifiedAt ≠ some .null)
    (fun m hm => ?_) fun vs hvs => ?_
  · simp only [ofMembers, bind_eq_ok_iff, Decoded.pure_eq_ok, Except.ok.injEq] at hm
    obtain ⟨_, hcreated, _, hmodified, _, -, _, -, _, -, rfl⟩ := hm
    exact ⟨Legible.join_ne_null (Legible.field? hcreated),
      Legible.join_ne_null (Legible.field? hmodified)⟩
  · simp only [ofItems, bind_eq_ok_iff, Decoded.pure_eq_ok, Except.ok.injEq] at hvs
    obtain ⟨_, -, _, -, _, hcreated, _, hmodified, rfl⟩ := hvs
    exact ⟨Legible.join_ne_null (Legible.item? hcreated),
      Legible.join_ne_null (Legible.item? hmodified)⟩

end RemoteAction

namespace ActionPayload

theorem readBack {p : ActionPayload} (hcreated : p.createdAt ≠ some .null)
    (hmodified : p.lastModifiedAt ≠ some .null) : ReadBack decode toJson p := by
  refine ⟨nofun, ?_⟩
  simp [decode, toJson, ofMembers, Entries.field?_eq_mapM, Json.mapM_decodePresent hcreated,
    Json.mapM_decodePresent hmodified, (ActionParameters.faithful _).2,
    (ResourceOptions.faithful _).2]

theorem times_ne_null {p : ActionPayload} (h : Legible decode p) :
    p.createdAt ≠ some .null ∧ p.lastModifiedAt ≠ some .null := by
  refine h.record (P := fun p => p.createdAt ≠ some .null ∧ p.lastModifiedAt ≠ some .null)
    (fun m hm => ?_) fun vs hvs => ?_
  · simp only [ofMembers, bind_eq_ok_iff, Decoded.pure_eq_ok, Except.ok.injEq] at hm
    obtain ⟨_, -, _, hcreated, _, -, _, -, _, hmodified, _, -, _, -, _, -, _, -, _, -, _, -, _, -,
      _, -, _, -, rfl⟩ := hm
    exact ⟨Legible.join_ne_null (Legible.field? hcreated),
      Legible.join_ne_null (Legible.field? hmodified)⟩
  · simp only [ofItems, bind_eq_ok_iff, Decoded.pure_eq_ok, Except.ok.injEq] at hvs
    obtain ⟨_, -, _, -, _, -, _, -, _, -, _, -, _, -, _, hcreated, _, hmodified, rfl⟩ := hvs
    exact ⟨Legible.join_ne_null (Legible.item? hcreated),
      Legible.join_ne_null (Legible.item? hmodified)⟩

end ActionPayload

end Telemetry
