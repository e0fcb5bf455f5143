import Telemetry.Proofs.Codec.Faithful
import Telemetry.Settings.Codec

/-!
# Settings are read as they were written

* `Settings.Bounded`: the numbers of settings are unsigned 64-bit integers.
* `Settings.readBack`: settings with such numbers are read back, from a document and from a file.
* `Settings.bounded`: settings that were read are such.
-/

namespace Telemetry

open Json (Faithful Legible ReadBack Standing)

/-! ## Parts of a section -/

namespace Json

@[simp] theorem decodePath_text (s : String) : decodePath (text s) = .ok s := rfl

@[simp] theorem decodeOption_ofOption (o : Option String) :
    decodeOption decodeText (ofOption o) = .ok o := by
  cases o <;> rfl

theorem decodeUnsigned_nat (name : String) {n : Nat} (h : (n : Int) ≤ unsignedMax) :
    decodeUnsigned name (nat n) = .ok n := by
  rw [nat, decodeUnsigned, if_pos ⟨Int.natCast_nonneg n, h⟩, Int.toNat_natCast]

theorem Legible.le_unsignedMax {name : String} {n : Nat} (h : Legible (decodeUnsigned name) n) :
    (n : Int) ≤ unsignedMax := by
  obtain ⟨v, h⟩ := h
  unfold decodeUnsigned at h
  split at h
  · split at h
    · next i hi =>
      cases h
      rw [Int.toNat_of_nonneg hi.1]
      exact hi.2
    · cases h
  · cases h

/-- A number that may be left out, with a small one in its place. -/
theorem Legible.getD_le_unsignedMax {name : String} {o : Option Nat} {standard : Nat}
    (h : ∀ n ∈ o, Legible (decodeUnsigned name) n) (hstandard : (standard : Int) ≤ unsignedMax) :
    ((o.getD standard : Nat) : Int) ≤ unsignedMax := by
  cases o with
  | none => exact hstandard
  | some n => exact (h n rfl).le_unsignedMax

end Json

@[simp] theorem NamingScope.decode_toJson (standing : Standing) (s : NamingScope) :
    decode standing s.toJson = .ok s := by
  cases s <;> rfl

/-! ## Sections -/

@[simp] theorem StorageSettings.faithful (standing : Standing) :
    Faithful (decode standing) toJson := by
  refine fun s => ⟨nofun, ?_⟩
  simp [decode, toJson, ofMembers, Entries.field?_eq_mapM]

@[simp] theorem NamingSettings.faithful (standing : Standing) :
    Faithful (decode standing) toJson := by
  refine fun n => ⟨nofun, ?_⟩
  simp [decode, toJson, ofMembers, ofOptions, Entries.field?_eq_mapM]

namespace BrokerSettings

theorem readBack (standing : Standing) {b : BrokerSettings}
    (h : (b.timeout : Int) ≤ Json.unsignedMax) : ReadBack (decode standing) toJson b := by
  refine ⟨nofun, ?_⟩
  simp [decode, toJson, ofMembers, ofOptions, Entries.field?_eq_mapM, Json.decodeUnsigned_nat _ h]

theorem timeout_le {standing : Standing} {b : BrokerSettings} (h : Legible (decode standing) b) :
    (b.timeout : Int) ≤ Json.unsignedMax := by
  refine h.record (P := fun b => (b.timeout : Int) ≤ Json.unsignedMax) (fun m hm => ?_)
    fun vs hvs => ?_
  · simp only [ofMembers, bind_eq_ok_iff, Decoded.pure_eq_ok, Except.ok.injEq] at hm
    obtain ⟨_, -, _, -, _, -, _, htimeout, _, -, rfl⟩ := hm
    exact Legible.getD_le_unsignedMax (Legible.field? htimeout) (by decide)
  · simp only [ofItems, bind_eq_ok_iff, Decoded.pure_eq_ok, Except.ok.injEq] at hvs
    obtain ⟨_, -, _, -, _, -, _, -, _, htimeout, rfl⟩ := hvs
    exact Legible.getD_le_unsignedMax (Legible.item? htimeout) (by decide)

end BrokerSettings

namespace SeriesSettings

theorem readBack (standing : Standing) {s : SeriesSettings}
    (hwindow : (s.window : Int) ≤ Json.unsignedMax)
    (htimeout : (s.timeout : Int) ≤ Json.unsignedMax) : ReadBack (decode standing) toJson s := by
  refine ⟨nofun, ?_⟩
  simp [decode, toJson, ofMembers, ofOptions, Entries.field?_eq_mapM,
    Json.decodeUnsigned_nat _ hwindow, Json.decodeUnsigned_nat _ htimeout]

theorem times_le {standing : Standing} {s : SeriesSettings} (h : Legible (decode standing) s) :
    (s.window : Int) ≤ Json.unsignedMax ∧ (s.timeout : Int) ≤ Json.unsignedMax := by
  refine h.record
    (P := fun s => (s.window : Int) ≤ Json.unsignedMax ∧ (s.timeout : Int) ≤ Json.unsignedMax)
    (fun m hm => ?_) fun vs hvs => ?_
  · simp only [ofMembers, bind_eq_ok_iff, Decoded.pure_eq_ok, Except.ok.injEq] at hm
    obtain ⟨_, -, _, -, _, htimeout, _, -, _, -, _, hwindow, rfl⟩ := hm
    exact ⟨Legible.getD_le_unsignedMax (Legible.field? hwindow) (by decide),
      Legible.getD_le_unsignedMax (Legible.field? htimeout) (by decide)⟩
  · simp only [ofItems, bind_eq_ok_iff, Decoded.pure_eq_ok, Except.ok.injEq] at hvs
    obtain ⟨_, -, _, -, _, -, _, -, _, hwindow, _, htimeout, rfl⟩ := hvs
    exact ⟨Legible.getD_le_unsignedMax (Legible.item? hwindow) (by decide),
      Legible.getD_le_unsignedMax (Legible.item? htimeout) (by decide)⟩

end SeriesSettings

namespace SyncSettings

theorem readBack (standing : Standing) {s : SyncSettings}
    (h : (s.concurrency : Int) ≤ Json.unsignedMax) : ReadBack (decode standing) toJson s := by
  refine ⟨nofun, ?_⟩
  simp [decode, toJson, ofMembers, Entries.field?_eq_mapM, Json.decodeUnsigned_nat _ h]

theorem concurrency_le {standing : Standing} {s : SyncSettings}
    (h : Legible (decode standing) s) : (s.concurrency : Int) ≤ Json.unsignedMax := by
  refine h.record (P := fun s => (s.concurrency : Int) ≤ Json.unsignedMax) (fun m hm => ?_)
    fun vs hvs => ?_
  · simp only [ofMembers, bind_eq_ok_iff, Decoded.pure_eq_ok, Except.ok.injEq] at hm
    obtain ⟨_, hconcurrency, rfl⟩ := hm
    exact Legible.getD_le_unsignedMax (Legible.field? hconcurrency) (by decide)
  · simp only [ofItems, bind_eq_ok_iff, Decoded.pure_eq_ok, Except.ok.injEq] at hvs
    obtain ⟨_, hconcurrency, rfl⟩ := hvs
    exact Legible.getD_le_unsignedMax (Legible.item? hconcurrency) (by decide)

end SyncSettings

/-! ## All settings -/

namespace Settings

/-- The numbers of settings are unsigned 64-bit integers. -/
structure Bounded (s : Settings) : Prop where
  brokerTimeout : (s.broker.timeout : Int) ≤ Json.unsignedMax
  window : (s.series.window : Int) ≤ Json.unsignedMax
  seriesTimeout : (s.series.timeout : Int) ≤ Json.unsignedMax
  concurrency : (s.sync.concurrency : Int) ≤ Json.unsignedMax

theorem readBack (standing : Standing) {s : Settings} (h : s.Bounded) :
    ReadBack (decode standing) toJson s := by
  refine ⟨nofun, ?_⟩
  have hbroker := (BrokerSettings.readBack standing h.brokerTimeout).2
  have hseries := (SeriesSettings.readBack standing h.window h.seriesTimeout).2
  have hnaming := (NamingSettings.faithful standing s.naming).2
  have hstorage := (StorageSettings.faithful standing s.storage).2
  have hsync := (SyncSettings.readBack standing h.concurrency).2
  simp [decode, toJson, ofMembers, ofOptions, Entries.field?_eq_mapM, hbroker, hseries, hnaming,
    hstorage, hsync]

/-- A section that was read is bounded, and so is the one that stands for a section left out. -/
theorem bounded_ofOptions {standing : Standing} {storage : Option StorageSettings}
    {broker : Option BrokerSettings} {series : Option SeriesSettings}
    {naming : Option NamingSettings} {sync : Option SyncSettings}
    (hbroker : ∀ b ∈ broker, Legible (BrokerSettings.decode standing) b)
    (hseries : ∀ s ∈ series, Legible (SeriesSettings.decode standing) s)
    (hsync : ∀ s ∈ sync, Legible (SyncSettings.decode standing) s) :
    (ofOptions storage broker series naming sync).Bounded where
  brokerTimeout := by
    cases broker with
    | none => show ((BrokerSettings.standard.timeout : Nat) : Int) ≤ _; decide
    | some b => exact BrokerSettings.timeout_le (hbroker b rfl)
  window := by
    cases series with
    | none => show ((SeriesSettings.standard.window : Nat) : Int) ≤ _; decide
    | some s => exact (SeriesSettings.times_le (hseries s rfl)).1
  seriesTimeout := by
    cases series with
    | none => show ((SeriesSettings.standard.timeout : Nat) : Int) ≤ _; decide
    | some s => exact (SeriesSettings.times_le (hseries s rfl)).2
  concurrency := by
    cases sync with
    | none => show ((SyncSettings.standard.concurrency : Nat) : Int) ≤ _; decide
    | some s => exact SyncSettings.concurrency_le (hsync s rfl)

theorem bounded {standing : Standing} {s : Settings} (h : Legible (decode standing) s) :
    s.Bounded := by
  refine h.record (fun m hm => ?_) fun vs hvs => ?_
  · simp only [ofMembers, bind_eq_ok_iff, Decoded.pure_eq_ok, Except.ok.injEq] at hm
    obtain ⟨_, hbroker, _, hseries, _, -, _, -, _, hsync, rfl⟩ := hm
    exact bounded_ofOptions (Legible.field? hbroker) (Legible.field? hseries)
      (Legible.field? hsync)
  · simp only [ofItems, bind_eq_ok_iff, Decoded.pure_eq_ok, Except.ok.injEq] at hvs
    obtain ⟨_, -, _, hbroker, _, hseries, _, -, _, hsync, rfl⟩ := hvs
    exact bounded_ofOptions (Legible.item? hbroker) (Legible.item? hseries) (Legible.item? hsync)

end Settings

end Telemetry
