import Mathlib.Data.String.Basic
import Telemetry.ObjectId

/-!
# Ids and their texts

* `ObjectId.parse_eq_ok_iff`: a text is read as an id if it is that id's text up to the case of its
  letters.
* `ObjectId.toHex_lt_toHex`: the texts of ids are ordered as their bytes are.
-/

namespace Telemetry

namespace ObjectId

/-! ## Digits -/

/-- The two digits of every byte. -/
def halves (bytes : List UInt8) : List Nat := bytes.flatMap fun b => [b.toNat / 16, b.toNat % 16]

theorem halves_cons (b : UInt8) (bytes : List UInt8) :
    halves (b :: bytes) = b.toNat / 16 :: b.toNat % 16 :: halves bytes := rfl

theorem hexDigit_lt_hexDigit :
    ∀ d < 16, ∀ e < 16, (Text.hexDigit d < Text.hexDigit e ↔ d < e) := by decide

theorem hexDigit_inj : ∀ d < 16, ∀ e < 16, (Text.hexDigit d = Text.hexDigit e ↔ d = e) := by decide

theorem lt_of_digitValue? {c : Char} {d : Nat} (h : digitValue? c = some d) : c.toNat < 128 := by
  unfold digitValue? at h
  split at h
  · next hc => exact Nat.lt_of_le_of_lt (UInt32.le_iff_toNat_le.mp hc.2) (by decide)
  · split at h
    · next hc => exact Nat.lt_of_le_of_lt (UInt32.le_iff_toNat_le.mp hc.2) (by decide)
    · split at h
      · next hc => exact Nat.lt_of_le_of_lt (UInt32.le_iff_toNat_le.mp hc.2) (by decide)
      · cases h

theorem lt_of_toLower {c : Char} {d : Nat} (hd : d < 16) (h : c.toLower = Text.hexDigit d) :
    c.toNat < 128 := by
  have hdigit : ∀ d < 16, (Text.hexDigit d).toNat < 128 := by decide
  unfold Char.toLower at h
  split at h
  · next hc => exact Nat.lt_of_le_of_lt (UInt32.le_iff_toNat_le.mp hc.2) (by decide)
  · exact h ▸ hdigit d hd

/-- A digit is that of its value, in lower case. -/
theorem digitValue?_eq_some_iff {c : Char} {d : Nat} :
    digitValue? c = some d ↔ d < 16 ∧ c.toLower = Text.hexDigit d := by
  have hread : ∀ n < 128, ∀ d ∈ digitValue? (Char.ofNat n),
      d < 16 ∧ (Char.ofNat n).toLower = Text.hexDigit d := by decide
  have hwritten : ∀ n < 128, ∀ d < 16, (Char.ofNat n).toLower = Text.hexDigit d →
      digitValue? (Char.ofNat n) = some d := by decide
  constructor
  · intro h
    have hc := lt_of_digitValue? h
    rw [← Char.ofNat_toNat c] at h ⊢
    exact hread _ hc d h
  · rintro ⟨hd, h⟩
    have hc := lt_of_toLower hd h
    rw [← Char.ofNat_toNat c] at h ⊢
    exact hwritten _ hc d hd h

theorem digitValues_cons_eq_ok_iff {c : Char} {cs : List Char} {position d : Nat} {ds : List Nat} :
    digitValues position (c :: cs) = .ok (d :: ds) ↔
      digitValue? c = some d ∧ digitValues (position + 1) cs = .ok ds := by
  rw [digitValues]
  cases digitValue? c with
  | none => simp
  | some e => cases digitValues (position + 1) cs <;> simp [Except.map]

/-- The digits of a text are those of their values, in lower case. -/
theorem digitValues_eq_ok_iff {cs : List Char} {position : Nat} {ds : List Nat} :
    digitValues position cs = .ok ds ↔
      (∀ d ∈ ds, d < 16) ∧ cs.map Char.toLower = ds.map Text.hexDigit := by
  induction cs generalizing position ds with
  | nil => cases ds <;> simp [digitValues]
  | cons c cs ih =>
    cases ds with
    | nil =>
      rw [digitValues]
      cases digitValue? c with
      | none => simp
      | some d => cases digitValues (position + 1) cs <;> simp [Except.map]
    | cons d ds =>
      rw [digitValues_cons_eq_ok_iff, digitValue?_eq_some_iff, ih, List.forall_mem_cons,
        List.map_cons, List.map_cons, List.cons.injEq]
      tauto

/-! ## Bytes -/

theorem half_lt (b : UInt8) : b.toNat / 16 < 16 ∧ b.toNat % 16 < 16 := by
  have := b.toNat_lt
  omega

theorem lt_of_mem_halves {bytes : List UInt8} {d : Nat} (h : d ∈ halves bytes) : d < 16 := by
  obtain ⟨b, -, hd⟩ := List.mem_flatMap.mp h
  have := half_lt b
  simp only [List.mem_cons, List.not_mem_nil, or_false] at hd
  omega

theorem length_halves (bytes : List UInt8) : (halves bytes).length = 2 * bytes.length := by
  induction bytes with
  | nil => rfl
  | cons b bytes ih => simp [halves_cons, ih]; omega

theorem bytesOfDigits_halves (bytes : List UInt8) : bytesOfDigits (halves bytes) = bytes := by
  induction bytes with
  | nil => rfl
  | cons b bytes ih =>
    have hb : 16 * (b.toNat / 16) + b.toNat % 16 = b.toNat := by omega
    rw [halves_cons, bytesOfDigits, hb, ih, UInt8.ofNat_toNat]

/-- An even number of digits is the digits of their bytes. -/
theorem halves_bytesOfDigits {ds : List Nat} (h : ∀ d ∈ ds, d < 16) (heven : ds.length % 2 = 0) :
    halves (bytesOfDigits ds) = ds := by
  induction ds using bytesOfDigits.induct with
  | case1 high low ds ih =>
    obtain ⟨hhigh, h⟩ := List.forall_mem_cons.mp h
    obtain ⟨hlow, h⟩ := List.forall_mem_cons.mp h
    have hbyte : (UInt8.ofNat (16 * high + low)).toNat = 16 * high + low := by
      rw [UInt8.toNat_ofNat']
      omega
    have hds : halves (bytesOfDigits ds) = ds := ih h (by simp at heven; omega)
    rw [bytesOfDigits, halves_cons, hbyte, hds]
    congr 1
    · omega
    · congr 1
      omega
  | case2 ds hshort =>
    match ds, hshort, heven with
    | [], _, _ => rfl
    | high :: low :: ds, hshort, _ => exact absurd rfl (hshort high low ds)

theorem toList_toHex (x : ObjectId) : x.toHex.toList = (halves x.bytes).map Text.hexDigit := by
  rw [toHex, String.toList_ofList, halves, List.map_flatMap]
  rfl

/-- The text of an id is 24 digits, the letters in lower case. -/
theorem toHex_digits (x : ObjectId) :
    x.toHex.length = 24 ∧ ∀ c ∈ x.toHex.toList, c.isDigit = true ∨ 'a' ≤ c ∧ c ≤ 'f' := by
  have hdigit : ∀ d < 16, (Text.hexDigit d).isDigit = true ∨
      'a' ≤ Text.hexDigit d ∧ Text.hexDigit d ≤ 'f' := by decide
  constructor
  · rw [← String.length_toList, toList_toHex, List.length_map, length_halves, x.length_eq]
  · intro c hc
    rw [toList_toHex] at hc
    obtain ⟨d, hd, rfl⟩ := List.mem_map.mp hc
    exact hdigit d (lt_of_mem_halves hd)

/-! ## Texts -/

/-- Digits have one byte each. -/
theorem toList_toLower (s : String) : s.toLower.toList = s.toList.map Char.toLower :=
  String.toList_map

theorem utf8Len_of_map_toLower {cs : List Char} {ds : List Nat} (h : ∀ d ∈ ds, d < 16)
    (hcs : cs.map Char.toLower = ds.map Text.hexDigit) : String.utf8Len cs = ds.length := by
  induction cs generalizing ds with
  | nil =>
    cases ds with
    | nil => rfl
    | cons d ds => cases hcs
  | cons c cs ih =>
    cases ds with
    | nil => cases hcs
    | cons d ds =>
      obtain ⟨hd, h⟩ := List.forall_mem_cons.mp h
      obtain ⟨hc, hcs⟩ := List.cons.inj hcs
      have hascii : c.toNat ≤ 127 := Nat.le_of_lt_succ (lt_of_toLower hd hc)
      have hsize : c.utf8Size = 1 :=
        Char.utf8Size_eq_one_iff.mpr (UInt32.le_iff_toNat_le.mpr hascii)
      rw [String.utf8Len_cons, ih h hcs, hsize, List.length_cons]

/-- The texts that are read as an id are its own, up to the case of the letters. -/
theorem parse_eq_ok_iff {s : String} {x : ObjectId} : parse s = .ok x ↔ s.toLower = x.toHex := by
  have hlower : s.toLower = x.toHex ↔
      s.toList.map Char.toLower = (halves x.bytes).map Text.hexDigit := by
    rw [← String.toList_inj, toList_toHex, toList_toLower]
  rw [hlower]
  constructor
  · intro h
    unfold parse at h
    split at h
    · next hsize =>
      split at h
      · cases h
      · next ds hds =>
        obtain ⟨hlt, hdigits⟩ := digitValues_eq_ok_iff.mp hds
        have hlength : ds.length = 24 := by
          rw [← utf8Len_of_map_toLower hlt hdigits, String.utf8Len_toList, hsize]
        split at h
        · cases h
          rw [halves_bytesOfDigits hlt (by omega), hdigits]
        · cases h
    · cases h
  · intro h
    have hlt : ∀ d ∈ halves x.bytes, d < 16 := fun d => lt_of_mem_halves
    have hsize : s.utf8ByteSize = 24 := by
      rw [← String.utf8Len_toList, utf8Len_of_map_toLower hlt h, length_halves, x.length_eq]
    have hds : digitValues 0 s.toList = .ok (halves x.bytes) := digitValues_eq_ok_iff.mpr ⟨hlt, h⟩
    rw [parse, if_pos hsize, hds]
    simp [bytesOfDigits_halves, x.length_eq]

theorem toHex_toLower (x : ObjectId) : x.toHex.toLower = x.toHex := by
  have hdigit : ∀ d < 16, (Text.hexDigit d).toLower = Text.hexDigit d := by decide
  rw [← String.toList_inj, toList_toLower, toList_toHex, List.map_map]
  exact List.map_congr_left fun d hd => hdigit d (lt_of_mem_halves hd)

@[simp] theorem parse_toHex (x : ObjectId) : parse x.toHex = .ok x :=
  parse_eq_ok_iff.mpr x.toHex_toLower

theorem toHex_injective : Function.Injective toHex := by
  intro x y h
  have hx := x.parse_toHex
  rw [h, parse_toHex] at hx
  exact (Except.ok.inj hx).symm

/-- Two digits compare as the bytes they write. -/
theorem map_hexDigit_lt {as bs : List UInt8} :
    (halves as).map Text.hexDigit < (halves bs).map Text.hexDigit ↔ as < bs := by
  induction as generalizing bs with
  | nil => cases bs <;> simp [halves]
  | cons a as ih =>
    cases bs with
    | nil => simp [halves]
    | cons b bs =>
      obtain ⟨ha, ha'⟩ := half_lt a
      obtain ⟨hb, hb'⟩ := half_lt b
      simp only [halves_cons, List.map_cons, List.cons_lt_cons_iff, ih,
        hexDigit_lt_hexDigit _ ha _ hb, hexDigit_lt_hexDigit _ ha' _ hb', hexDigit_inj _ ha _ hb,
        hexDigit_inj _ ha' _ hb', UInt8.lt_iff_toNat_lt, ← UInt8.toNat_inj]
      by_cases has : as < bs
      · simp only [has, and_true]
        omega
      · simp only [has, and_false, or_false]
        omega

/-- The texts of ids are ordered as their bytes are. -/
theorem toHex_lt_toHex {x y : ObjectId} : x.toHex < y.toHex ↔ x.bytes < y.bytes := by
  rw [String.lt_iff_toList_lt, toList_toHex, toList_toHex, map_hexDigit_lt]

end ObjectId

end Telemetry
