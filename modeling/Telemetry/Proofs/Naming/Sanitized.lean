import Mathlib.Data.List.Basic
import Telemetry.Proofs.Naming
import Telemetry.Proofs.Separated

/-!
# Sanitized texts

* `sanitize_append`, `sanitize_eq_self_iff`: texts are sanitized piece by piece, and plain texts are
  those that are left as they are.
* `measurementName_inj`: a measurement tells the sanitized parts that it is made of.
* `sanitize_retracts`: all laws of sanitized texts and measurements together.
-/

namespace Telemetry

theorem isPlain_iff {c : Char} :
    isPlain c = true ↔ ('a' ≤ c ∧ c ≤ 'z') ∨ ('0' ≤ c ∧ c ≤ '9') := by
  simp [isPlain]

/-- A plain character is its own lowercase form. -/
theorem lowerChar_of_isPlain {c : Char} (h : isPlain c = true) : Text.lowerChar c = [c] := by
  have hrange : (97 ≤ c.toNat ∧ c.toNat ≤ 122) ∨ (48 ≤ c.toNat ∧ c.toNat ≤ 57) := by
    simpa [isPlain_iff, Char.le_def, UInt32.le_iff_toNat_le] using h
  have hcapital : ¬ (65 ≤ c.toNat ∧ c.toNat ≤ 90) := by omega
  have hlower : c.toLower = c := dif_neg (by simpa [UInt32.le_iff_toNat_le] using hcapital)
  rw [Text.lowerChar, if_pos (by omega), hlower]

theorem toList_sanitize (s : String) :
    (sanitize s).toList = (s.toList.flatMap Text.lowerChar).filter isPlain := by
  rw [sanitize, String.toList_ofList]

/-- Each character is sanitized by itself. -/
theorem sanitize_append (s t : String) : sanitize (s ++ t) = sanitize s ++ sanitize t := by
  rw [← String.toList_inj, toList_sanitize, String.toList_append, List.flatMap_append,
    List.filter_append, String.toList_append, toList_sanitize, toList_sanitize]

/-- Plain texts, and no others, are left as they are. -/
theorem sanitize_eq_self_iff {s : String} :
    sanitize s = s ↔ ∀ c ∈ s.toList, isPlain c = true := by
  constructor
  · intro h c hc
    rw [← h] at hc
    exact isPlain_of_mem_sanitize hc
  · intro h
    have hlower : s.toList.flatMap Text.lowerChar = s.toList := by
      rw [List.flatMap_congr fun c hc => lowerChar_of_isPlain (h c hc), List.flatMap_singleton']
    rw [← String.toList_inj, toList_sanitize, hlower, List.filter_eq_self.mpr h]

/-- Whether an ASCII letter is a capital makes no difference to its lowercase form. -/
theorem lowerChar_toUpper (c : Char) : Text.lowerChar c.toUpper = Text.lowerChar c := by
  by_cases hc : c.toNat < 128
  · have hascii : ∀ n < 128,
        Text.lowerChar (Char.ofNat n).toUpper = Text.lowerChar (Char.ofNat n) := by decide
    rw [← Char.ofNat_toNat c]
    exact hascii _ hc
  · have hupper : c.toUpper = c := by
      refine dif_neg fun h => hc ?_
      exact Nat.lt_of_le_of_lt (UInt32.le_iff_toNat_le.mp h.2) (by decide)
    rw [hupper]

theorem sanitize_toUpper (s : String) : sanitize s.toUpper = sanitize s := by
  have hupper : s.toUpper.toList = s.toList.map Char.toUpper := String.toList_map
  rw [← String.toList_inj, toList_sanitize, toList_sanitize, hupper, List.flatMap_map]
  simp only [lowerChar_toUpper]

@[simp] theorem sanitize_sanitize (s : String) : sanitize (sanitize s) = sanitize s :=
  sanitize_eq_self_iff.mpr fun _ => isPlain_of_mem_sanitize

theorem measurementName_eq_none_iff {shortName name : String} :
    measurementName shortName name = none ↔ sanitize shortName = "" ∨ sanitize name = "" := by
  unfold measurementName
  split <;> simp_all

/-- The underscore of a measurement stands between its parts, so it tells them. -/
theorem measurementName_inj {shortName name shortName' name' m : String}
    (h : measurementName shortName name = some m)
    (h' : measurementName shortName' name' = some m) :
    sanitize shortName = sanitize shortName' ∧ sanitize name = sanitize name' := by
  obtain ⟨-, -, rfl⟩ := measurementName_eq_some_iff.mp h
  obtain ⟨-, -, h'⟩ := measurementName_eq_some_iff.mp h'
  have hmark : isPlain '_' = false := by decide
  have hunderscore : "_".toList = ['_'] := rfl
  rw [← String.toList_inj] at h'
  simp only [String.toList_append, hunderscore, List.append_assoc, List.singleton_append] at h'
  rw [append_mark_inj (notMem_sanitize hmark _) (notMem_sanitize hmark _), String.toList_inj,
    String.toList_inj] at h'
  exact h'

/-- Sanitizing keeps letters from `a` to `z` and digits only, leaves exactly the texts of these as
they are, changes nothing the second time, goes piece by piece and does not tell the capital letters
of ASCII from the small ones. There is no measurement exactly if nothing is left of a part; any other
has one underscore and tells the sanitized parts. -/
theorem sanitize_retracts (s t : String) :
    (∀ c ∈ (sanitize s).toList, ('a' ≤ c ∧ c ≤ 'z') ∨ ('0' ≤ c ∧ c ≤ '9')) ∧
    (sanitize s = s ↔ ∀ c ∈ s.toList, ('a' ≤ c ∧ c ≤ 'z') ∨ ('0' ≤ c ∧ c ≤ '9')) ∧
    sanitize (sanitize s) = sanitize s ∧
    sanitize (s ++ t) = sanitize s ++ sanitize t ∧
    sanitize s.toUpper = sanitize s ∧
    (measurementName s t = none ↔ sanitize s = "" ∨ sanitize t = "") ∧
    ∀ m, measurementName s t = some m → m.toList.count '_' = 1 ∧
      ∀ s' t', measurementName s' t' = some m →
        sanitize s' = sanitize s ∧ sanitize t' = sanitize t := by
  refine ⟨fun c hc => isPlain_iff.mp (isPlain_of_mem_sanitize hc), ?_, sanitize_sanitize s,
    sanitize_append s t, sanitize_toUpper s, measurementName_eq_none_iff,
    fun m hm => ⟨measurementName_count hm, ?_⟩⟩
  · rw [sanitize_eq_self_iff]
    exact forall₂_congr fun c _ => isPlain_iff
  · exact fun s' t' hm' => measurementName_inj hm' hm

/-- A dotted capital `İ` and the sign of the kelvin leave plain letters, and the measurement that
they make tells just these. -/
theorem sanitize_retracts_kelvin :
    measurementName "İ-7" "\u212a 2" = some "i7_k2" ∧ "i7_k2".toList.count '_' = 1 ∧
      ∀ s t, measurementName s t = some "i7_k2" → sanitize s = "i7" ∧ sanitize t = "k2" := by
  have hname : measurementName "İ-7" "\u212a 2" = some "i7_k2" := by decide +kernel
  have hshort : sanitize "İ-7" = "i7" := by decide +kernel
  have hrest : sanitize "\u212a 2" = "k2" := by decide +kernel
  obtain ⟨-, -, -, -, -, -, htell⟩ := sanitize_retracts "İ-7" "\u212a 2"
  obtain ⟨hcount, hparts⟩ := htell _ hname
  refine ⟨hname, hcount, fun s t h => ?_⟩
  rw [← hshort, ← hrest]
  exact hparts s t h

end Telemetry
