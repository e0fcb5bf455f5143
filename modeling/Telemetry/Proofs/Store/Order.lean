import Mathlib.Data.Set.List
import Telemetry.Proofs.Store.Lookup

/-!
# The order of ids

* `ObjectId.parse_ok_iff_hexDigits`: the texts that are read as ids are those of 24 hexadecimal
  digits.
* `DocumentStore.ids_through`: the keys of a collection are the texts of ids in ascending order.
* `ObjectId.texts_correspond`: ids, their texts and their orders correspond to each other.
-/

namespace Telemetry

namespace ObjectId

/-! ## Hexadecimal digits -/

/-- A hexadecimal digit of either case. -/
def IsHexDigit (c : Char) : Prop := '0' ≤ c ∧ c ≤ '9' ∨ 'a' ≤ c ∧ c ≤ 'f' ∨ 'A' ≤ c ∧ c ≤ 'F'

theorem isHexDigit_iff {c : Char} : IsHexDigit c ↔ ∃ d, digitValue? c = some d := by
  unfold IsHexDigit digitValue?
  split
  · next h => simp [h]
  · next h =>
    split
    · next h' => simp [h']
    · next h' =>
      split
      · next h'' => simp [h'']
      · next h'' => simp [h, h', h'']

/-- Hexadecimal digits have values. -/
theorem exists_digits {cs : List Char} (h : ∀ c ∈ cs, IsHexDigit c) :
    ∃ ds : List Nat, (∀ d ∈ ds, d < 16) ∧ cs.map Char.toLower = ds.map Text.hexDigit := by
  induction cs with
  | nil => exact ⟨[], by simp, rfl⟩
  | cons c cs ih =>
    obtain ⟨hc, hcs⟩ := List.forall_mem_cons.mp h
    obtain ⟨d, hd⟩ := isHexDigit_iff.mp hc
    obtain ⟨hlt, hlower⟩ := digitValue?_eq_some_iff.mp hd
    obtain ⟨ds, hds, heq⟩ := ih hcs
    exact ⟨d :: ds, List.forall_mem_cons.mpr ⟨hlt, hds⟩, by rw [List.map_cons, hlower, heq]; rfl⟩

/-- An even number of digits are those of bytes. -/
theorem exists_toHex {s : String} (hlength : s.length = 24) (h : ∀ c ∈ s.toList, IsHexDigit c) :
    ∃ x : ObjectId, s.toLower = x.toHex := by
  obtain ⟨ds, hlt, heq⟩ := exists_digits h
  have hds : ds.length = 24 := by
    rw [← hlength, ← String.length_toList, ← List.length_map Text.hexDigit, ← heq, List.length_map]
  have hhalves : halves (bytesOfDigits ds) = ds := halves_bytesOfDigits hlt (by rw [hds])
  have hbytes : (bytesOfDigits ds).length = 12 := by
    have hdouble := length_halves (bytesOfDigits ds)
    rw [hhalves, hds] at hdouble
    omega
  refine ⟨⟨bytesOfDigits ds, hbytes⟩, ?_⟩
  rw [← String.toList_inj, toList_toHex, toList_toLower, hhalves, heq]

theorem parse_ok_iff_hexDigits {s : String} :
    (∃ x, parse s = .ok x) ↔ s.length = 24 ∧ ∀ c ∈ s.toList, IsHexDigit c := by
  constructor
  · rintro ⟨x, hx⟩
    have hlower : s.toList.map Char.toLower = (halves x.bytes).map Text.hexDigit := by
      rw [← toList_toLower, parse_eq_ok_iff.mp hx, toList_toHex]
    constructor
    · rw [← String.length_toList, ← List.length_map Char.toLower, hlower, List.length_map,
        length_halves, x.length_eq]
    · intro c hc
      have hmem : c.toLower ∈ (halves x.bytes).map Text.hexDigit :=
        hlower ▸ List.mem_map_of_mem hc
      obtain ⟨d, hd, heq⟩ := List.mem_map.mp hmem
      exact isHexDigit_iff.mpr
        ⟨d, digitValue?_eq_some_iff.mpr ⟨lt_of_mem_halves hd, heq.symm⟩⟩
  · rintro ⟨hlength, h⟩
    obtain ⟨x, hx⟩ := exists_toHex hlength h
    exact ⟨x, parse_eq_ok_iff.mpr hx⟩

end ObjectId

/-! ## Keys -/

/-- Keys in ascending order that are texts of ids are those of ids in ascending order. -/
theorem MemoryStore.WellKept.exists_keys {m : MemoryStore} (h : m.WellKept) (c : String) :
    ∃ xs : List ObjectId, (m.documents c).map (·.1) = xs.map ObjectId.toHex ∧
      xs.Pairwise (·.bytes < ·.bytes) := by
  have hnamed : (m.documents c).map (·.1) ∈ Set.range (List.map ObjectId.toHex) := by
    rw [Set.range_list_map]
    intro k hk
    obtain ⟨e, he, rfl⟩ := List.mem_map.mp hk
    obtain ⟨x, hx⟩ := h.named c e he
    exact ⟨x, hx.symm⟩
  obtain ⟨xs, hxs⟩ := hnamed
  have hsorted : ((m.documents c).map (·.1)).Pairwise (· < ·) := List.pairwise_map.mpr (h.sorted c)
  rw [← hxs, List.pairwise_map] at hsorted
  exact ⟨xs, hxs.symm, hsorted.imp ObjectId.toHex_lt_toHex.mp⟩

/-- After requests to an empty store the keys of a collection are the texts of ids, which ascend. -/
theorem DocumentStore.ids_through {start : DocumentStore} (hstart : start.Holds [])
    (rs : Requests) (c : String) :
    ∃ xs : List ObjectId, (start.through rs).ids c = xs.map ObjectId.toHex ∧
      xs.Pairwise (·.bytes < ·.bytes) := by
  obtain ⟨m, hm, hw, -⟩ := holds_through hstart rs
  rw [hm.ids_eq]
  exact hw.exists_keys c

/-- A text is read as an id exactly if it is 24 hexadecimal digits of either case, and then the
text of this id is the one read, in lower case; the text of every id is read as this id; ids and
their texts are ordered alike. So both kinds of stores keep the documents of a collection in the
order of their ids, whatever was requested of them. -/
theorem ObjectId.texts_correspond :
    (∀ s, (∃ x, parse s = .ok x) ↔ s.length = 24 ∧ ∀ c ∈ s.toList, IsHexDigit c) ∧
      (∀ s x, parse s = .ok x → x.toHex = s.toLower) ∧
      (∀ x, parse x.toHex = .ok x) ∧
      (∀ x y : ObjectId, x.bytes < y.bytes ↔ x.toHex < y.toHex) ∧
      ∀ start ∈ [DocumentStore.memory [], DocumentStore.keyed []], ∀ (rs : Requests) (c : String),
        ∃ xs : List ObjectId, (start.through rs).ids c = xs.map toHex ∧
          xs.Pairwise (·.bytes < ·.bytes) := by
  refine ⟨fun s => parse_ok_iff_hexDigits, fun s x hx => (parse_eq_ok_iff.mp hx).symm,
    parse_toHex, fun x y => toHex_lt_toHex.symm, fun start hstart rs c => ?_⟩
  have hempty : start.Holds [] := by
    obtain rfl | rfl : start = .memory [] ∨ start = .keyed [] := by simpa using hstart
    · rfl
    · exact Represents.nil
  exact DocumentStore.ids_through hempty rs c

end Telemetry
