import Mathlib.Data.String.Basic
import Telemetry.Entries

/-!
# Ascending keys

* `Entries.Sorted`: the keys are in ascending order; `Sorted.insert` keeps it, and a sorted map
  holds one value for a key (`Sorted.get?_of_mem`).
* `Sorted.get?_union`, `Entries.mem_keys_union`, `Entries.get?_ofList`: the keys and values of maps
  that are put together.
* `Entries.mapValues`: another value for every key; it commutes with every operation.
-/

namespace Telemetry

namespace Entries

variable {α β : Type} {m : Entries α} {k : String} {v : α}

/-- The keys are in ascending order, so that no key is there twice. -/
def Sorted (m : Entries α) : Prop := m.Pairwise fun e e' => e.1 < e'.1

instance (m : Entries α) : Decidable m.Sorted :=
  inferInstanceAs (Decidable (m.Pairwise fun e e' => e.1 < e'.1))

theorem sorted_nil : Sorted ([] : Entries α) := .nil

theorem mem_insert {e : String × α} (h : e ∈ m.insert k v) : e = (k, v) ∨ e ∈ m := by
  induction m with
  | nil => exact .inl (List.mem_singleton.mp h)
  | cons e₀ m ih =>
    obtain ⟨k₀, v₀⟩ := e₀
    unfold insert at h
    split at h
    · exact (List.mem_cons.mp h).imp_right (List.mem_cons_of_mem _)
    · split at h
      · exact List.mem_cons.mp h
      · obtain rfl | h := List.mem_cons.mp h
        · exact .inr (.head _)
        · exact (ih h).imp_right (List.mem_cons_of_mem _)

theorem Sorted.insert (h : m.Sorted) (k : String) (v : α) : (m.insert k v).Sorted := by
  induction m with
  | nil => exact List.pairwise_singleton _ _
  | cons e m ih =>
    obtain ⟨k₀, v₀⟩ := e
    obtain ⟨hhead, htail⟩ := List.pairwise_cons.mp h
    unfold Entries.insert
    split
    · next heq =>
      subst heq
      exact List.pairwise_cons.mpr ⟨hhead, htail⟩
    · next hne =>
      split
      · next hlt =>
        refine List.pairwise_cons.mpr ⟨fun e he => ?_, h⟩
        obtain rfl | he := List.mem_cons.mp he
        · exact hlt
        · exact lt_trans hlt (hhead e he)
      · next hle =>
        refine List.pairwise_cons.mpr ⟨fun e he => ?_, ih htail⟩
        obtain rfl | he := mem_insert he
        · exact lt_of_le_of_ne (not_lt.mp hle) (Ne.symm hne)
        · exact hhead e he

/-- A key above all others is put at the end. -/
theorem insert_of_lt (h : ∀ e ∈ m, e.1 < k) (v : α) : m.insert k v = m ++ [(k, v)] := by
  induction m with
  | nil => rfl
  | cons e m ih =>
    obtain ⟨k₀, v₀⟩ := e
    obtain ⟨hhead, htail⟩ := List.forall_mem_cons.mp h
    have hhead : k₀ < k := hhead
    rw [Entries.insert, if_neg hhead.ne', if_neg hhead.asymm, ih htail, List.cons_append]

theorem mem_of_get? (h : m.get? k = some v) : (k, v) ∈ m := by
  induction m with
  | nil => cases h
  | cons e m ih =>
    obtain ⟨k₀, v₀⟩ := e
    rw [get?_cons] at h
    split at h
    · next heq =>
      obtain rfl := heq
      obtain rfl := Option.some.inj h
      exact .head _
    · exact .tail _ (ih h)

/-- A sorted map holds one value for a key. -/
theorem Sorted.get?_of_mem (hm : m.Sorted) (h : (k, v) ∈ m) : m.get? k = some v := by
  induction m with
  | nil => cases h
  | cons e m ih =>
    obtain ⟨hhead, htail⟩ := List.pairwise_cons.mp hm
    rw [get?_cons]
    obtain rfl | h := List.mem_cons.mp h
    · exact if_pos rfl
    · rw [if_neg (hhead _ h).ne']
      exact ih htail h

/-- A key below all others is not there. -/
theorem get?_eq_none_of_lt (h : ∀ e ∈ m, k < e.1) : m.get? k = none := by
  cases hv : m.get? k with
  | none => rfl
  | some v => exact (lt_irrefl k (h _ (mem_of_get? hv))).elim

/-- Values that are found under one key only are found by looking this key up. -/
theorem filter_of_key {p : α → Bool} (hm : m.Sorted) (h : ∀ e ∈ m, p e.2 = true → e.1 = k) :
    (m.map (·.2)).filter p = (m.get? k).toList.filter p := by
  induction m with
  | nil => rfl
  | cons e m ih =>
    obtain ⟨k₀, v₀⟩ := e
    obtain ⟨hhead, htail⟩ := List.pairwise_cons.mp hm
    obtain ⟨hkey, hkeys⟩ := List.forall_mem_cons.mp h
    rw [List.map_cons, List.filter_cons, get?_cons, ih htail hkeys]
    by_cases heq : k = k₀
    · subst heq
      have habsent : get? m k = none := get?_eq_none_of_lt hhead
      cases hp : p v₀ <;> simp [habsent, hp]
    · have hp : p v₀ = false := Bool.eq_false_iff.mpr fun hp => heq (hkey hp).symm
      simp [heq, hp]

/-! ## Keys of a union -/

theorem get?_union_of_none {n : Entries α} (h : n.get? k = none) (m : Entries α) :
    (m.union n).get? k = m.get? k := by
  induction n generalizing m with
  | nil => rfl
  | cons e n ih =>
    rw [get?_cons] at h
    split at h
    · cases h
    · next hne =>
      show ((m.insert e.1 e.2).union n).get? k = m.get? k
      rw [ih h, get?_insert, if_neg hne]

/-- What is put into a map wins over what was there. -/
theorem Sorted.get?_union {n : Entries α} (hn : n.Sorted) (m : Entries α) (k : String) :
    (m.union n).get? k = (n.get? k).or (m.get? k) := by
  induction n generalizing m with
  | nil => rfl
  | cons e n ih =>
    obtain ⟨k₀, v₀⟩ := e
    obtain ⟨hhead, htail⟩ := List.pairwise_cons.mp hn
    show ((m.insert k₀ v₀).union n).get? k = (get? ((k₀, v₀) :: n) k).or (m.get? k)
    rw [ih htail, get?_insert, get?_cons]
    by_cases heq : k = k₀
    · subst heq
      simp [get?_eq_none_of_lt hhead]
    · simp [heq]

theorem Sorted.union (hm : m.Sorted) (n : Entries α) : (m.union n).Sorted := by
  induction n generalizing m with
  | nil => exact hm
  | cons e n ih => exact ih (hm.insert e.1 e.2)

/-- What is in a union was in one of the two. -/
theorem mem_union {n : Entries α} {e : String × α} (h : e ∈ m.union n) : e ∈ m ∨ e ∈ n := by
  induction n generalizing m with
  | nil => exact .inl h
  | cons e₀ n ih =>
    have h : e ∈ (m.insert e₀.1 e₀.2).union n := h
    obtain hm | hn := ih h
    · obtain rfl | hm := mem_insert hm
      · exact .inr (.head _)
      · exact .inl hm
    · exact .inr (.tail _ hn)

theorem Sorted.erase (hm : m.Sorted) (k : String) : (m.erase k).Sorted := List.Pairwise.filter _ hm

theorem Sorted.nodup_keys (hm : m.Sorted) : (m.map Prod.fst).Nodup :=
  List.pairwise_map.mpr (hm.imp fun h => h.ne)

theorem mem_keys_iff :
    k ∈ m.map Prod.fst ↔ (m.get? k).isSome = true := by
  induction m with
  | nil => simp
  | cons e m ih =>
    obtain ⟨k₀, v₀⟩ := e
    rw [List.map_cons, List.mem_cons, ih, get?_cons]
    split <;> simp [*]

/-- Removing a key that is not there changes nothing. -/
theorem erase_of_get?_eq_none (h : m.get? k = none) : m.erase k = m := by
  refine List.filter_eq_self.mpr fun e he => bne_iff_ne.mpr ?_
  rintro rfl
  have hkey := mem_keys_iff.mp (List.mem_map_of_mem (f := Prod.fst) he)
  simp [h] at hkey

theorem mem_keys_insert {k' : String} :
    k' ∈ (m.insert k v).map Prod.fst ↔ k' = k ∨ k' ∈ m.map Prod.fst := by
  rw [mem_keys_iff, get?_insert, mem_keys_iff]
  split <;> simp [*]

/-- A key that is there is set in its place. -/
theorem Sorted.keys_insert (hm : m.Sorted) (h : k ∈ m.map Prod.fst) (v : α) :
    (m.insert k v).map Prod.fst = m.map Prod.fst := by
  induction m with
  | nil => cases h
  | cons e m ih =>
    obtain ⟨k₀, v₀⟩ := e
    obtain ⟨hhead, htail⟩ := List.pairwise_cons.mp hm
    unfold Entries.insert
    split
    · next heq => simp [heq]
    · next hne =>
      have hmem : k ∈ m.map Prod.fst := (List.mem_cons.mp h).resolve_left hne
      obtain ⟨e, he, rfl⟩ := List.mem_map.mp hmem
      have hlt : k₀ < e.1 := hhead e he
      rw [if_neg hlt.asymm, List.map_cons, ih htail hmem, List.map_cons]

theorem mem_keys_union {n : Entries α} :
    k ∈ (m.union n).map Prod.fst ↔ k ∈ m.map Prod.fst ∨ k ∈ n.map Prod.fst := by
  induction n generalizing m with
  | nil => simp [union]
  | cons e n ih =>
    show k ∈ ((m.insert e.1 e.2).union n).map Prod.fst ↔ _
    rw [ih, mem_keys_insert, List.map_cons, List.mem_cons]
    tauto

/-- The value of the only pair with a key. -/
theorem get?_ofList {pairs : List (String × α)} (h : (pairs.map Prod.fst).Nodup)
    (hv : (k, v) ∈ pairs) : (ofList pairs).get? k = some v := by
  have hunion : ∀ (m : Entries α), (m.union pairs).get? k = some v := by
    induction pairs with
    | nil => cases hv
    | cons e pairs ih =>
      intro m
      obtain ⟨hnew, h⟩ := List.nodup_cons.mp h
      show ((m.insert e.1 e.2).union pairs).get? k = some v
      obtain rfl | hv := List.mem_cons.mp hv
      · have habsent : Entries.get? pairs k = none := by
          simpa [mem_keys_iff] using hnew
        rw [get?_union_of_none habsent, get?_insert, if_pos rfl]
      · exact ih h hv _
  exact hunion []

/-! ## Other values -/

/-- Another value for every key. -/
def mapValues (f : α → β) (m : Entries α) : Entries β := m.map fun e => (e.1, f e.2)

@[simp] theorem mapValues_cons (f : α → β) (e : String × α) (m : Entries α) :
    mapValues f (e :: m) = (e.1, f e.2) :: mapValues f m := rfl

theorem Sorted.mapValues (hm : m.Sorted) (f : α → β) : Entries.Sorted (m.mapValues f) :=
  List.pairwise_map.mpr hm

theorem get?_mapValues (f : α → β) (m : Entries α) (k : String) :
    (m.mapValues f).get? k = (m.get? k).map f := by
  induction m with
  | nil => rfl
  | cons e m ih =>
    rw [mapValues_cons, get?_cons, ih, get?_cons]
    split <;> rfl

theorem contains_mapValues (f : α → β) (m : Entries α) (k : String) :
    (m.mapValues f).contains k = m.contains k := by
  simp [contains, get?_mapValues]

theorem mapValues_insert (f : α → β) (m : Entries α) (k : String) (v : α) :
    (m.insert k v).mapValues f = (m.mapValues f).insert k (f v) := by
  induction m with
  | nil => rfl
  | cons e m ih =>
    obtain ⟨k₀, v₀⟩ := e
    simp only [insert, mapValues_cons]
    split
    · rfl
    · split
      · rfl
      · exact congrArg _ ih

end Entries

end Telemetry
