/-!
# Entries in the order of their keys

A map from strings is a list of pairs in ascending order of the keys, which is the byte order of
their UTF-8 form.

* `Entries.get?`, `Entries.insert`, `Entries.erase`: look up, set and remove a key.
* `Entries.ofList`: a map from pairs in any order, a later pair replacing an earlier one.
* `get?_insert`, `get?_erase`: what a key holds after a change.
-/

namespace Telemetry

/-- Pairs of a key and a value; every operation keeps the keys in ascending order. -/
abbrev Entries (α : Type) := List (String × α)

namespace Entries

variable {α : Type}

/-- The value of a key. -/
def get? (m : Entries α) (k : String) : Option α := m.lookup k

def contains (m : Entries α) (k : String) : Bool := (m.get? k).isSome

/-- Set the value of a key. -/
def insert : Entries α → String → α → Entries α
  | [], k, v => [(k, v)]
  | (k', v') :: m, k, v =>
    if k = k' then (k, v) :: m
    else if k < k' then (k, v) :: (k', v') :: m
    else (k', v') :: insert m k v

/-- Remove a key. -/
def erase (m : Entries α) (k : String) : Entries α := m.filter fun e => e.1 != k

/-- The map of a list of pairs, of which a later one replaces an earlier one. -/
def ofList (pairs : List (String × α)) : Entries α :=
  pairs.foldl (fun m e => m.insert e.1 e.2) []

/-- Set every key of `n` in `m`. -/
def union (m n : Entries α) : Entries α := n.foldl (fun m e => m.insert e.1 e.2) m

/-- The value of a key is computed from its present value; an absent key begins with `start`. -/
def modify (m : Entries α) (k : String) (start : α) (f : α → α) : Entries α :=
  m.insert k (f ((m.get? k).getD start))

@[simp] theorem get?_nil (k : String) : get? ([] : Entries α) k = none := rfl

theorem get?_cons (k k' : String) (v : α) (m : Entries α) :
    get? ((k', v) :: m) k = if k = k' then some v else get? m k := by
  by_cases h : k = k'
  · simp [get?, h]
  · have : (k == k') = false := by simpa using h
    simp [get?, List.lookup_cons, this, h]

theorem get?_insert (m : Entries α) (k k' : String) (v : α) :
    (m.insert k v).get? k' = if k' = k then some v else m.get? k' := by
  induction m with
  | nil => simp [insert, get?_cons]
  | cons e m ih =>
    obtain ⟨k₀, v₀⟩ := e
    unfold insert
    split
    · subst k₀
      simp only [get?_cons]
      split <;> rfl
    · split
      · rw [get?_cons]
      · simp only [get?_cons, ih]
        split
        · rename_i h₁ _ h₂
          subst h₂
          simp [Ne.symm h₁]
        · rfl

theorem get?_erase (m : Entries α) (k k' : String) :
    (m.erase k).get? k' = if k' = k then none else m.get? k' := by
  induction m with
  | nil => simp [erase]
  | cons e m ih =>
    obtain ⟨k₀, v₀⟩ := e
    by_cases h : k₀ = k
    · subst h
      have : erase ((k₀, v₀) :: m) k₀ = erase m k₀ := by simp [erase]
      rw [this, ih, get?_cons]
      split <;> simp_all
    · have : erase ((k₀, v₀) :: m) k = (k₀, v₀) :: erase m k := by simp [erase, h]
      rw [this, get?_cons, ih, get?_cons]
      split
      · rename_i h₁
        subst h₁
        simp [h]
      · rfl

end Entries

end Telemetry
