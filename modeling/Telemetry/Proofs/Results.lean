import Mathlib.Data.List.Forall2

/-!
# Results in order

Steps that may fail are taken one after the other, up to the first that fails.

* `bind_eq_ok_iff`, `map_eq_ok_iff`, `mapError_eq_ok_iff`: when a step and what follows it succeed.
* `mapM_eq_ok_iff`, `exists_mapM_eq_ok_iff`: they succeed exactly if each of them does.
* `mem_mapM_iff`: their results are those of the single steps.
* `mapM_eq_error_iff`: they fail as the first of them that fails.
* `getElem?_of_mapM_eq_ok`, `getElem?_of_mapM_eq_error`: the same, place by place.
-/

namespace Telemetry

variable {α β ε : Type}

/-- A step and the one that follows it succeed exactly if both do. -/
theorem bind_eq_ok_iff {x : Except ε α} {f : α → Except ε β} {y : β} :
    (x >>= f) = .ok y ↔ ∃ a, x = .ok a ∧ f a = .ok y := by
  cases x <;> simp [bind, Except.bind]

theorem map_eq_ok_iff {x : Except ε α} {f : α → β} {y : β} :
    x.map f = .ok y ↔ ∃ a, x = .ok a ∧ f a = y := by
  cases x <;> simp [Except.map]

theorem mapError_eq_ok_iff {δ : Type} {x : Except ε α} {f : ε → δ} {y : α} :
    x.mapError f = .ok y ↔ x = .ok y := by
  cases x <;> simp [Except.mapError]

/-- Steps taken in order succeed exactly if each of them does. -/
theorem mapM_eq_ok_iff {f : α → Except ε β} {l : List α} {xs : List β} :
    l.mapM f = .ok xs ↔ List.Forall₂ (fun a x => f a = .ok x) l xs := by
  induction l generalizing xs with
  | nil => cases xs <;> simp [pure, Except.pure]
  | cons a l ih =>
    rw [List.mapM_cons]
    cases ha : f a with
    | error e => cases xs <;> simp [bind, Except.bind, ha]
    | ok x =>
      cases hl : l.mapM f with
      | error e => cases xs <;> simp [bind, Except.bind, ← ih, hl, ha]
      | ok ys => cases xs <;> simp [bind, Except.bind, pure, Except.pure, ← ih, hl, ha]

/-- Their results are those of the single steps. -/
theorem mem_mapM_iff {f : α → Except ε β} {l : List α} {xs : List β} (h : l.mapM f = .ok xs)
    {x : β} : x ∈ xs ↔ ∃ a ∈ l, f a = .ok x := by
  rw [mapM_eq_ok_iff] at h
  induction h with
  | nil => simp
  | cons hx _ ih => simp [ih, hx, eq_comm]

theorem exists_mapM_eq_ok_iff {f : α → Except ε β} {l : List α} :
    (∃ xs, l.mapM f = .ok xs) ↔ ∀ a ∈ l, ∃ x, f a = .ok x := by
  simp only [mapM_eq_ok_iff]
  induction l with
  | nil => simp
  | cons a l ih =>
    rw [List.forall_mem_cons, ← ih]
    constructor
    · rintro ⟨_, hx | ⟨hx, hxs⟩⟩
      exact ⟨⟨_, hx⟩, _, hxs⟩
    · rintro ⟨⟨x, hx⟩, xs, hxs⟩
      exact ⟨x :: xs, .cons hx hxs⟩

/-- They fail as the first of them that fails. -/
theorem mapM_eq_error_iff {f : α → Except ε β} {l : List α} {e : ε} :
    l.mapM f = .error e ↔ ∃ pre a post, l = pre ++ a :: post ∧
      (∀ a' ∈ pre, ∃ x, f a' = .ok x) ∧ f a = .error e := by
  induction l with
  | nil => simp [pure, Except.pure]
  | cons a l ih =>
    rw [List.mapM_cons]
    constructor
    · intro h
      cases ha : f a with
      | error e' =>
        obtain rfl : e' = e := by simpa [ha, bind, Except.bind] using h
        exact ⟨[], a, l, rfl, by simp, ha⟩
      | ok x =>
        cases hl : l.mapM f with
        | ok ys => simp [ha, hl, bind, Except.bind, pure, Except.pure] at h
        | error e' =>
          obtain rfl : e' = e := by simpa [ha, hl, bind, Except.bind] using h
          obtain ⟨pre, a', post, rfl, hpre, ha'⟩ := ih.mp hl
          exact ⟨a :: pre, a', post, rfl, List.forall_mem_cons.mpr ⟨⟨x, ha⟩, hpre⟩, ha'⟩
    · rintro ⟨pre, a', post, h, hpre, ha'⟩
      cases pre with
      | nil =>
        obtain ⟨rfl, -⟩ := List.cons.inj h
        rw [ha']
        rfl
      | cons b pre =>
        obtain ⟨rfl, htail⟩ := List.cons.inj h
        obtain ⟨⟨x, hx⟩, hpre⟩ := List.forall_mem_cons.mp hpre
        rw [hx, ih.mpr ⟨pre, a', post, htail, hpre, ha'⟩]
        rfl

/-! ## Place by place -/

/-- Each result stands at the place of its step. -/
theorem getElem?_of_mapM_eq_ok {f : α → Except ε β} {l : List α} {xs : List β}
    (h : l.mapM f = .ok xs) : xs.length = l.length ∧
      ∀ (i : Nat) (a : α), l[i]? = some a → ∃ x, xs[i]? = some x ∧ f a = .ok x := by
  obtain ⟨hlength, hsteps⟩ := List.forall₂_iff_get.mp (mapM_eq_ok_iff.mp h)
  refine ⟨hlength.symm, fun i a ha => ?_⟩
  obtain ⟨hi, rfl⟩ := List.getElem?_eq_some_iff.mp ha
  have hi' : i < xs.length := hlength ▸ hi
  exact ⟨xs[i], List.getElem?_eq_getElem hi', hsteps i hi hi'⟩

/-- The steps before the place of the first that fails succeed. -/
theorem getElem?_of_mapM_eq_error {f : α → Except ε β} {l : List α} {e : ε}
    (h : l.mapM f = .error e) : ∃ (i : Nat) (a : α), l[i]? = some a ∧ f a = .error e ∧
      ∀ j < i, ∀ a', l[j]? = some a' → ∃ x, f a' = .ok x := by
  obtain ⟨pre, a, post, rfl, hpre, ha⟩ := mapM_eq_error_iff.mp h
  refine ⟨pre.length, a, by simp, ha, fun j hj a' ha' => hpre a' ?_⟩
  rw [List.getElem?_append_left hj] at ha'
  exact List.mem_of_getElem? ha'

end Telemetry
