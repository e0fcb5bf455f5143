import Telemetry.Json.Typed
import Telemetry.Proofs.Results

/-!
# Passing over values

* `Json.length_skipString`, `Json.length_skipValue`: nothing is put in front of the text behind a
  string or a value.
* `Json.skipString_of_from`, `Json.skipValue_of_from`: the length of a text is fuel enough to pass
  over the string or the value at its start.
-/

namespace Telemetry.Json

variable {cs rest : List Char}

theorem length_skipSpace (cs : List Char) : (skipSpace cs).length ≤ cs.length :=
  (List.dropWhile_suffix _).length_le

theorem length_dropDigits (cs : List Char) : (cs.dropWhile Char.isDigit).length ≤ cs.length :=
  (List.dropWhile_suffix _).length_le

theorem length_lt_of_skipSpace {c : Char} (h : skipSpace cs = c :: rest) :
    rest.length < cs.length := by
  have hle := length_skipSpace cs
  rw [h, List.length_cons] at hle
  omega

theorem readWord_eq_ok_iff {w : List Char} : readWord w cs = .ok rest ↔ cs = w ++ rest := by
  induction w generalizing cs with
  | nil => simp [readWord]
  | cons c w ih =>
    cases cs with
    | nil => simp [readWord]
    | cons d cs =>
      by_cases hd : d = c
      · simp [readWord, hd, ih]
      · simp [readWord, hd]

theorem length_readWord {w : List Char} (h : readWord w cs = .ok rest) :
    rest.length ≤ cs.length := by
  rw [readWord_eq_ok_iff.mp h, List.length_append]
  exact Nat.le_add_left ..

theorem length_readHex {n : Nat} (h : readHex cs = .ok (n, rest)) : rest.length ≤ cs.length := by
  unfold readHex at h
  split at h
  · split at h
    · obtain ⟨-, rfl⟩ := Prod.mk.inj (Except.ok.inj h)
      simp only [List.length_cons]
      omega
    · cases h
  · split at h <;> cases h

theorem length_skipDigits (h : skipDigits cs = .ok rest) : rest.length ≤ cs.length := by
  cases cs with
  | nil => cases h
  | cons c cs =>
    rw [skipDigits] at h
    split at h
    · obtain rfl := Except.ok.inj h
      exact Nat.le_succ_of_le (length_dropDigits cs)
    · cases h

theorem length_skipExponent (h : skipExponent cs = .ok rest) : rest.length ≤ cs.length := by
  unfold skipExponent at h
  split at h
  · exact Nat.le_succ_of_le (length_skipDigits h)
  · exact Nat.le_succ_of_le (length_skipDigits h)
  · exact length_skipDigits h

theorem length_skipNumberEnd (h : skipNumberEnd cs = .ok rest) : rest.length ≤ cs.length := by
  unfold skipNumberEnd at h
  split at h
  · exact Nat.le_succ_of_le (length_skipExponent h)
  · exact Nat.le_succ_of_le (length_skipExponent h)
  · exact Nat.le_of_eq (congrArg List.length (Except.ok.inj h)).symm

theorem length_skipWhole (h : skipWhole cs = .ok rest) : rest.length ≤ cs.length := by
  unfold skipWhole at h
  split at h
  · split at h
    · cases h
    · exact Nat.le_of_lt (congrArg List.length (Except.ok.inj h) ▸ Nat.lt_succ_self _)
  · exact length_skipDigits h

theorem length_skipNumber (h : skipNumber cs = .ok rest) : rest.length ≤ cs.length := by
  obtain ⟨cs₁, hwhole, h⟩ := bind_eq_ok_iff.mp h
  have hle := length_skipWhole hwhole
  split at h
  · obtain ⟨cs₂, hdigits, h⟩ := bind_eq_ok_iff.mp h
    have hle' := length_skipDigits hdigits
    have hrest := length_skipNumberEnd h
    rw [List.length_cons] at hle
    omega
  · exact Nat.le_trans (length_skipNumberEnd h) hle

theorem length_skipEscape (h : skipEscape cs = .ok rest) : rest.length ≤ cs.length := by
  unfold skipEscape at h
  split at h
  · cases h
  · obtain ⟨⟨n, cs₁⟩, hhex, rfl⟩ := map_eq_ok_iff.mp h
    exact Nat.le_succ_of_le (length_readHex hhex)
  · split at h
    · obtain rfl := Except.ok.inj h
      exact Nat.le_succ _
    · cases h

theorem length_skipStringFrom {fuel : Nat} (h : skipStringFrom fuel cs = .ok rest) :
    rest.length ≤ cs.length := by
  induction fuel generalizing cs with
  | zero => cases h
  | succ fuel ih =>
    cases cs with
    | nil => cases h
    | cons c cs =>
      rw [skipStringFrom] at h
      split at h
      · obtain rfl := Except.ok.inj h
        exact Nat.le_succ _
      split at h
      · obtain ⟨cs₁, he, h⟩ := bind_eq_ok_iff.mp h
        exact Nat.le_succ_of_le (Nat.le_trans (ih h) (length_skipEscape he))
      split at h
      · cases h
      · exact Nat.le_succ_of_le (ih h)

theorem length_skipString (h : skipString cs = .ok rest) : rest.length ≤ cs.length :=
  length_skipStringFrom h

theorem length_skipLiteral {c : Char} (h : skipLiteral c cs = .ok rest) :
    rest.length ≤ cs.length + 1 := by
  unfold skipLiteral at h
  split at h
  · exact Nat.le_succ_of_le (length_readWord h)
  split at h
  · exact Nat.le_succ_of_le (length_readWord h)
  split at h
  · exact Nat.le_succ_of_le (length_readWord h)
  split at h
  · exact Nat.le_succ_of_le (length_skipNumber h)
  split at h
  · exact length_skipNumber h
  split at h
  · exact Nat.le_succ_of_le (length_skipString h)
  · cases h

/-- Values, items and members hold each other, so one induction on the fuel is for all three. -/
theorem length_skipFrom (fuel : Nat) :
    (∀ {cs rest}, skipValueFrom fuel cs = .ok rest → rest.length ≤ cs.length) ∧
    (∀ {cs rest}, skipItems fuel cs = .ok rest → rest.length ≤ cs.length) ∧
    ∀ {cs rest}, skipMembers fuel cs = .ok rest → rest.length ≤ cs.length := by
  induction fuel with
  | zero =>
    refine ⟨?_, ?_, ?_⟩
    · intro cs rest h
      rw [skipValueFrom] at h
      cases h
    · intro cs rest h
      rw [skipItems] at h
      cases h
    · intro cs rest h
      rw [skipMembers] at h
      cases h
  | succ fuel ih =>
    obtain ⟨hvalue, hitems, hmembers⟩ := ih
    refine ⟨?_, ?_, ?_⟩
    · intro cs rest h
      rw [skipValueFrom] at h
      split at h
      · cases h
      · next cs₁ hcs =>
        have hlt := length_lt_of_skipSpace hcs
        have hle := length_skipSpace cs₁
        split at h
        · cases h
        · next hcs₁ =>
          obtain rfl := Except.ok.inj h
          have hlt' := length_lt_of_skipSpace hcs₁
          omega
        · have hrest := hitems h
          omega
      · next cs₁ hcs =>
        have hlt := length_lt_of_skipSpace hcs
        have hle := length_skipSpace cs₁
        split at h
        · cases h
        · next hcs₁ =>
          obtain rfl := Except.ok.inj h
          have hlt' := length_lt_of_skipSpace hcs₁
          omega
        · have hrest := hmembers h
          omega
      · next hcs => exact Nat.le_trans (length_skipLiteral h) (length_lt_of_skipSpace hcs)
    · intro cs rest h
      rw [skipItems] at h
      obtain ⟨cs₁, hx, h⟩ := bind_eq_ok_iff.mp h
      have hle := hvalue hx
      split at h
      · cases h
      · next hcs =>
        obtain rfl := Except.ok.inj h
        exact Nat.le_trans (Nat.le_of_lt (length_lt_of_skipSpace hcs)) hle
      · next hcs =>
        have hlt := length_lt_of_skipSpace hcs
        have hrest := hitems h
        omega
      · cases h
    · intro cs rest h
      rw [skipMembers] at h
      split at h
      · cases h
      · next cs₁ hcs =>
        have hlt := length_lt_of_skipSpace hcs
        obtain ⟨cs₂, hkey, h⟩ := bind_eq_ok_iff.mp h
        have hle := length_skipString hkey
        split at h
        · cases h
        · next hcs₂ =>
          have hlt' := length_lt_of_skipSpace hcs₂
          obtain ⟨cs₃, hx, h⟩ := bind_eq_ok_iff.mp h
          have hle' := hvalue hx
          split at h
          · cases h
          · next hcs₃ =>
            obtain rfl := Except.ok.inj h
            have hlt'' := length_lt_of_skipSpace hcs₃
            omega
          · next hcs₃ =>
            have hlt'' := length_lt_of_skipSpace hcs₃
            have hrest := hmembers h
            omega
          · cases h
        · cases h
      · cases h

theorem length_skipValue (h : skipValue cs = .ok rest) : rest.length ≤ cs.length :=
  (length_skipFrom _).1 h

/-! ## Fuel -/

/-- A string that is passed with some fuel is passed with all that its length asks for. -/
theorem skipStringFrom_enough {fuel fuel' : Nat} (h : skipStringFrom fuel cs = .ok rest)
    (hfuel : cs.length < fuel') : skipStringFrom fuel' cs = .ok rest := by
  induction fuel generalizing cs fuel' with
  | zero => cases h
  | succ fuel ih =>
    obtain ⟨n, rfl⟩ := Nat.exists_eq_add_of_lt hfuel
    cases cs with
    | nil => cases h
    | cons c cs =>
      rw [List.length_cons] at hfuel
      rw [skipStringFrom] at h ⊢
      split at h
      · next hquote => rw [if_pos hquote, h]
      next hquote =>
      rw [if_neg hquote]
      split at h
      · next hescape =>
        rw [if_pos hescape]
        obtain ⟨mid, hmid, h⟩ := bind_eq_ok_iff.mp h
        have hle := length_skipEscape hmid
        exact bind_eq_ok_iff.mpr ⟨mid, hmid, ih h (by rw [List.length_cons]; omega)⟩
      next hescape =>
      rw [if_neg hescape]
      split at h
      · cases h
      · next hcontrol =>
        rw [if_neg hcontrol]
        exact ih h (by rw [List.length_cons]; omega)

theorem skipString_of_from {fuel : Nat} (h : skipStringFrom fuel cs = .ok rest) :
    skipString cs = .ok rest :=
  skipStringFrom_enough h (Nat.lt_succ_self _)

/-- A value that is passed with some fuel is passed with all that its length asks for, and so are
items and members. -/
theorem skipFrom_enough (fuel : Nat) :
    (∀ {cs rest fuel'}, skipValueFrom fuel cs = .ok rest → 2 * cs.length < fuel' →
      skipValueFrom fuel' cs = .ok rest) ∧
    (∀ {cs rest fuel'}, skipItems fuel cs = .ok rest → 2 * cs.length + 1 < fuel' →
      skipItems fuel' cs = .ok rest) ∧
    ∀ {cs rest fuel'}, skipMembers fuel cs = .ok rest → 2 * cs.length + 1 < fuel' →
      skipMembers fuel' cs = .ok rest := by
  induction fuel with
  | zero =>
    refine ⟨?_, ?_, ?_⟩
    · intro cs rest fuel' h
      rw [skipValueFrom] at h
      cases h
    · intro cs rest fuel' h
      rw [skipItems] at h
      cases h
    · intro cs rest fuel' h
      rw [skipMembers] at h
      cases h
  | succ fuel ih =>
    obtain ⟨hvalue, hitems, hmembers⟩ := ih
    refine ⟨?_, ?_, ?_⟩
    · intro cs rest fuel' h hfuel
      obtain ⟨n, rfl⟩ := Nat.exists_eq_add_of_lt hfuel
      rw [skipValueFrom] at h ⊢
      split at h
      · cases h
      · next cs₁ hcs =>
        have hlt := length_lt_of_skipSpace hcs
        have hle := length_skipSpace cs₁
        split at h
        · cases h
        · exact h
        · exact hitems h (by omega)
      · next cs₁ hcs =>
        have hlt := length_lt_of_skipSpace hcs
        have hle := length_skipSpace cs₁
        split at h
        · cases h
        · exact h
        · exact hmembers h (by omega)
      · exact h
    · intro cs rest fuel' h hfuel
      obtain ⟨n, rfl⟩ := Nat.exists_eq_add_of_lt hfuel
      rw [skipItems] at h ⊢
      obtain ⟨cs₁, hx, h⟩ := bind_eq_ok_iff.mp h
      have hle := (length_skipFrom fuel).1 hx
      refine bind_eq_ok_iff.mpr ⟨cs₁, hvalue hx (by omega), ?_⟩
      split at h
      · cases h
      · exact h
      · next hcs =>
        have hlt := length_lt_of_skipSpace hcs
        exact hitems h (by omega)
      · cases h
    · intro cs rest fuel' h hfuel
      obtain ⟨n, rfl⟩ := Nat.exists_eq_add_of_lt hfuel
      rw [skipMembers] at h ⊢
      split at h
      · cases h
      · next cs₁ hcs =>
        have hlt := length_lt_of_skipSpace hcs
        obtain ⟨cs₂, hkey, h⟩ := bind_eq_ok_iff.mp h
        have hle := length_skipString hkey
        refine bind_eq_ok_iff.mpr ⟨cs₂, hkey, ?_⟩
        split at h
        · cases h
        · next hcs₂ =>
          have hlt' := length_lt_of_skipSpace hcs₂
          obtain ⟨cs₃, hx, h⟩ := bind_eq_ok_iff.mp h
          have hle' := (length_skipFrom fuel).1 hx
          refine bind_eq_ok_iff.mpr ⟨cs₃, hvalue hx (by omega), ?_⟩
          split at h
          · cases h
          · exact h
          · next hcs₃ =>
            have hlt'' := length_lt_of_skipSpace hcs₃
            exact hmembers h (by omega)
          · cases h
        · cases h
      · cases h

theorem skipValue_of_from {fuel : Nat} (h : skipValueFrom fuel cs = .ok rest) :
    skipValue cs = .ok rest :=
  (skipFrom_enough fuel).1 h (by omega)

end Telemetry.Json
