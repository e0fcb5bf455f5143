import Telemetry.Number.Shortest
import Telemetry.Proofs.Number.Rounding

/-!
# Shortest digits

* `lt_pow_length_decimalDigits`, `pow_length_decimalDigits_le`: how many digits a number has.
* `Binary64.upper`: the upper end of the interval of what reads back as a number.
* `Binary64.onGrid_isSome_of_digits`: a grid that has at least 17 digits below a number has one that
  reads back.
* `Binary64.shortest_spec`: the shortest digits are at most 17, and do not pass the upper end.
-/

namespace Telemetry

/-! ## Decimal digits -/

section

variable {n k : Nat}

theorem isDigit_of_mem_decimalDigits {c : Char} (h : c ∈ decimalDigits n) : c.isDigit = true :=
  Nat.isDigit_of_mem_toDigits (by decide) (by decide) h

theorem decimalDigits_ne_nil (n : Nat) : decimalDigits n ≠ [] := Nat.toDigits_ne_nil

@[simp] theorem ofDigitChars_decimalDigits (n : Nat) :
    Nat.ofDigitChars 10 (decimalDigits n) 0 = n :=
  Nat.ofDigitChars_ten_toDigits

theorem head?_decimalDigits (hn : 0 < n) : (decimalDigits n).head? ≠ some '0' := by
  induction n using Nat.strong_induction_on with
  | _ n ih =>
    unfold decimalDigits
    by_cases hsmall : n < 10
    · have hdigit : ∀ d < 10, 0 < d → Nat.digitChar d ≠ '0' := by decide
      rw [Nat.toDigits_of_lt_base hsmall]
      simpa using hdigit n hsmall hn
    · have hsplit : n = 10 * (n / 10) + n % 10 := by omega
      rw [hsplit, ← Nat.toDigits_append_toDigits (by decide) (by omega) (by omega),
        List.head?_append, Option.or_of_isSome (by simp [Nat.toDigits_ne_nil])]
      exact ih (n / 10) (by omega) (by omega)

theorem length_decimalDigits_pos (n : Nat) : 0 < (decimalDigits n).length :=
  List.length_pos_iff.mpr (decimalDigits_ne_nil n)

theorem length_decimalDigits_le (hk : 0 < k) : (decimalDigits n).length ≤ k ↔ n < 10 ^ k :=
  Nat.length_toDigits_le_iff (by decide) hk

theorem lt_pow_length_decimalDigits (n : Nat) : n < 10 ^ (decimalDigits n).length :=
  (length_decimalDigits_le (length_decimalDigits_pos n)).mp le_rfl

theorem pow_length_decimalDigits_le (hn : 0 < n) : 10 ^ ((decimalDigits n).length - 1) ≤ n := by
  have hpos := length_decimalDigits_pos n
  by_contra hless
  rw [not_le] at hless
  by_cases hone : (decimalDigits n).length = 1
  · rw [hone, Nat.sub_self, pow_zero] at hless
    omega
  · have := (length_decimalDigits_le (by omega)).mpr hless
    omega

end

namespace Binary64

variable {x : Binary64} {p : ℤ} {d : Nat}

theorem ten_zpow_pos (p : ℤ) : (0 : ℚ) < 10 ^ p := zpow_pos (by norm_num) p

/-! ## Grids -/

/-- The two numbers of a pair, scaled by one factor. -/
theorem scaledPair_spec (a : Nat) (p : ℤ) (b : Nat) (q : ℤ) : ∃ c : ℚ, 0 < c ∧
    ((scaledPair a p b q).1 : ℚ) = a * 10 ^ p * c ∧
      ((scaledPair a p b q).2 : ℚ) = b * 2 ^ q * c := by
  refine ⟨10 ^ (-p).toNat * 2 ^ (-q).toNat, by positivity, ?_, ?_⟩
  · have hpow : (10 : ℚ) ^ p.toNat = 10 ^ p * 10 ^ (-p).toNat := by
      rw [← zpow_natCast, ← zpow_natCast, ← zpow_add₀ (by norm_num)]
      congr 1
      omega
    simp only [scaledPair, Nat.pow_eq]
    push_cast
    rw [hpow]
    ring
  · have hpow : (2 : ℚ) ^ q.toNat = 2 ^ q * 2 ^ (-q).toNat := by
      rw [← zpow_natCast, ← zpow_natCast, ← zpow_add₀ (by norm_num)]
      congr 1
      omega
    simp only [scaledPair, Nat.pow_eq]
    push_cast
    rw [hpow]
    ring

/-- A quarter of the place of the last bit of a number. -/
def quarter (x : Binary64) : ℚ := 2 ^ (x.scale - 2)

theorem quarter_pos (x : Binary64) : 0 < x.quarter := two_zpow_pos _

theorem magnitude_eq_quarters (x : Binary64) :
    x.magnitude = (4 * x.significand : ℕ) * x.quarter := by
  have hpow : (2 : ℚ) ^ (x.scale - 2 + 1 + 1) = 2 ^ (x.scale - 2) * 2 * 2 := by
    rw [zpow_add_one₀ two_ne_zero, zpow_add_one₀ two_ne_zero]
  rw [add_assoc, one_add_one_eq_two, sub_add_cancel] at hpow
  unfold magnitude quarter
  rw [hpow]
  push_cast
  ring

/-- The upper end of the interval of what reads back as a number. -/
def upper (x : Binary64) : ℚ := (4 * x.significand + 2 : ℕ) * x.quarter

/-- The lower end. -/
def lower (x : Binary64) : ℚ := x.quarters.1 * x.quarter

/-- What reads back lies in the interval. -/
theorem le_upper_of_readsBack (h : x.readsBack d p = true) : d * 10 ^ p ≤ x.upper := by
  obtain ⟨c, hc, hleft, hright⟩ := scaledPair_spec d p (4 * x.significand + 2) (x.scale - 2)
  have hle : (scaledPair d p (4 * x.significand + 2) (x.scale - 2)).1 ≤
      (scaledPair d p (4 * x.significand + 2) (x.scale - 2)).2 := by
    unfold readsBack quarters at h
    simp only at h
    split at h <;> simp only [Bool.and_eq_true, decide_eq_true_eq] at h
    · exact h.2
    · exact h.2.le
  have hle' : (d : ℚ) * 10 ^ p * c ≤ (4 * x.significand + 2 : ℕ) * 2 ^ (x.scale - 2) * c := by
    rw [← hleft, ← hright]
    exact_mod_cast hle
  exact le_of_mul_le_mul_right hle' hc

/-- What lies inside the interval reads back. -/
theorem readsBack_of_between (hlow : x.lower < d * 10 ^ p) (hhigh : d * 10 ^ p < x.upper) :
    x.readsBack d p = true := by
  obtain ⟨c, hc, hleft, hright⟩ := scaledPair_spec d p x.quarters.1 (x.scale - 2)
  obtain ⟨c', hc', hleft', hright'⟩ := scaledPair_spec d p (4 * x.significand + 2) (x.scale - 2)
  have hless : (scaledPair d p x.quarters.1 (x.scale - 2)).2 <
      (scaledPair d p x.quarters.1 (x.scale - 2)).1 := by
    have : (x.quarters.1 : ℚ) * 2 ^ (x.scale - 2) * c < d * 10 ^ p * c :=
      mul_lt_mul_of_pos_right hlow hc
    rw [← hleft, ← hright] at this
    exact_mod_cast this
  have hless' : (scaledPair d p (4 * x.significand + 2) (x.scale - 2)).1 <
      (scaledPair d p (4 * x.significand + 2) (x.scale - 2)).2 := by
    have : (d : ℚ) * 10 ^ p * c' < (4 * x.significand + 2 : ℕ) * 2 ^ (x.scale - 2) * c' :=
      mul_lt_mul_of_pos_right hhigh hc'
    rw [← hleft', ← hright'] at this
    exact_mod_cast this
  unfold readsBack
  unfold quarters at hless ⊢
  simp only at hless ⊢
  split <;> simp only [Bool.and_eq_true, decide_eq_true_eq]
  · exact ⟨hless.le, hless'.le⟩
  · exact ⟨hless, hless'⟩

/-- The number below a positive one on a grid. -/
def below (x : Binary64) (p : ℤ) : Nat :=
  (scaledPair 1 p (4 * x.significand) (x.scale - 2)).2 /
    (scaledPair 1 p (4 * x.significand) (x.scale - 2)).1

theorem below_spec (x : Binary64) (p : ℤ) :
    x.below p * 10 ^ p ≤ x.magnitude ∧ x.magnitude < (x.below p + 1 : ℕ) * 10 ^ p := by
  obtain ⟨c, hc, hunit, hvalue⟩ := scaledPair_spec 1 p (4 * x.significand) (x.scale - 2)
  have hpos : (0 : ℚ) < (scaledPair 1 p (4 * x.significand) (x.scale - 2)).1 := by
    rw [hunit]
    have := ten_zpow_pos p
    positivity
  have hpos' : 0 < (scaledPair 1 p (4 * x.significand) (x.scale - 2)).1 := by exact_mod_cast hpos
  unfold below
  generalize scaledPair 1 p (4 * x.significand) (x.scale - 2) = pair at *
  have hlow : pair.2 / pair.1 * pair.1 ≤ pair.2 := Nat.div_mul_le_self _ _
  have hhigh : pair.2 < (pair.2 / pair.1 + 1) * pair.1 := by
    rw [Nat.mul_comm]
    exact Nat.lt_mul_div_succ _ hpos'
  rw [magnitude_eq_quarters]
  constructor
  · refine le_of_mul_le_mul_right ?_ hc
    have : ((pair.2 / pair.1 * pair.1 : ℕ) : ℚ) ≤ pair.2 := by exact_mod_cast hlow
    rw [hvalue, Nat.cast_mul, hunit] at this
    unfold quarter
    linarith
  · refine lt_of_mul_lt_mul_right ?_ hc.le
    have : (pair.2 : ℚ) < ((pair.2 / pair.1 + 1) * pair.1 : ℕ) := by exact_mod_cast hhigh
    rw [hvalue, Nat.cast_mul (pair.2 / pair.1 + 1), hunit] at this
    unfold quarter
    linarith

/-- What a grid offers for a number is one of its two neighbours there, and reads back. -/
theorem onGrid_spec {r : Decimal} (h : x.onGrid p = some r) :
    r.exponent = p ∧ (r.digits = x.below p ∨ r.digits = x.below p + 1) ∧
      x.readsBack r.digits p = true := by
  unfold onGrid quarters at h
  simp only at h
  split at h
  · next hlow _ =>
    cases h
    exact ⟨rfl, .inl rfl, hlow⟩
  · next _ hhigh =>
    cases h
    exact ⟨rfl, .inr rfl, hhigh⟩
  · cases h
  · next hlow hhigh =>
    cases h
    have hcases : roundHalfEven (scaledPair 1 p (4 * x.significand) (x.scale - 2)).2
        (scaledPair 1 p (4 * x.significand) (x.scale - 2)).1 = x.below p ∨ _ = x.below p + 1 :=
      roundHalfEven_cases _ _
    obtain hround | hround := hcases
    · exact ⟨rfl, .inl hround, by rwa [hround]⟩
    · exact ⟨rfl, .inr hround, by rwa [hround]⟩

/-- A grid with a neighbour that reads back offers one. -/
theorem onGrid_isSome
    (h : x.readsBack (x.below p) p = true ∨ x.readsBack (x.below p + 1) p = true) :
    (x.onGrid p).isSome = true := by
  unfold onGrid quarters
  simp only
  split
  · rfl
  · rfl
  · next hlow hhigh =>
    have hlow : x.readsBack (x.below p) p = false := hlow
    have hhigh : x.readsBack (x.below p + 1) p = false := hhigh
    simp [hlow, hhigh] at h
  · rfl

/-! ## Seventeen digits -/

/-- The interval is four quarters wide, or three if the significand is the least of a full one. -/
theorem upper_sub_lower (hs : 0 < x.significand) :
    x.upper - x.lower = 4 * x.quarter ∨
      x.upper - x.lower = 3 * x.quarter ∧ x.significand = 2 ^ 52 := by
  unfold upper lower quarters
  simp only
  split
  · next hpower =>
    right
    have hfull : x.significand = 2 ^ 52 := by
      unfold significand
      rw [if_neg (by omega), hpower.1, Nat.zero_add]
      rfl
    refine ⟨?_, hfull⟩
    rw [Nat.cast_sub (by omega), hfull]
    push_cast
    ring
  · left
    rw [Nat.cast_sub (by omega)]
    push_cast
    ring

theorem lower_lt_magnitude (hs : 0 < x.significand) : x.lower < x.magnitude := by
  have hlow : x.quarters.1 < 4 * x.significand := by
    unfold quarters
    simp only
    split <;> omega
  rw [magnitude_eq_quarters]
  exact mul_lt_mul_of_pos_right (by exact_mod_cast hlow) x.quarter_pos

theorem magnitude_lt_upper (x : Binary64) : x.magnitude < x.upper := by
  rw [magnitude_eq_quarters]
  exact mul_lt_mul_of_pos_right (by exact_mod_cast (by omega)) x.quarter_pos

/-- Seventeen digits are enough: the unit of a grid on which a number has so many is narrower than
the interval, so that one of the number's neighbours lies inside. -/
theorem onGrid_isSome_of_digits (hs : 0 < x.significand) (hs' : x.significand < 2 ^ 53)
    (h : 10 ^ 16 * 10 ^ p ≤ x.magnitude) : (x.onGrid p).isSome = true := by
  refine onGrid_isSome ?_
  obtain ⟨hbelow, habove⟩ := x.below_spec p
  by_contra hneither
  rw [not_or] at hneither
  have hlow : (x.below p : ℚ) * 10 ^ p ≤ x.lower := by
    by_contra hlow
    exact hneither.1 (readsBack_of_between (not_le.mp hlow) (hbelow.trans_lt x.magnitude_lt_upper))
  have hhigh : x.upper ≤ (x.below p + 1 : ℕ) * 10 ^ p := by
    by_contra hhigh
    exact hneither.2 (readsBack_of_between ((lower_lt_magnitude hs).trans habove)
      (not_le.mp hhigh))
  have hunit : x.upper - x.lower ≤ 10 ^ p := by
    push_cast at hhigh
    linarith
  have hquarter := x.quarter_pos
  rw [magnitude_eq_quarters] at h
  have hs' : ((4 * x.significand : ℕ) : ℚ) < 4 * 2 ^ 53 := by exact_mod_cast (by omega)
  obtain hwidth | ⟨hwidth, hfull⟩ := upper_sub_lower hs
  · have : 10 ^ 16 * (4 * x.quarter) ≤ (4 * x.significand : ℕ) * x.quarter := by linarith
    nlinarith
  · rw [hfull] at h
    have : 10 ^ 16 * (3 * x.quarter) ≤ (4 * 2 ^ 52 : ℕ) * x.quarter := by linarith
    norm_num at this
    linarith

/-! ## The first digit -/

theorem scale_ge (x : Binary64) : -1074 ≤ x.scale := by
  unfold scale
  omega

/-- A number raised by a power of ten, without the fraction that remains. -/
def raised (x : Binary64) (m : Nat) : Nat :=
  x.significand * 2 ^ x.scale.toNat * 10 ^ m / 2 ^ (-x.scale).toNat

theorem raised_spec (x : Binary64) (m : Nat) :
    x.raised m ≤ x.magnitude * 10 ^ m ∧ x.magnitude * 10 ^ m < (x.raised m + 1 : ℕ) := by
  have hpow : (0 : ℚ) < 2 ^ (-x.scale).toNat := by positivity
  have hvalue : ((x.significand * 2 ^ x.scale.toNat * 10 ^ m : ℕ) : ℚ) =
      x.magnitude * 10 ^ m * 2 ^ (-x.scale).toNat := by
    have htwo : (2 : ℚ) ^ x.scale.toNat = 2 ^ x.scale * 2 ^ (-x.scale).toNat := by
      rw [← zpow_natCast, ← zpow_natCast, ← zpow_add₀ two_ne_zero]
      congr 1
      omega
    unfold magnitude
    push_cast
    rw [htwo]
    ring
  have hlow : x.raised m * 2 ^ (-x.scale).toNat ≤
      x.significand * 2 ^ x.scale.toNat * 10 ^ m := Nat.div_mul_le_self _ _
  have hhigh : x.significand * 2 ^ x.scale.toNat * 10 ^ m <
      (x.raised m + 1) * 2 ^ (-x.scale).toNat := by
    rw [Nat.mul_comm (x.raised m + 1)]
    exact Nat.lt_mul_div_succ _ (Nat.pow_pos (by decide))
  constructor
  · refine le_of_mul_le_mul_right ?_ hpow
    rw [← hvalue]
    exact_mod_cast hlow
  · refine lt_of_mul_lt_mul_right ?_ hpow.le
    rw [← hvalue]
    exact_mod_cast hhigh

/-- The least positive number is raised beyond one. -/
theorem raised_pos (hs : 0 < x.significand) {m : Nat} (hm : 2 ^ 1074 ≤ 10 ^ m) :
    0 < x.raised m := by
  have hscale : (-x.scale).toNat ≤ 1074 := by
    have := x.scale_ge
    omega
  have hless : 2 ^ (-x.scale).toNat ≤ x.significand * 2 ^ x.scale.toNat * 10 ^ m :=
    ((pow_le_pow_right₀ one_le_two hscale).trans hm).trans
      (Nat.le_mul_of_pos_left _ (Nat.mul_pos hs (Nat.pow_pos two_pos)))
  exact Nat.div_pos hless (Nat.pow_pos (by decide))

theorem leadingPlace_eq (x : Binary64) {m : Nat} (hm : m = 400) :
    x.leadingPlace = (decimalDigits (x.raised m)).length - 401 := by
  unfold leadingPlace raised
  simp only [← hm, Nat.pow_eq]

/-- The place of the first digit is the greatest power of ten that a number reaches. -/
theorem leadingPlace_spec (hs : 0 < x.significand) :
    (10 : ℚ) ^ x.leadingPlace ≤ x.magnitude ∧ x.magnitude < 10 ^ (x.leadingPlace + 1) := by
  obtain ⟨m, hm⟩ : ∃ m : Nat, m = 400 := ⟨_, rfl⟩
  have hplace := x.leadingPlace_eq hm
  have hlength := length_decimalDigits_pos (x.raised m)
  have hbig : 2 ^ 1074 ≤ 10 ^ m := hm ▸ by decide +kernel
  have hlow := pow_length_decimalDigits_le (raised_pos hs hbig)
  have hhigh := lt_pow_length_decimalDigits (x.raised m)
  obtain ⟨hfloor, hceil⟩ := x.raised_spec m
  have hpos : (0 : ℚ) < 10 ^ m := by positivity
  have hshift : ∀ e : ℤ, (10 : ℚ) ^ e * 10 ^ m = 10 ^ (e + 400) := fun e => by
    rw [← zpow_natCast, ← zpow_add₀ (by norm_num), hm, Nat.cast_ofNat]
  constructor
  · refine le_of_mul_le_mul_right ?_ hpos
    have hexponent : x.leadingPlace + 400 = ((decimalDigits (x.raised m)).length - 1 : ℕ) := by
      omega
    rw [hshift, hexponent, zpow_natCast]
    exact le_trans (by exact_mod_cast hlow) hfloor
  · refine lt_of_mul_lt_mul_right ?_ hpos.le
    have hexponent : x.leadingPlace + 1 + 400 = ((decimalDigits (x.raised m)).length : ℕ) := by
      omega
    rw [hshift, hexponent, zpow_natCast]
    exact lt_of_lt_of_le hceil (by exact_mod_cast hhigh)

theorem leadingPlace_ge (x : Binary64) : -400 ≤ x.leadingPlace := by
  have hplace := x.leadingPlace_eq rfl
  have hlength := length_decimalDigits_pos (x.raised 400)
  omega

/-! ## The digits that are chosen -/

/-- The digits of a grid that starts `n` places below the first digit. -/
theorem below_bounds (hs : 0 < x.significand) (n : Nat) :
    10 ^ n ≤ x.below (x.leadingPlace - n) ∧ x.below (x.leadingPlace - n) < 10 ^ (n + 1) := by
  obtain ⟨hlow, hhigh⟩ := leadingPlace_spec hs
  obtain ⟨hbelow, habove⟩ := x.below_spec (x.leadingPlace - n)
  have hunit := ten_zpow_pos (x.leadingPlace - n)
  have hfirst : (10 : ℚ) ^ x.leadingPlace = 10 ^ n * 10 ^ (x.leadingPlace - n) := by
    rw [← zpow_natCast, ← zpow_add₀ (by norm_num)]
    congr 1
    ring
  have hnext : (10 : ℚ) ^ (x.leadingPlace + 1) = 10 ^ (n + 1) * 10 ^ (x.leadingPlace - n) := by
    rw [zpow_add_one₀ (by norm_num), hfirst, pow_succ]
    ring
  constructor
  · have hless : (10 : ℚ) ^ n < (x.below (x.leadingPlace - n) + 1 : ℕ) :=
      lt_of_mul_lt_mul_right ((hfirst ▸ hlow).trans_lt habove) hunit.le
    have : 10 ^ n < x.below (x.leadingPlace - n) + 1 := by exact_mod_cast hless
    omega
  · have hless : (x.below (x.leadingPlace - n) : ℚ) < 10 ^ (n + 1) :=
      lt_of_mul_lt_mul_right (hbelow.trans_lt (hnext ▸ hhigh)) hunit.le
    exact_mod_cast hless

/-- The shortest digits are those of the first grid that offers some. -/
theorem exists_grid (hs : 0 < x.significand) (hs' : x.significand < 2 ^ 53) :
    ∃ n < 17, ∃ r, x.onGrid (x.leadingPlace - (n : ℕ)) = some r ∧ x.shortest = dropZero r := by
  have hsome : ((List.range 17).findSome? fun (n : ℕ) => x.onGrid (x.leadingPlace - n)).isSome := by
    refine List.findSome?_isSome_iff.mpr ⟨16, by simp, onGrid_isSome_of_digits hs hs' ?_⟩
    have hfirst : (10 : ℚ) ^ 16 * 10 ^ (x.leadingPlace - (16 : ℕ)) = 10 ^ x.leadingPlace := by
      rw [← zpow_natCast, ← zpow_add₀ (by norm_num)]
      congr 1
      ring
    rw [hfirst]
    exact (leadingPlace_spec hs).1
  obtain ⟨r, hr⟩ := Option.isSome_iff_exists.mp hsome
  obtain ⟨n, hn, hgrid⟩ := List.exists_of_findSome?_eq_some hr
  refine ⟨n, List.mem_range.mp hn, r, hgrid, ?_⟩
  unfold shortest
  simp only [hr, Option.getD_some]

theorem dropZero_value (d : Decimal) :
    ((dropZero d).digits : ℚ) * 10 ^ (dropZero d).exponent = d.digits * 10 ^ d.exponent := by
  unfold dropZero
  split
  · next hzero =>
    have hdigits : (d.digits : ℚ) = (d.digits / 10 : ℕ) * 10 := by
      have : d.digits = d.digits / 10 * 10 := by omega
      exact_mod_cast this
    rw [hdigits, zpow_add_one₀ (by norm_num)]
    ring
  · rfl

theorem dropZero_digits (d : Decimal) :
    (dropZero d).digits = if d.digits % 10 = 0 then d.digits / 10 else d.digits := by
  unfold dropZero
  split <;> rfl

theorem le_dropZero_exponent (d : Decimal) : d.exponent ≤ (dropZero d).exponent := by
  unfold dropZero
  split
  · exact Int.le_add_one le_rfl
  · exact le_rfl

/-- The shortest digits of a finite number are at most 17, and do not pass the upper end of the
interval of what reads back. -/
theorem shortest_spec (hs : 0 < x.significand) (hs' : x.significand < 2 ^ 53) :
    0 < x.shortest.digits ∧ x.shortest.digits < 10 ^ 17 ∧ -416 ≤ x.shortest.exponent ∧
      x.shortest.digits * 10 ^ x.shortest.exponent ≤ x.upper := by
  obtain ⟨n, hn, r, hgrid, hshortest⟩ := exists_grid hs hs'
  obtain ⟨hexponent, hdigits, hreads⟩ := onGrid_spec hgrid
  obtain ⟨hlow, hhigh⟩ := below_bounds hs n
  have hplace := x.leadingPlace_ge
  have hone : 1 ≤ 10 ^ n := Nat.pow_pos (by decide)
  have hmost : 10 ^ (n + 1) ≤ 10 ^ 17 := Nat.pow_le_pow_right (by decide) (by omega)
  have hdropped := le_dropZero_exponent r
  rw [hshortest, dropZero_value, hexponent, dropZero_digits]
  refine ⟨?_, ?_, by omega, le_upper_of_readsBack hreads⟩
  · split <;> omega
  · split <;> omega

end Binary64

end Telemetry
