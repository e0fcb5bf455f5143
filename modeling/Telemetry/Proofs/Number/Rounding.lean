import Mathlib.Algebra.Order.Field.Power
import Mathlib.Data.Rat.Cast.Order
import Mathlib.Tactic.Linarith
import Mathlib.Tactic.Positivity
import Mathlib.Tactic.Ring
import Telemetry.Number.Binary64

/-!
# How far a rounded float lies from what was rounded

* `Binary64.magnitude`: the absolute value of a finite number, as a rational number.
* `Binary64.scaleOf_spec`: the power of two that a significand of 53 bits counts.
* `Binary64.near_ofRatio`: a quotient of ordinary size is rounded to a finite number that is at most
  the `2 ^ 53`th part greater.
* `Binary64.Near.mul_isInfinite`: two such numbers are multiplied without overflow if the quotients
  leave room for both roundings.
-/

namespace Telemetry

namespace Binary64

/-- The absolute value of a finite number. -/
def magnitude (x : Binary64) : ℚ := x.significand * 2 ^ x.scale

theorem two_zpow_pos (q : ℤ) : (0 : ℚ) < 2 ^ q := zpow_pos (by norm_num) q

/-! ## Bits -/

theorem toNat_ofMagnitude (negative : Bool) {m : Nat} (h : m < 2 ^ 63) :
    (ofMagnitude negative m).bits.toNat = if negative then m + 2 ^ 63 else m := by
  unfold ofMagnitude
  simp only [Nat.pow_eq]
  rw [UInt64.toNat_ofNat', Nat.mod_eq_of_lt]
  split <;> omega

theorem exponentBits_ofMagnitude (negative : Bool) {m : Nat} (h : m < 2 ^ 63) :
    (ofMagnitude negative m).exponentBits = m / 2 ^ 52 := by
  unfold exponentBits
  simp only [toNat_ofMagnitude negative h, Nat.pow_eq]
  split <;> omega

theorem fractionBits_ofMagnitude (negative : Bool) {m : Nat} (h : m < 2 ^ 63) :
    (ofMagnitude negative m).fractionBits = m % 2 ^ 52 := by
  unfold fractionBits
  simp only [toNat_ofMagnitude negative h, Nat.pow_eq]
  split <;> omega

/-- The bits after the sign are the exponent and the fraction. A significand of 54 bits, which is a
power of two, carries into the exponent. -/
theorem magnitude_ofMagnitude (negative : Bool) {e s : Nat} (hs : 2 ^ 52 ≤ s) (hs' : s ≤ 2 ^ 53)
    (he : e ≤ 2045) :
    (ofMagnitude negative (e * 2 ^ 52 + s)).magnitude = s * 2 ^ ((e : ℤ) - 1074) := by
  have hbits : e * 2 ^ 52 + s < 2 ^ 63 := by omega
  unfold magnitude significand scale
  rw [exponentBits_ofMagnitude negative hbits, fractionBits_ofMagnitude negative hbits]
  obtain rfl | hs' := Nat.eq_or_lt_of_le hs'
  · have hexponent : (e * 2 ^ 52 + 2 ^ 53) / 2 ^ 52 = e + 2 := by omega
    have hfraction : (e * 2 ^ 52 + 2 ^ 53) % 2 ^ 52 = 0 := by omega
    have hscale : ((max (e + 2) 1 : Nat) : ℤ) - 1075 = ((e : ℤ) - 1074) + 1 := by omega
    rw [hexponent, hfraction, if_neg (by omega), hscale, zpow_add_one₀ (by norm_num)]
    simp only [Nat.pow_eq]
    push_cast
    ring
  · have hexponent : (e * 2 ^ 52 + s) / 2 ^ 52 = e + 1 := by omega
    have hfraction : (e * 2 ^ 52 + s) % 2 ^ 52 + 2 ^ 52 = s := by omega
    have hscale : ((max (e + 1) 1 : Nat) : ℤ) - 1075 = (e : ℤ) - 1074 := by omega
    simp only [Nat.pow_eq]
    rw [hexponent, if_neg (by omega), hfraction, hscale]

/-! ## Rounding to an integer -/

/-- Rounding adds one half at most, and does not pass an integer. -/
theorem roundHalfEven_bounds (num : Nat) {den : Nat} (hden : 0 < den) :
    num / den ≤ roundHalfEven num den ∧ 2 * (den * roundHalfEven num den) ≤ 2 * num + den := by
  have hsplit := Nat.div_add_mod num den
  have hrest := Nat.mod_lt num hden
  have hnext : den * (num / den + 1) = den * (num / den) + den := Nat.mul_succ _ _
  unfold roundHalfEven
  simp only
  split
  · omega
  · split
    · omega
    · obtain hparity | hparity := Nat.mod_two_eq_zero_or_one (num / den)
      · rw [hparity, Nat.add_zero]
        omega
      · rw [hparity]
        omega

/-- A quotient is rounded to one of its two neighbours. -/
theorem roundHalfEven_cases (num den : Nat) :
    roundHalfEven num den = num / den ∨ roundHalfEven num den = num / den + 1 := by
  unfold roundHalfEven
  simp only
  split
  · exact .inl rfl
  · split
    · exact .inr rfl
    · obtain hparity | hparity := Nat.mod_two_eq_zero_or_one (num / den)
      · exact .inl (by rw [hparity, Nat.add_zero])
      · exact .inr (by rw [hparity])

/-! ## The scale of a quotient -/

theorem unitsOf_div (num den : Nat) (q : ℤ) :
    ((unitsOf num den q).1 : ℚ) / (unitsOf num den q).2 = num / den / 2 ^ q := by
  unfold unitsOf
  simp only [Nat.pow_eq]
  push_cast
  obtain ⟨n, rfl | rfl⟩ := Int.eq_nat_or_neg q
  · simp [div_div]
  · simp [mul_div_right_comm]

theorem unitsOf_pos (num : Nat) {den : Nat} (hden : 0 < den) (q : ℤ) : 0 < (unitsOf num den q).2 :=
  Nat.mul_pos hden (Nat.pow_pos (by decide))

theorem div_lt_iff_ratio {num den n : Nat} (hden : 0 < den) :
    num / den < n ↔ (num : ℚ) / den < n := by
  rw [Nat.div_lt_iff_lt_mul hden, div_lt_iff₀ (by exact_mod_cast hden)]
  exact_mod_cast Iff.rfl

/-- A quotient lies within a factor of two of the power of two that the numbers of bits give. -/
theorem ratio_bounds {num den : Nat} (hnum : 0 < num) (hden : 0 < den) :
    (2 : ℚ) ^ ((num.log2 : ℤ) - den.log2 - 1) < num / den ∧
      (num : ℚ) / den < 2 ^ ((num.log2 : ℤ) - den.log2 + 1) := by
  have hnum' : (2 : ℚ) ^ num.log2 ≤ num := by exact_mod_cast Nat.log2_self_le hnum.ne'
  have hnum'' : (num : ℚ) < 2 ^ (num.log2 + 1) := by exact_mod_cast Nat.lt_log2_self
  have hden' : (2 : ℚ) ^ den.log2 ≤ den := by exact_mod_cast Nat.log2_self_le hden.ne'
  have hden'' : (den : ℚ) < 2 ^ (den.log2 + 1) := by exact_mod_cast Nat.lt_log2_self
  have hpos : (0 : ℚ) < den := by exact_mod_cast hden
  constructor
  · rw [lt_div_iff₀ hpos]
    calc (2 : ℚ) ^ ((num.log2 : ℤ) - den.log2 - 1) * den
        < 2 ^ ((num.log2 : ℤ) - den.log2 - 1) * 2 ^ (den.log2 + 1) :=
          mul_lt_mul_of_pos_left hden'' (two_zpow_pos _)
      _ = 2 ^ num.log2 := by
          rw [← zpow_natCast, ← zpow_natCast, ← zpow_add₀ two_ne_zero]
          congr 1
          push_cast
          ring
      _ ≤ num := hnum'
  · rw [div_lt_iff₀ hpos]
    calc (num : ℚ) < 2 ^ (num.log2 + 1) := hnum''
      _ = 2 ^ ((num.log2 : ℤ) - den.log2 + 1) * 2 ^ den.log2 := by
          rw [← zpow_natCast, ← zpow_natCast, ← zpow_add₀ two_ne_zero]
          congr 1
          push_cast
          ring
      _ ≤ 2 ^ ((num.log2 : ℤ) - den.log2 + 1) * den :=
          mul_le_mul_of_nonneg_left hden' (two_zpow_pos _).le

/-- A quotient that is not too small is counted in units of which it has 53 bits. -/
theorem scaleOf_spec {num den : Nat} (hnum : 0 < num) (hden : 0 < den)
    (hnormal : (2 : ℚ) ^ (-1022 : ℤ) ≤ num / den) :
    (2 : ℚ) ^ 52 ≤ num / den / 2 ^ scaleOf num den ∧
      (num : ℚ) / den / 2 ^ scaleOf num den < 2 ^ 53 := by
  obtain ⟨hlower, hupper⟩ := ratio_bounds hnum hden
  generalize hr : (num : ℚ) / den = r at *
  obtain ⟨q, hq⟩ : ∃ q : ℤ, q = (num.log2 : ℤ) - den.log2 - 53 := ⟨_, rfl⟩
  have hmin : -1075 ≤ q := by
    have hpow : (2 : ℚ) ^ (-1022 : ℤ) < 2 ^ ((num.log2 : ℤ) - den.log2 + 1) :=
      hnormal.trans_lt hupper
    have := (zpow_lt_zpow_iff_right₀ (by norm_num : (1 : ℚ) < 2)).mp hpow
    omega
  have hlow : (2 : ℚ) ^ 52 < r / 2 ^ q := by
    have hexponent : ((52 : ℕ) : ℤ) + q = (num.log2 : ℤ) - den.log2 - 1 := by omega
    rwa [lt_div_iff₀ (two_zpow_pos q), ← zpow_natCast, ← zpow_add₀ two_ne_zero, hexponent]
  have hhigh : r / 2 ^ q < 2 ^ 54 := by
    have hexponent : ((54 : ℕ) : ℤ) + q = (num.log2 : ℤ) - den.log2 + 1 := by omega
    rwa [div_lt_iff₀ (two_zpow_pos q), ← zpow_natCast, ← zpow_add₀ two_ne_zero, hexponent]
  have hunits : (unitsOf num den q).1 / (unitsOf num den q).2 < Nat.pow 2 53 ↔
      r / 2 ^ q < 2 ^ 53 := by
    rw [div_lt_iff_ratio (unitsOf_pos num hden q), unitsOf_div, hr]
    norm_num
  have hscale : scaleOf num den = max (if r / 2 ^ q < 2 ^ 53 then q else q + 1) (-1074) := by
    unfold scaleOf
    simp only [← hq, hunits]
  rw [hscale]
  split
  · next hsmall =>
    -- the least quotient that is not too small has too many bits for the least unit
    have hq : -1074 ≤ q := by
      by_contra hq
      obtain rfl : q = -1075 := by omega
      rw [div_lt_iff₀ (two_zpow_pos _)] at hsmall
      have : (2 : ℚ) ^ 53 * 2 ^ (-1075 : ℤ) = 2 ^ (-1022 : ℤ) := by
        rw [← zpow_natCast, ← zpow_add₀ two_ne_zero]
        norm_num
      linarith
    rw [max_eq_left hq]
    exact ⟨hlow.le, hsmall⟩
  · next hlarge =>
    have hhalf : r / 2 ^ (q + 1) = r / 2 ^ q / 2 := by
      rw [zpow_add_one₀ two_ne_zero, div_div]
    rw [max_eq_left (by omega), hhalf]
    constructor <;> linarith

/-! ## Rounded quotients -/

/-- From here on a quotient is rounded to infinity. -/
def overflow : ℚ := (2 ^ 54 - 1) * 2 ^ (970 : ℤ)

/-- A finite number of 53 bits that a quotient may be rounded to. -/
structure Near (r : ℚ) (x : Binary64) : Prop where
  normal : 0 < x.exponentBits
  finite : x.exponentBits < 2047
  lower : r / 2 ≤ x.magnitude
  upper : x.magnitude ≤ r * (1 + 2 ^ (-53 : ℤ))

/-- A quotient of 53 bits is rounded to a significand of 53 bits, or to the least of 54. -/
theorem roundHalfEven_significand {num den : Nat} (hden : 0 < den)
    (hlow : (2 : ℚ) ^ 52 ≤ num / den) (hhigh : (num : ℚ) / den < 2 ^ 53) :
    2 ^ 52 ≤ roundHalfEven num den ∧ roundHalfEven num den ≤ 2 ^ 53 ∧
      (roundHalfEven num den : ℚ) ≤ num / den + 1 / 2 := by
  obtain ⟨hfloor, hhalf⟩ := roundHalfEven_bounds num hden
  generalize roundHalfEven num den = n at *
  have hnlow : 2 ^ 52 ≤ n := by
    refine le_trans ?_ hfloor
    by_contra hless
    rw [not_le, div_lt_iff_ratio hden] at hless
    norm_num at hless hlow
    linarith
  have hnratio : (n : ℚ) ≤ num / den + 1 / 2 := by
    have hden' : (0 : ℚ) < den := by exact_mod_cast hden
    have hhalf' : 2 * ((den : ℚ) * n) ≤ 2 * num + den := by exact_mod_cast hhalf
    rw [div_add_div _ _ hden'.ne' two_ne_zero, le_div_iff₀ (by positivity)]
    linarith
  have hnhigh : n < 2 ^ 53 + 1 := by
    have hless : (n : ℚ) < (2 ^ 53 + 1 : ℕ) := by
      push_cast
      linarith
    exact_mod_cast hless
  exact ⟨hnlow, Nat.lt_succ_iff.mp hnhigh, hnratio⟩

/-- A quotient below the overflow is counted in units up to that of the greatest numbers, and of
these it has no 54 bits after rounding. -/
theorem scale_le_of_lt_overflow {r : ℚ} {q : ℤ} {n : Nat} (hlow : (2 : ℚ) ^ 52 ≤ r / 2 ^ q)
    (hn : (n : ℚ) ≤ r / 2 ^ q + 1 / 2) (hoverflow : r < overflow) :
    q ≤ 971 ∧ (q = 971 → n < 2 ^ 53) := by
  obtain ⟨w, hw⟩ : ∃ w : ℚ, w = 2 ^ (970 : ℤ) := ⟨_, rfl⟩
  have hwpos : 0 < w := hw ▸ two_zpow_pos 970
  have hw971 : (2 : ℚ) ^ (971 : ℤ) = w * 2 := by
    rw [hw, ← zpow_add_one₀ two_ne_zero]
    rfl
  have hw972 : (2 : ℚ) ^ (972 : ℤ) = w * 2 * 2 := by
    rw [← hw971, ← zpow_add_one₀ two_ne_zero]
    rfl
  unfold overflow at hoverflow
  rw [← hw] at hoverflow
  have hulp := two_zpow_pos q
  constructor
  · by_contra hmax
    have hulp972 : (2 : ℚ) ^ (972 : ℤ) ≤ 2 ^ q := zpow_le_zpow_right₀ (by norm_num) (by omega)
    rw [hw972] at hulp972
    rw [le_div_iff₀ hulp] at hlow
    linarith only [hlow, hulp972, hoverflow, hwpos]
  · rintro rfl
    have hless : r / 2 ^ (971 : ℤ) < (2 ^ 54 - 1) / 2 := by
      rw [div_lt_iff₀ hulp, hw971]
      linarith
    have hnless : (n : ℚ) < (2 ^ 53 : ℕ) := by
      push_cast
      linarith
    exact_mod_cast hnless

/-- The number of a rounded significand is near what was rounded. -/
theorem near_ofMagnitude (negative : Bool) {r : ℚ} {q : ℤ} {n : Nat} (hmin : -1074 ≤ q)
    (hlow : (2 : ℚ) ^ 52 ≤ r / 2 ^ q) (hhigh : r / 2 ^ q < 2 ^ 53) (hoverflow : r < overflow)
    (hnlow : 2 ^ 52 ≤ n) (hnhigh : n ≤ 2 ^ 53) (hn : (n : ℚ) ≤ r / 2 ^ q + 1 / 2) :
    (q + 1074).toNat * 2 ^ 52 + n < infinityBits ∧
      Near r (ofMagnitude negative ((q + 1074).toNat * 2 ^ 52 + n)) := by
  obtain ⟨hmax, hgreatest⟩ := scale_le_of_lt_overflow hlow hn hoverflow
  have hbits : (q + 1074).toNat * 2 ^ 52 + n < 2047 * 2 ^ 52 := by
    obtain hq | hq : q ≤ 970 ∨ q = 971 := by omega
    · omega
    · have := hgreatest hq
      omega
  have hexponent := exponentBits_ofMagnitude negative (hbits.trans (by decide))
  have hvalue := magnitude_ofMagnitude negative hnlow hnhigh
    (show (q + 1074).toNat ≤ 2045 by omega)
  have hq : (((q + 1074).toNat : ℕ) : ℤ) - 1074 = q := by omega
  rw [hq] at hvalue
  have hulp := two_zpow_pos q
  generalize (2 : ℚ) ^ q = v at *
  have hr : r / v * v = r := div_mul_cancel₀ r hulp.ne'
  refine ⟨hbits, by omega, by omega, ?_, ?_⟩
  · have hnlow' : (2 : ℚ) ^ 52 ≤ n := by exact_mod_cast hnlow
    have hhalf : r / v / 2 ≤ n := by linarith
    calc r / 2 = r / v / 2 * v := by rw [div_mul_eq_mul_div, hr]
      _ ≤ n * v := mul_le_mul_of_nonneg_right hhalf hulp.le
      _ = _ := hvalue.symm
  · have hsmall : (2 : ℚ) ^ (-53 : ℤ) = 1 / 2 ^ 53 := by norm_num
    rw [le_div_iff₀ hulp] at hlow
    calc _ = n * v := hvalue
      _ ≤ (r / v + 1 / 2) * v := mul_le_mul_of_nonneg_right hn hulp.le
      _ = r + 1 / 2 * v := by rw [add_mul, hr]
      _ ≤ r * (1 + 2 ^ (-53 : ℤ)) := by
          rw [hsmall]
          linarith

/-- A quotient of ordinary size is rounded to a number that is not much greater. -/
theorem near_ofRatio (negative : Bool) {num den : Nat} (hnum : 0 < num) (hden : 0 < den)
    (hnormal : (2 : ℚ) ^ (-1022 : ℤ) ≤ num / den) (hoverflow : (num : ℚ) / den < overflow) :
    Near (num / den) (ofRatio negative num den) := by
  obtain ⟨hlow, hhigh⟩ := scaleOf_spec hnum hden hnormal
  have hmin : -1074 ≤ scaleOf num den := le_max_right _ _
  have hround : ofRatio negative num den = ofMagnitude negative (min
      ((scaleOf num den + 1074).toNat * 2 ^ 52 +
        roundHalfEven (unitsOf num den (scaleOf num den)).1 (unitsOf num den (scaleOf num den)).2)
      infinityBits) := by
    unfold ofRatio
    rw [if_neg hnum.ne']
    rfl
  have hratio := unitsOf_div num den (scaleOf num den)
  have hrounded : 2 ^ 52 ≤ _ ∧ _ ≤ 2 ^ 53 ∧ _ :=
    roundHalfEven_significand (unitsOf_pos num hden (scaleOf num den)) (hratio ▸ hlow)
      (hratio ▸ hhigh)
  rw [hratio] at hrounded
  obtain ⟨hnlow, hnhigh, hn⟩ := hrounded
  obtain ⟨hbits, hnear⟩ :=
    near_ofMagnitude negative hmin hlow hhigh hoverflow hnlow hnhigh hn
  rwa [hround, min_eq_left hbits.le]

theorem Near.isInfinite_eq_false {r : ℚ} {x : Binary64} (h : Near r x) : x.isInfinite = false := by
  have := h.finite
  simp [isInfinite, this.ne]

theorem near_ofNat {n : Nat} (hn : 0 < n) (hoverflow : (n : ℚ) < overflow) : Near n (ofNat n) := by
  have hone : (1 : ℚ) ≤ n := by exact_mod_cast hn
  have hleast : (2 : ℚ) ^ (-1022 : ℤ) ≤ 1 := zpow_le_one_of_nonpos₀ (by norm_num) (by norm_num)
  have hratio : (n : ℚ) / (1 : ℕ) = n := by simp
  have hnear := near_ofRatio false hn one_pos (by rw [hratio]; linarith)
    (by rwa [hratio])
  rwa [hratio] at hnear

/-! ## Products -/

/-- The quotient that a product is rounded from. -/
theorem mul_ratio (x y : Binary64) :
    ((x.significand * y.significand * Nat.pow 2 (x.scale + y.scale).toNat : ℕ) : ℚ) /
        (Nat.pow 2 (-(x.scale + y.scale)).toNat : ℕ) =
      x.magnitude * y.magnitude := by
  have hunits := unitsOf_div (x.significand * y.significand) 1 (-(x.scale + y.scale))
  simp only [unitsOf, neg_neg, Nat.one_mul] at hunits
  rw [hunits, zpow_neg, div_inv_eq_mul, zpow_add₀ two_ne_zero]
  unfold magnitude
  push_cast
  ring

/-- Two rounded numbers are multiplied without overflow if what they were rounded from leaves room
for both roundings. -/
theorem Near.mul_isInfinite {r r' : ℚ} {x y : Binary64} (hx : Near r x) (hy : Near r' y)
    (hr : 1 ≤ r) (hr' : 1 ≤ r')
    (hroom : r * r' * ((1 + 2 ^ (-53 : ℤ)) * (1 + 2 ^ (-53 : ℤ))) < overflow) :
    (x.mul y).isInfinite = false := by
  have hleast : (2 : ℚ) ^ (-1022 : ℤ) ≤ 2 ^ (-2 : ℤ) :=
    zpow_le_zpow_right₀ (by norm_num) (by norm_num)
  have hquarter : (2 : ℚ) ^ (-2 : ℤ) = 1 / 2 * (1 / 2) := by norm_num
  have hxlow : 1 / 2 ≤ x.magnitude := by linarith [hx.lower]
  have hylow : 1 / 2 ≤ y.magnitude := by linarith [hy.lower]
  have hlower : (2 : ℚ) ^ (-1022 : ℤ) ≤ x.magnitude * y.magnitude :=
    calc _ ≤ _ := hleast
      _ = 1 / 2 * (1 / 2) := hquarter
      _ ≤ x.magnitude * y.magnitude := mul_le_mul hxlow hylow (by norm_num) (by linarith)
  have hupper : x.magnitude * y.magnitude < overflow :=
    calc x.magnitude * y.magnitude
        ≤ (r * (1 + 2 ^ (-53 : ℤ))) * (r' * (1 + 2 ^ (-53 : ℤ))) :=
          mul_le_mul hx.upper hy.upper (by linarith) (by positivity)
      _ = r * r' * ((1 + 2 ^ (-53 : ℤ)) * (1 + 2 ^ (-53 : ℤ))) := by ring
      _ < overflow := hroom
  have hratio := mul_ratio x y
  have hpos : 0 < x.significand * y.significand * Nat.pow 2 (x.scale + y.scale).toNat := by
    refine Nat.pos_of_ne_zero fun hzero => ?_
    rw [hzero, Nat.cast_zero, zero_div] at hratio
    rw [← hratio] at hlower
    exact absurd hlower (not_le.mpr (two_zpow_pos _))
  exact (near_ofRatio _ hpos (Nat.pow_pos (by decide)) (hratio ▸ hlower)
    (hratio ▸ hupper)).isInfinite_eq_false

end Binary64

end Telemetry
