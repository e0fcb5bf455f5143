import Telemetry.Proofs.Json.Number

/-!
# Finite floats read back from their JSON text

A float is written with its shortest digits and read by multiplying or dividing two rounded numbers.
The two roundings may take what is read past the last finite number only from close below it.

* `Binary64.scaled?_isSome`: digits and a power of ten that leave room for two roundings are read.
* `Binary64.reread?_isSome`: the digits of all but the three greatest numbers leave room, and those
  of the three are read all the same.
* `Json.literal_finite`: every finite float is a literal.
-/

namespace Telemetry

namespace Binary64

variable {x : Binary64}

/-! ## Finite numbers -/

theorem significand_lt (x : Binary64) : x.significand < 2 ^ 53 := by
  have hfraction : x.fractionBits < 2 ^ 52 := Nat.mod_lt _ (by decide)
  have hpow : Nat.pow 2 52 = 2 ^ 52 := rfl
  unfold significand
  split <;> omega

theorem significand_pos (h : x.isZero = false) : 0 < x.significand := by
  have hpow : Nat.pow 2 52 = 2 ^ 52 := rfl
  unfold significand
  unfold isZero at h
  simp only [Bool.and_eq_false_iff, beq_eq_false_iff_ne] at h
  split <;> omega

theorem scale_le (h : x.isFinite = true) : x.scale ≤ 971 := by
  have hexponent : x.exponentBits < 2047 := by simpa [isFinite] using h
  unfold scale
  omega

/-- The unit of the last bit of the greatest numbers, by quarters. -/
theorem quarter_le (h : x.isFinite = true) : x.quarter ≤ 2 ^ (969 : ℤ) := by
  have := scale_le h
  exact zpow_le_zpow_right₀ (by norm_num) (by omega)

theorem overflow_eq : overflow = (2 ^ 55 - 2) * 2 ^ (969 : ℤ) := by
  have hpow : (2 : ℚ) ^ (970 : ℤ) = 2 ^ (969 : ℤ) * 2 := by
    rw [← zpow_add_one₀ two_ne_zero]
    rfl
  unfold overflow
  rw [hpow]
  ring

theorem two_pow_lt_ten_pow {a b : Nat} (h : 2 ^ a < 10 ^ b) : (2 : ℚ) ^ (a : ℤ) < 10 ^ (b : ℤ) := by
  rw [zpow_natCast, zpow_natCast]
  exact_mod_cast h

theorem overflow_lt : overflow < 10 ^ (309 : ℤ) := by
  have hpow : (2 : ℚ) ^ (1024 : ℤ) = 2 ^ 54 * 2 ^ (970 : ℤ) := by
    rw [← zpow_natCast, ← zpow_add₀ two_ne_zero]
    rfl
  have hpos := two_zpow_pos 970
  calc overflow < 2 ^ (1024 : ℤ) := by
        unfold overflow
        rw [hpow]
        exact mul_lt_mul_of_pos_right (by norm_num) hpos
    _ < 10 ^ (309 : ℤ) := two_pow_lt_ten_pow (a := 1024) (b := 309) (by decide +kernel)

/-- How many quarters the upper end of the interval of what reads back can have. -/
theorem quarters_le (x : Binary64) : ((4 * x.significand + 2 : ℕ) : ℚ) ≤ 2 ^ 55 - 2 := by
  have hs := x.significand_lt
  have hcount : ((4 * x.significand + 2 : ℕ) : ℚ) ≤ (2 ^ 55 - 2 : ℕ) := by
    exact_mod_cast (by omega)
  norm_num at hcount ⊢
  exact hcount

/-! ## Room for two roundings -/

/-- What two roundings can add. -/
def twoRoundings : ℚ := (1 + 2 ^ (-53 : ℤ)) * (1 + 2 ^ (-53 : ℤ))

theorem one_le_twoRoundings : 1 ≤ twoRoundings := by
  have := two_zpow_pos (-53)
  unfold twoRoundings
  nlinarith

/-- Digits and a power of ten are read as a finite number if they leave room for two roundings. -/
theorem scaled?_isSome {digits : Nat} {exponent : ℤ} (h : 0 ≤ exponent → 0 < digits ∧
    digits * 10 ^ exponent * twoRoundings < overflow) :
    (scaled? digits exponent).isSome = true := by
  have hle : 0 ≤ exponent → (1 : ℚ) ≤ digits ∧ (1 : ℚ) ≤ 10 ^ exponent ∧
      digits * 10 ^ exponent < overflow := fun hexponent => by
    obtain ⟨hpos, hroom⟩ := h hexponent
    have hdigits : (1 : ℚ) ≤ digits := by exact_mod_cast hpos
    have hpower : (1 : ℚ) ≤ 10 ^ exponent := one_le_zpow₀ (by norm_num) hexponent
    refine ⟨hdigits, hpower, lt_of_le_of_lt ?_ hroom⟩
    exact le_mul_of_one_le_right (by positivity) one_le_twoRoundings
  unfold scaled?
  simp only
  split
  · rfl
  · split
    · next hlarge =>
      obtain ⟨hdigits, -, hless⟩ := hle (by omega)
      have : (10 : ℚ) ^ (309 : ℤ) ≤ 10 ^ exponent := zpow_le_zpow_right₀ (by norm_num) (by omega)
      have := overflow_lt
      have := le_mul_of_one_le_left (ten_zpow_pos exponent).le hdigits
      linarith
    · split
      · next hexponent =>
        obtain ⟨hdigits, hpower, hless⟩ := hle hexponent
        obtain ⟨hpos, hroom⟩ := h hexponent
        have hcast : ((Nat.pow 10 exponent.toNat : ℕ) : ℚ) = 10 ^ exponent := by
          obtain ⟨n, rfl⟩ := Int.eq_ofNat_of_zero_le hexponent
          rw [Int.toNat_natCast, zpow_natCast]
          exact Nat.cast_pow 10 n
        have hx : Near digits (ofNat digits) := near_ofNat hpos
          ((le_mul_of_one_le_right (by positivity) hpower).trans_lt hless)
        have hy : Near (10 ^ exponent) (tenPower exponent.toNat) := by
          rw [← hcast]
          refine near_ofNat (Nat.pow_pos (by decide)) ?_
          rw [hcast]
          exact (le_mul_of_one_le_left (ten_zpow_pos exponent).le hdigits).trans_lt hless
        rw [if_neg (by simp [hx.mul_isInfinite hy hdigits hpower hroom])]
        rfl
      · rfl

/-! ## The greatest numbers -/

/-- The three greatest numbers of either sign. -/
def greatest : List Binary64 :=
  [ofMagnitude false (infinityBits - 1), ofMagnitude false (infinityBits - 2),
    ofMagnitude false (infinityBits - 3), ofMagnitude true (infinityBits - 1),
    ofMagnitude true (infinityBits - 2), ofMagnitude true (infinityBits - 3)]

theorem reread?_greatest : ∀ x ∈ greatest, x.reread?.isSome = true := by decide +kernel

theorem mem_greatest (hscale : x.scale = 971) (hs : 2 ^ 53 - 3 ≤ x.significand) :
    x ∈ greatest := by
  have hbits : x = ⟨UInt64.ofNat x.bits.toNat⟩ := by rw [UInt64.ofNat_toNat]
  have hlt := x.bits.toNat_lt
  have hexponent : x.exponentBits = 2046 := by
    unfold scale at hscale
    omega
  have hfraction : 2 ^ 52 - 3 ≤ x.fractionBits := by
    have hpow : Nat.pow 2 52 = 2 ^ 52 := rfl
    unfold significand at hs
    rw [if_neg (by omega)] at hs
    omega
  unfold exponentBits at hexponent
  unfold fractionBits at hfraction
  simp only [Nat.pow_eq] at hexponent hfraction
  have hcases : x.bits.toNat = 2047 * 2 ^ 52 - 1 ∨ x.bits.toNat = 2047 * 2 ^ 52 - 2 ∨
      x.bits.toNat = 2047 * 2 ^ 52 - 3 ∨ x.bits.toNat = 2047 * 2 ^ 52 - 1 + 2 ^ 63 ∨
      x.bits.toNat = 2047 * 2 ^ 52 - 2 + 2 ^ 63 ∨ x.bits.toNat = 2047 * 2 ^ 52 - 3 + 2 ^ 63 := by
    omega
  obtain h | h | h | h | h | h := hcases <;>
  · rw [hbits, h]
    decide

/-- The digits of every other number leave room. -/
theorem shortest_room (h : x.isFinite = true) (hpos : 0 < x.significand) (hx : x ∉ greatest) :
    x.shortest.digits * 10 ^ x.shortest.exponent * twoRoundings < overflow := by
  obtain ⟨-, -, -, hupper⟩ := shortest_spec hpos x.significand_lt
  have hs := x.significand_lt
  obtain ⟨w, hw⟩ : ∃ w : ℚ, w = 2 ^ (969 : ℤ) := ⟨_, rfl⟩
  have hwpos : 0 < w := hw ▸ two_zpow_pos 969
  have htwo : 0 < twoRoundings := by linarith [one_le_twoRoundings]
  refine (mul_le_mul_of_nonneg_right hupper htwo.le).trans_lt ?_
  rw [overflow_eq, ← hw]
  unfold upper
  by_cases hscale : x.scale = 971
  · have hsmall : x.significand ≤ 2 ^ 53 - 4 := by
      by_contra hlarge
      exact hx (mem_greatest hscale (by omega))
    have hquarter : x.quarter = w := by
      rw [hw, quarter, hscale]
      rfl
    have hcount : ((4 * x.significand + 2 : ℕ) : ℚ) ≤ 2 ^ 55 - 14 := by
      have : ((4 * x.significand + 2 : ℕ) : ℚ) ≤ (2 ^ 55 - 14 : ℕ) := by
        exact_mod_cast (by omega)
      norm_num at this ⊢
      exact this
    have hroom : (2 ^ 55 - 14) * twoRoundings < 2 ^ 55 - 2 := by
      norm_num [twoRoundings]
    rw [hquarter]
    calc ((4 * x.significand + 2 : ℕ) : ℚ) * w * twoRoundings
        ≤ (2 ^ 55 - 14) * w * twoRoundings := by gcongr
      _ = (2 ^ 55 - 14) * twoRoundings * w := by ring
      _ < (2 ^ 55 - 2) * w := mul_lt_mul_of_pos_right hroom hwpos
  · have hquarter : x.quarter ≤ w / 2 := by
      have hhalf : (2 : ℚ) ^ (969 : ℤ) = 2 ^ (968 : ℤ) * 2 := by
        rw [← zpow_add_one₀ two_ne_zero]
        rfl
      have := scale_le h
      have hle : x.quarter ≤ 2 ^ (968 : ℤ) := zpow_le_zpow_right₀ (by norm_num) (by omega)
      rw [hw, hhalf]
      linarith only [hle]
    have hcount := x.quarters_le
    have hroom : twoRoundings < 2 := by norm_num [twoRoundings]
    calc ((4 * x.significand + 2 : ℕ) : ℚ) * x.quarter * twoRoundings
        ≤ (2 ^ 55 - 2) * (w / 2) * twoRoundings := by
          gcongr
          exact x.quarter_pos.le
      _ < (2 ^ 55 - 2) * (w / 2) * 2 := by
          gcongr
      _ = (2 ^ 55 - 2) * w := by ring

/-- Every finite number is read back as some number. -/
theorem reread?_isSome (h : x.isFinite = true) : x.reread?.isSome = true := by
  by_cases hx : x ∈ greatest
  · exact reread?_greatest x hx
  · have hminus : ¬ (0 : ℤ) ≤ -1 := by decide
    unfold reread?
    simp only [Option.isSome_map]
    cases hzero : x.isZero with
    | true => exact scaled?_isSome fun hexponent => absurd hexponent hminus
    | false =>
      have hpos := significand_pos hzero
      rw [if_neg Bool.false_ne_true]
      unfold Json.shown
      split
      · exact scaled?_isSome fun hexponent => absurd hexponent hminus
      · exact scaled?_isSome fun _ =>
          ⟨(shortest_spec hpos x.significand_lt).1, shortest_room h hpos hx⟩

theorem upper_le_overflow (h : x.isFinite = true) : x.upper ≤ overflow := by
  rw [overflow_eq]
  exact mul_le_mul x.quarters_le (quarter_le h) x.quarter_pos.le (by norm_num)

end Binary64

namespace Json

variable {x : Binary64}

/-- The shortest digits of a finite number other than zero are read without reaching any limit. -/
theorem plain_shortest (h : x.isFinite = true) (hzero : x.isZero = false) : Plain x.shortest := by
  obtain ⟨hpos, hdigits, hmin, hupper⟩ :=
    Binary64.shortest_spec (Binary64.significand_pos hzero) x.significand_lt
  have hmax : x.shortest.exponent < 309 := by
    have hone : (1 : ℚ) ≤ x.shortest.digits := by exact_mod_cast hpos
    have hpower : (10 : ℚ) ^ x.shortest.exponent < 10 ^ (309 : ℤ) :=
      calc (10 : ℚ) ^ x.shortest.exponent
          ≤ x.shortest.digits * 10 ^ x.shortest.exponent :=
            le_mul_of_one_le_left (Binary64.ten_zpow_pos _).le hone
        _ ≤ x.upper := hupper
        _ ≤ Binary64.overflow := Binary64.upper_le_overflow h
        _ < 10 ^ (309 : ℤ) := Binary64.overflow_lt
    exact (zpow_lt_zpow_iff_right₀ (by norm_num)).mp hpower
  exact ⟨hpos, hdigits, by omega⟩

/-- Every finite float is a literal. -/
theorem literal_finite (h : x.isFinite = true) :
    Literal (floatFormat.write x).toList (.float (x.reread?.getD x)) := by
  obtain ⟨y, hy⟩ := Option.isSome_iff_exists.mp (Binary64.reread?_isSome h)
  rw [hy]
  exact literal_float (plain_shortest h) hy

end Json

end Telemetry
