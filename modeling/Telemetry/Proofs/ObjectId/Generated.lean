import Mathlib.Algebra.Group.Nat.Defs
import Mathlib.Data.List.Nodup
import Telemetry.ObjectId

/-!
# Generated ids

* `IdSource.lastBytes_eq_iff`: the last bytes of two numbers are the same exactly if the numbers are
  the same modulo a power of 256.
* `IdSource.after`: the source of ids after some calls; `IdSource.getElem?_generate`: the id that
  each call gives.
* `IdSource.current_after_eq_iff`: which calls give the same id.
* `IdSource.ids_repeat`: an id comes again exactly in the same second after a multiple of `2 ^ 24`
  calls, and no sooner.
-/

namespace Telemetry

namespace IdSource

/-! ## Bytes -/

/-- The last bytes of a number are its digits to the base 256. -/
theorem lastBytes_eq_iff {n x y : Nat} :
    lastBytes n x = lastBytes n y ↔ x % 256 ^ n = y % 256 ^ n := by
  induction n generalizing x y with
  | zero => simp [lastBytes, Nat.mod_one]
  | succ n ih =>
    have hlow : UInt8.ofNat (x % 256) = UInt8.ofNat (y % 256) ↔ x % 256 = y % 256 := by
      rw [← UInt8.toNat_inj, UInt8.toNat_ofNat', UInt8.toNat_ofNat']
      omega
    rw [lastBytes, lastBytes, List.append_singleton_inj, ih, hlow, Nat.pow_succ', Nat.mod_mul,
      Nat.mod_mul]
    omega

theorem clampSeconds_lt (seconds : Int) : clampSeconds seconds < 256 ^ 4 := by
  have h : clampSeconds seconds ≤ 2 ^ 32 - 1 := Nat.min_le_right ..
  omega

theorem clampSeconds_eq_iff {seconds seconds' : Int} :
    clampSeconds seconds = clampSeconds seconds' ↔
      max 0 (min seconds 0xFFFFFFFF) = max 0 (min seconds' 0xFFFFFFFF) := by
  have hlimit : Nat.pow 2 32 = 0x100000000 := rfl
  rw [clampSeconds, clampSeconds, hlimit]
  omega

/-- Two sources of one process give the same id exactly if the clamped seconds are the same and the
counters agree in their last 24 bits. -/
theorem current_eq_iff {src src' : IdSource} (hunique : src.unique = src'.unique)
    {seconds seconds' : Int} :
    src.current seconds = src'.current seconds' ↔
      max 0 (min seconds 0xFFFFFFFF) = max 0 (min seconds' 0xFFFFFFFF) ∧
        src.counter.toNat % 2 ^ 24 = src'.counter.toNat % 2 ^ 24 := by
  have htime : clampSeconds seconds % 256 ^ 4 = clampSeconds seconds' % 256 ^ 4 ↔
      max 0 (min seconds 0xFFFFFFFF) = max 0 (min seconds' 0xFFFFFFFF) := by
    rw [Nat.mod_eq_of_lt (clampSeconds_lt _), Nat.mod_eq_of_lt (clampSeconds_lt _),
      clampSeconds_eq_iff]
  have hbytes : src.current seconds = src'.current seconds' ↔
      lastBytes 4 (clampSeconds seconds) = lastBytes 4 (clampSeconds seconds') ∧
        lastBytes 3 src.counter.toNat = lastBytes 3 src'.counter.toNat := by
    rw [current, current, ObjectId.mk.injEq, hunique]
    constructor
    · intro h
      obtain ⟨hfront, hcounter⟩ := List.append_inj' h (by simp [length_lastBytes])
      exact ⟨List.append_cancel_right hfront, hcounter⟩
    · rintro ⟨htime, hcounter⟩
      rw [htime, hcounter]
  have hbase : (256 : Nat) ^ 3 = 2 ^ 24 := by decide
  rw [hbytes, lastBytes_eq_iff, lastBytes_eq_iff, htime, hbase]

/-! ## Calls -/

/-- The source after `n` calls. -/
def after (src : IdSource) (n : Nat) : IdSource :=
  { src with counter := src.counter + UInt32.ofNat n }

theorem after_zero (src : IdSource) : src.after 0 = src := by
  simp [after]

/-- Each call leaves the source that the calls after it start from. -/
theorem next_after (src : IdSource) (seconds : Int) (n : Nat) :
    (src.next seconds).2.after n = src.after (n + 1) := by
  have hcounter : src.counter + 1 + UInt32.ofNat n = src.counter + UInt32.ofNat (n + 1) := by
    rw [UInt32.ofNat_add, UInt32.add_assoc, UInt32.add_comm 1]
    rfl
  simp only [next, after, hcounter]

/-- The counter has 32 bits, and 24 of them are shown; these do not tell where it wraps. -/
theorem counter_after (src : IdSource) (n : Nat) :
    (src.after n).counter.toNat % 2 ^ 24 = (src.counter.toNat + n) % 2 ^ 24 := by
  rw [after, UInt32.toNat_add, UInt32.toNat_ofNat']
  -- The sum is taken modulo `2 ^ 32`, which `2 ^ 24` divides.
  omega

@[simp] theorem length_generate (src : IdSource) (times : List Int) :
    (src.generate times).length = times.length := by
  induction times generalizing src with
  | nil => rfl
  | cons t ts ih => rw [generate, List.length_cons, ih, List.length_cons]

/-- The id of a call is that of the source after the calls before it, for the time of the call. -/
theorem getElem?_generate (src : IdSource) (times : List Int) (i : Nat) :
    (src.generate times)[i]? = times[i]?.map (src.after i).current := by
  induction times generalizing src i with
  | nil => rfl
  | cons t ts ih =>
    cases i with
    | zero => rw [generate, after_zero]; rfl
    | succ i => rw [generate, List.getElem?_cons_succ, List.getElem?_cons_succ, ih, next_after]

/-- Two calls give the same id exactly in the same second and a multiple of `2 ^ 24` calls apart. -/
theorem current_after_eq_iff {src : IdSource} {i j : Nat} (hij : i ≤ j) {seconds seconds' : Int} :
    (src.after i).current seconds = (src.after j).current seconds' ↔
      max 0 (min seconds 0xFFFFFFFF) = max 0 (min seconds' 0xFFFFFFFF) ∧ 2 ^ 24 ∣ j - i := by
  have hunique : (src.after i).unique = (src.after j).unique := rfl
  have hcounter : (src.counter.toNat + i) % 2 ^ 24 = (src.counter.toNat + j) % 2 ^ 24 ↔
      2 ^ 24 ∣ j - i := by omega
  rw [current_eq_iff hunique, counter_after, counter_after, hcounter]

theorem generate_eq_iff {src : IdSource} {times : List Int} {i j : Nat} {seconds seconds' : Int}
    (hij : i < j) (hi : times[i]? = some seconds) (hj : times[j]? = some seconds') :
    (src.generate times)[i]? = (src.generate times)[j]? ↔
      max 0 (min seconds 0xFFFFFFFF) = max 0 (min seconds' 0xFFFFFFFF) ∧ 2 ^ 24 ∣ j - i := by
  rw [getElem?_generate, getElem?_generate, hi, hj, Option.map_some, Option.map_some,
    Option.some_inj, current_after_eq_iff (Nat.le_of_lt hij)]

/-- Fewer than `2 ^ 24` calls apart there are no equal ids, whatever the clock shows. -/
theorem nodup_generate (src : IdSource) (times : List Int) (start : Nat) :
    (((src.generate times).drop start).take (2 ^ 24)).Nodup := by
  rw [List.nodup_iff_getElem?_ne_getElem?]
  intro i j hij hj heq
  rw [List.length_take, List.length_drop, length_generate] at hj
  have hi : start + i < times.length := by omega
  have hj' : start + j < times.length := by omega
  rw [List.getElem?_take_of_lt (by omega), List.getElem?_take_of_lt (by omega),
    List.getElem?_drop, List.getElem?_drop,
    generate_eq_iff (by omega) (List.getElem?_eq_getElem hi) (List.getElem?_eq_getElem hj')] at heq
  have hdvd := Nat.le_of_dvd (by omega) heq.2
  omega

/-- Whatever the counter starts from and the clock shows, two calls of one process give the same id
exactly if their seconds, clamped to 32 bits, are the same and the number of calls from one to the
other is a multiple of `2 ^ 24`. So as many ids in a row are distinct. -/
theorem ids_repeat (src : IdSource) (times : List Int) :
    (src.generate times).length = times.length ∧
    (∀ i j (seconds seconds' : Int), i < j → times[i]? = some seconds → times[j]? = some seconds' →
      ((src.generate times)[i]? = (src.generate times)[j]? ↔
        max 0 (min seconds 0xFFFFFFFF) = max 0 (min seconds' 0xFFFFFFFF) ∧ 2 ^ 24 ∣ j - i)) ∧
    ∀ start, (((src.generate times).drop start).take (2 ^ 24)).Nodup :=
  ⟨src.length_generate times, fun _ _ _ _ hij hi hj => generate_eq_iff hij hi hj,
    src.nodup_generate times⟩

/-- A source whose counter is about to wrap. -/
def full : IdSource := ⟨[1, 2, 3, 4, 5], 0xFFFFFFFF, rfl⟩

/-- The counter wraps to other digits, and times before 1970 count as one second: there the id after
`2 ^ 24` calls is the first one again, and the one before it is not. -/
theorem ids_repeat_full :
    (full.generate (List.replicate (2 ^ 24 + 1) (-7)))[0]? =
        (full.generate (List.replicate (2 ^ 24 + 1) (-7)))[2 ^ 24]? ∧
      (full.generate [-7, 0])[0]? ≠ (full.generate [-7, 0])[1]? := by
  obtain ⟨-, hlong, -⟩ := ids_repeat full (List.replicate (2 ^ 24 + 1) (-7))
  obtain ⟨-, hshort, -⟩ := ids_repeat full [-7, 0]
  constructor
  · refine (hlong 0 (2 ^ 24) (-7) (-7) (by decide) ?_ ?_).mpr ⟨rfl, by decide⟩
    · rw [List.getElem?_replicate, if_pos (by decide)]
    · rw [List.getElem?_replicate, if_pos (by decide)]
  · intro h
    have hdvd := ((hshort 0 1 (-7) 0 (by decide) rfl rfl).mp h).2
    exact absurd hdvd (by decide)

end IdSource

end Telemetry
