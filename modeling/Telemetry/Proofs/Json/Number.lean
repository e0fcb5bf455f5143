import Mathlib.Data.Nat.Digits.Defs
import Telemetry.Json.Reader
import Telemetry.Json.Writer
import Telemetry.Proofs.Number.Shortest

/-!
# Numbers read back from their JSON text

* `Json.Whole`: digits as they stand before a point.
* `Json.readNumber_integer`, `Json.readNumber_point`, `Json.readNumber_exponent`: what is read from
  digits alone, from digits around a point, and from digits before an exponent.
* `Json.readNumber_decimal`: a decimal is read as its digits times its power of ten, however it is
  laid out.
-/

namespace Telemetry

namespace Json

variable {negative : Bool} {ds fs rest : List Char} {s n : Nat} {e : Int}

/-! ## Digits -/

/-- Digits as they stand before a point: at least one, and no zero before others. -/
structure Whole (ds : List Char) : Prop where
  digits : ∀ c ∈ ds, c.isDigit = true
  nonempty : ds ≠ []
  leading : ds.head? = some '0' → ds = ['0']

namespace Whole

theorem zero : Whole ['0'] := ⟨by simp, by simp, fun _ => rfl⟩

/-- A leading digit other than zero may be followed by any digits. -/
theorem of_head? (hdigits : ∀ c ∈ ds, c.isDigit = true) (hne : ds ≠ [])
    (hhead : ds.head? ≠ some '0') : Whole ds :=
  ⟨hdigits, hne, fun h => absurd h hhead⟩

theorem decimalDigits (n : Nat) : Whole (decimalDigits n) where
  digits _ := isDigit_of_mem_decimalDigits
  nonempty := decimalDigits_ne_nil n
  leading h := by
    cases n with
    | zero => rfl
    | succ n => exact absurd h (head?_decimalDigits n.succ_pos)

end Whole

/-- The text goes on with a sign that is no digit, or ends. -/
def DigitsEnd (rest : List Char) : Prop := ∀ c ∈ rest.head?, c.isDigit = false

theorem takeWhile_digits (hds : ∀ c ∈ ds, c.isDigit = true) (hrest : DigitsEnd rest) :
    (ds ++ rest).takeWhile Char.isDigit = ds := by
  rw [List.takeWhile_append_of_pos hds]
  cases rest with
  | nil => simp
  | cons c cs => simp [hrest c rfl]

theorem dropWhile_digits (hds : ∀ c ∈ ds, c.isDigit = true) (hrest : DigitsEnd rest) :
    (ds ++ rest).dropWhile Char.isDigit = rest := by
  rw [List.dropWhile_append_of_pos hds]
  cases rest with
  | nil => rfl
  | cons c cs => simp [hrest c rfl]

theorem ofDigitChars_cons (d : Char) (ds : List Char) (s : Nat) :
    Nat.ofDigitChars 10 (d :: ds) s = Nat.ofDigitChars 10 ds (10 * s + digitOf d) :=
  Nat.ofDigitChars_cons

theorem le_ofDigitChars (ds : List Char) (s : Nat) : s ≤ Nat.ofDigitChars 10 ds s := by
  rw [Nat.ofDigitChars_eq_ofDigitChars_zero]
  exact (Nat.le_mul_of_pos_left s (Nat.pow_pos (by decide))).trans (Nat.le_add_right _ _)

/-- Digits are taken into a significand that they do not make too large. -/
theorem absorb_digits {taken : Nat} (h : Nat.ofDigitChars 10 ds s < significandLimit) :
    absorb s taken ds = (Nat.ofDigitChars 10 ds s, taken + ds.length, []) := by
  induction ds generalizing s taken with
  | nil => rfl
  | cons d ds ih =>
    rw [ofDigitChars_cons] at h ⊢
    have hnext : 10 * s + digitOf d < significandLimit := (le_ofDigitChars ds _).trans_lt h
    rw [absorb, if_pos hnext, ih h, List.length_cons, Nat.add_right_comm, Nat.add_assoc]

/-! ## Layouts -/

/-- What may follow a number inside a text: a separator, a closing bracket or nothing. -/
def Closes (rest : List Char) : Prop := ∀ c ∈ rest.head?, c = ',' ∨ c = ']' ∨ c = '\x7d'

theorem closes_nil : Closes [] := by simp [Closes]

theorem Closes.digitsEnd (h : Closes rest) : DigitsEnd rest := by
  intro c hc
  obtain rfl | rfl | rfl := h c hc <;> rfl

/-- Digits before a point are one zero, or start with another digit. -/
theorem Whole.eq_zero_or (h : Whole ds) :
    ds = ['0'] ∨ ∃ c cs, ds = c :: cs ∧ c ≠ '0' ∧ c.isDigit = true := by
  cases ds with
  | nil => exact absurd rfl h.nonempty
  | cons c cs =>
    by_cases hc : c = '0'
    · exact .inl (h.leading (by simp [hc]))
    · exact .inr ⟨c, cs, rfl, hc, h.digits c (.head _)⟩

theorem readFloatEnd_closes (h : Closes rest) :
    readFloatEnd negative s e rest = (floatOf negative s e).map (·, rest) := by
  unfold readFloatEnd
  split
  · next cs => exact absurd (h 'e' rfl) (by decide)
  · next cs => exact absurd (h 'E' rfl) (by decide)
  · rfl

theorem readFraction_digits (hds : ∀ c ∈ ds, c.isDigit = true) (hne : ds ≠ [])
    (hrest : DigitsEnd rest) (hlimit : Nat.ofDigitChars 10 ds s < significandLimit) :
    readFraction negative s e (ds ++ rest) =
      readFloatEnd negative (Nat.ofDigitChars 10 ds s) (e - ds.length) rest := by
  unfold readFraction
  simp only [takeWhile_digits hds hrest, dropWhile_digits hds hrest, absorb_digits hlimit,
    List.isEmpty_eq_false_iff.mpr hne, Nat.zero_add]
  rfl

/-- Digits around a point. -/
theorem readNumber_point (hds : Whole ds) (hfs : ∀ c ∈ fs, c.isDigit = true) (hne : fs ≠ [])
    (hrest : DigitsEnd rest) (hlimit : Nat.ofDigitChars 10 (ds ++ fs) 0 < significandLimit) :
    readNumber negative (ds ++ '.' :: (fs ++ rest)) =
      readFloatEnd negative (Nat.ofDigitChars 10 (ds ++ fs) 0) (-fs.length) rest := by
  rw [Nat.ofDigitChars_append] at hlimit ⊢
  obtain rfl | ⟨c, cs, rfl, hc, hdigit⟩ := hds.eq_zero_or
  · have hzero : Nat.ofDigitChars 10 ['0'] 0 = 0 := rfl
    rw [hzero] at hlimit ⊢
    rw [List.singleton_append, readNumber, readFraction_digits hfs hne hrest hlimit, zero_sub]
  · have hpoint : DigitsEnd ('.' :: (fs ++ rest)) := by simp [DigitsEnd]
    have hwhole := (le_ofDigitChars fs _).trans_lt hlimit
    rw [List.cons_append, readNumber]
    · rw [← List.cons_append, takeWhile_digits hds.digits hpoint, absorb_digits hwhole,
        dropWhile_digits hds.digits hpoint]
      simp only [hdigit, List.length_nil]
      rw [readFraction_digits hfs hne hrest hlimit]
      simp
    · rintro rfl
      exact hc rfl

/-- Digits before an exponent. -/
theorem readNumber_exponent (hds : Whole ds)
    (hlimit : Nat.ofDigitChars 10 ds 0 < significandLimit) :
    readNumber negative (ds ++ 'e' :: rest) =
      readExponent negative (Nat.ofDigitChars 10 ds 0) 0 rest := by
  obtain rfl | ⟨c, cs, rfl, hc, hdigit⟩ := hds.eq_zero_or
  · rfl
  · have hexponent : DigitsEnd ('e' :: rest) := by simp [DigitsEnd]
    rw [List.cons_append, readNumber]
    · rw [← List.cons_append, takeWhile_digits hds.digits hexponent, absorb_digits hlimit,
        dropWhile_digits hds.digits hexponent]
      simp only [hdigit, List.length_nil]
      rfl
    · rintro rfl
      exact hc rfl

/-- Digits alone. -/
theorem readNumber_integer (hds : Whole ds) (hrest : Closes rest)
    (hlimit : Nat.ofDigitChars 10 ds 0 < significandLimit) :
    readNumber negative (ds ++ rest) =
      .ok (integerOf negative (Nat.ofDigitChars 10 ds 0), rest) := by
  obtain rfl | ⟨c, cs, rfl, hc, hdigit⟩ := hds.eq_zero_or
  · cases rest with
    | nil => rfl
    | cons c rest =>
      obtain rfl | rfl | rfl := hrest c rfl <;> rfl
  · rw [List.cons_append, readNumber]
    · rw [← List.cons_append, takeWhile_digits hds.digits hrest.digitsEnd, absorb_digits hlimit,
        dropWhile_digits hds.digits hrest.digitsEnd]
      simp only [hdigit, List.length_nil, List.isEmpty_nil]
      cases rest with
      | nil => rfl
      | cons c rest =>
        obtain rfl | rfl | rfl := hrest c rfl <;> rfl
    · rintro rfl
      exact hc rfl

/-- The digits of an exponent, after its sign. -/
theorem readExponent_digits {minus : Bool} (hn : n ≤ exponentLimit) (hrest : DigitsEnd rest) :
    readExponent negative s e ((if minus then '-' else '+') :: (decimalDigits n ++ rest)) =
      (floatOf negative s (if minus then e - n else e + n)).map (·, rest) := by
  have hdigits : ∀ c ∈ decimalDigits n, c.isDigit = true := fun _ => isDigit_of_mem_decimalDigits
  have htake := takeWhile_digits hdigits hrest
  have hdrop := dropWhile_digits hdigits hrest
  have hvalue : (decimalDigits n).foldl (fun n d => 10 * n + digitOf d) 0 = n :=
    ofDigitChars_decimalDigits n
  have hne := List.isEmpty_eq_false_iff.mpr (decimalDigits_ne_nil n)
  cases minus <;>
  · simp only [readExponent, Bool.false_eq_true, if_false, if_true, htake, hdrop, hne, hvalue,
      if_neg (not_lt.mpr hn), pure, Except.pure, bind, Except.bind]
    cases floatOf negative s _ <;> rfl

/-! ## Decimals -/

@[simp] theorem ofDigitChars_zeros (k s : Nat) :
    Nat.ofDigitChars 10 (List.replicate k '0') s = s * 10 ^ k := by
  induction k generalizing s with
  | zero => simp [Nat.ofDigitChars]
  | succ k ih =>
    rw [List.replicate_succ, ofDigitChars_cons, ih, pow_succ]
    simp only [digitOf, Nat.sub_self, Nat.add_zero]
    ring

/-- The place of the first digit of a decimal. -/
def leading (d : Decimal) : Int := d.exponent + ((decimalDigits d.digits).length - 1 : Nat)

/-- The digits and the power of ten that the text of a decimal shows: digits that end before the
point are followed by zeros up to it, and by one more behind it. -/
def shown (d : Decimal) : Decimal :=
  if 0 ≤ d.exponent ∧ leading d ≤ 15 then ⟨d.digits * 10 ^ (d.exponent.toNat + 1), -1⟩ else d

/-- Decimals of at most seventeen digits, with an exponent that is far from any limit. -/
structure Plain (d : Decimal) : Prop where
  pos : 0 < d.digits
  digits_lt : d.digits < 10 ^ 17
  exponent_le : d.exponent.natAbs ≤ 1000

variable {d : Decimal}

/-- Digits that end before the point. -/
theorem readNumber_whole (hd : Plain d) (he : 0 ≤ d.exponent) (hplace : leading d ≤ 15)
    (hrest : Closes rest) :
    readNumber negative (FloatFormat.positional d ++ rest) =
      (floatOf negative (d.digits * 10 ^ (d.exponent.toNat + 1)) (-1)).map (·, rest) := by
  have hds : Whole (decimalDigits d.digits ++ List.replicate d.exponent.toNat '0') := by
    refine .of_head? (fun c hc => ?_) (by simp [decimalDigits_ne_nil]) ?_
    · obtain hc | hc := List.mem_append.mp hc
      · exact isDigit_of_mem_decimalDigits hc
      · rw [List.eq_of_mem_replicate hc]
        rfl
    · rw [List.head?_append, Option.or_of_isSome (by simp [decimalDigits_ne_nil])]
      exact head?_decimalDigits hd.pos
  have hvalue : Nat.ofDigitChars 10
      (decimalDigits d.digits ++ List.replicate d.exponent.toNat '0' ++ ['0']) 0 =
        d.digits * 10 ^ (d.exponent.toNat + 1) := by
    rw [List.append_assoc, ← List.replicate_succ', Nat.ofDigitChars_append,
      ofDigitChars_decimalDigits, ofDigitChars_zeros]
  have hlimit : d.digits * 10 ^ (d.exponent.toNat + 1) < significandLimit := by
    have hlength := length_decimalDigits_pos d.digits
    have hdigits := lt_pow_length_decimalDigits d.digits
    unfold leading at hplace
    calc d.digits * 10 ^ (d.exponent.toNat + 1)
        < 10 ^ (decimalDigits d.digits).length * 10 ^ (d.exponent.toNat + 1) :=
          Nat.mul_lt_mul_of_pos_right hdigits (Nat.pow_pos (by decide))
      _ = 10 ^ ((decimalDigits d.digits).length + (d.exponent.toNat + 1)) := (pow_add ..).symm
      _ ≤ 10 ^ 17 := Nat.pow_le_pow_right (by decide) (by omega)
      _ < significandLimit := by decide
  have htext : FloatFormat.positional d ++ rest =
      (decimalDigits d.digits ++ List.replicate d.exponent.toNat '0') ++
        '.' :: (['0'] ++ rest) := by
    simp [FloatFormat.positional, he]
  rw [htext, readNumber_point hds Whole.zero.digits Whole.zero.nonempty hrest.digitsEnd
    (hvalue ▸ hlimit), hvalue, readFloatEnd_closes hrest]
  rfl

/-- Digits that do not end before the point are parted by it, or follow it after zeros. -/
theorem positional_parts (hpos : 0 < d.digits) (he : d.exponent < 0) :
    ∃ front back, FloatFormat.positional d = front ++ '.' :: back ∧ Whole front ∧
      (∀ c ∈ back, c.isDigit = true) ∧ (back.length : Int) = -d.exponent ∧
      Nat.ofDigitChars 10 (front ++ back) 0 = d.digits := by
  obtain ⟨places, hplaces⟩ : ∃ k : Nat, d.exponent = -k := ⟨(-d.exponent).toNat, by omega⟩
  have hdigits : ∀ c ∈ decimalDigits d.digits, c.isDigit = true :=
    fun _ => isDigit_of_mem_decimalDigits
  have hnat : (-d.exponent).toNat = places := by omega
  unfold FloatFormat.positional
  simp only [if_neg (not_le.mpr he), hnat]
  by_cases hshort : places < (decimalDigits d.digits).length
  · rw [if_pos hshort]
    have hcut : 0 < (decimalDigits d.digits).length - places := by omega
    refine ⟨_, _, by rw [List.append_assoc, List.singleton_append], .of_head? ?_ ?_ ?_,
      fun c hc => hdigits c (List.mem_of_mem_drop hc), ?_, ?_⟩
    · exact fun c hc => hdigits c (List.mem_of_mem_take hc)
    · exact List.ne_nil_of_length_pos (by rw [List.length_take]; omega)
    · rw [List.head?_take, if_neg hcut.ne']
      exact head?_decimalDigits hpos
    · rw [List.length_drop]
      omega
    · rw [List.take_append_drop, ofDigitChars_decimalDigits]
  · rw [if_neg hshort]
    refine ⟨['0'], List.replicate (places - (decimalDigits d.digits).length) '0' ++
      decimalDigits d.digits, rfl, .zero, fun c hc => ?_, ?_, ?_⟩
    · obtain hc | hc := List.mem_append.mp hc
      · rw [List.eq_of_mem_replicate hc]
        rfl
      · exact hdigits c hc
    · rw [List.length_append, List.length_replicate]
      omega
    · rw [← List.append_assoc, List.singleton_append, ← List.replicate_succ,
        Nat.ofDigitChars_append, ofDigitChars_zeros, Nat.zero_mul, ofDigitChars_decimalDigits]

/-- Digits that do not end before the point. -/
theorem readNumber_broken (hd : Plain d) (he : d.exponent < 0) (hrest : Closes rest) :
    readNumber negative (FloatFormat.positional d ++ rest) =
      (floatOf negative d.digits d.exponent).map (·, rest) := by
  have hlimit : d.digits < significandLimit := hd.digits_lt.trans (by decide)
  obtain ⟨front, back, htext, hfront, hback, hlength, hvalue⟩ := positional_parts hd.pos he
  have hne : back ≠ [] := List.ne_nil_of_length_pos (by omega)
  rw [htext, List.append_assoc, List.cons_append,
    readNumber_point hfront hback hne hrest.digitsEnd (hvalue ▸ hlimit), hvalue, hlength, neg_neg,
    readFloatEnd_closes hrest]

/-- An exponent with its sign. -/
def exponentChars (place : Int) : List Char :=
  if place < 0 then '-' :: decimalDigits (-place).toNat else '+' :: decimalDigits place.toNat

theorem readExponent_exponentChars {place : Int} (hplace : place.natAbs ≤ exponentLimit)
    (hrest : DigitsEnd rest) :
    readExponent negative s e (exponentChars place ++ rest) =
      (floatOf negative s (e + place)).map (·, rest) := by
  have hread : readExponent negative s e ((if decide (place < 0) then '-' else '+') ::
      (decimalDigits place.natAbs ++ rest)) = _ := readExponent_digits hplace hrest
  unfold exponentChars
  by_cases hneg : place < 0
  · have hnat : (-place).toNat = place.natAbs := by omega
    have hsum : e - place.natAbs = e + place := by omega
    rw [if_pos hneg, hnat, List.cons_append]
    simpa only [hneg, decide_true, if_true, hsum] using hread
  · have hnat : place.toNat = place.natAbs := by omega
    have hsum : e + place.natAbs = e + place := by omega
    rw [if_neg hneg, hnat, List.cons_append]
    simpa only [hneg, decide_false, Bool.false_eq_true, if_false, hsum] using hread

/-- Digits with an exponent. -/
theorem readNumber_scientific (hd : Plain d) (hrest : Closes rest) :
    readNumber negative (floatFormat.scientific d ++ rest) =
      (floatOf negative d.digits d.exponent).map (·, rest) := by
  have hlimit : d.digits < significandLimit := hd.digits_lt.trans (by decide)
  have hplace : (leading d).natAbs ≤ exponentLimit := by
    have hlength := (length_decimalDigits_le (by decide)).mpr hd.digits_lt
    have hfar : 2000 ≤ exponentLimit := by decide
    have := hd.exponent_le
    unfold leading
    omega
  have hdigits : ∀ c ∈ decimalDigits d.digits, c.isDigit = true :=
    fun _ => isDigit_of_mem_decimalDigits
  have hvalue := ofDigitChars_decimalDigits d.digits
  have hhead := head?_decimalDigits hd.pos
  have hlead : leading d = d.exponent + ((decimalDigits d.digits).length - 1 : Nat) := rfl
  obtain ⟨c, more, hds⟩ := List.exists_cons_of_ne_nil (decimalDigits_ne_nil d.digits)
  rw [hds] at hdigits hvalue hhead hlead
  have hfirst : Whole [c] := .of_head? (fun x hx => hdigits x (by simp_all)) (by simp) hhead
  cases more with
  | nil =>
    have he : 0 + leading d = d.exponent := by simp [hlead]
    have hparts : floatFormat.scientific d ++ rest =
        [c] ++ 'e' :: (exponentChars (leading d) ++ rest) := by
      simp only [FloatFormat.scientific, exponentChars, leading, hds]
      rfl
    rw [hparts, readNumber_exponent hfirst (hvalue ▸ hlimit), hvalue,
      readExponent_exponentChars hplace hrest.digitsEnd, he]
  | cons c' more =>
    have he : -((c' :: more).length : Int) + leading d = d.exponent := by
      simp only [hlead, List.length_cons]
      omega
    have hmore : ∀ x ∈ c' :: more, x.isDigit = true := fun x hx => hdigits x (.tail _ hx)
    have hparts : floatFormat.scientific d ++ rest =
        [c] ++ '.' :: (c' :: more ++ 'e' :: (exponentChars (leading d) ++ rest)) := by
      simp only [FloatFormat.scientific, exponentChars, leading, hds]
      simp [floatFormat]
    rw [hparts, readNumber_point hfirst hmore (by simp) (by simp [DigitsEnd]) (hvalue ▸ hlimit),
      List.singleton_append, hvalue]
    exact (readExponent_exponentChars hplace hrest.digitsEnd).trans (by rw [he])

/-- A decimal is read as the digits and the power of ten that its text shows. -/
theorem readNumber_decimal (hd : Plain d) (hrest : Closes rest) :
    readNumber negative (floatFormat.decimal d ++ rest) =
      (floatOf negative (shown d).digits (shown d).exponent).map (·, rest) := by
  have hleast : floatFormat.least = -5 := rfl
  have hgreatest : floatFormat.greatest = 15 := rfl
  have hformat : floatFormat.decimal d =
      if -5 ≤ leading d ∧ leading d ≤ 15 then FloatFormat.positional d
      else floatFormat.scientific d := rfl
  have hlead : d.exponent ≤ leading d := by
    unfold leading
    omega
  rw [hformat]
  by_cases hposition : -5 ≤ leading d ∧ leading d ≤ 15
  · rw [if_pos hposition]
    by_cases he : 0 ≤ d.exponent
    · rw [shown, if_pos ⟨he, hposition.2⟩, readNumber_whole hd he hposition.2 hrest]
    · rw [shown, if_neg (fun h => he h.1), readNumber_broken hd (not_le.mp he) hrest]
  · have hscientific : ¬ (0 ≤ d.exponent ∧ leading d ≤ 15) := by omega
    rw [if_neg hposition, shown, if_neg hscientific, readNumber_scientific hd hrest]

/-! ## Literals -/

/-- The characters write a value that holds no other: it is read from them, whatever may follow. -/
def Literal (chars : List Char) (v : Json) : Prop :=
  ∃ c cs, chars = c :: cs ∧ isSpace c = false ∧ c ≠ '[' ∧ c ≠ ']' ∧ c ≠ '\x7b' ∧
    ∀ rest, Closes rest → readLiteral c (cs ++ rest) = .ok (v, rest)

/-- A number starts with a digit, after its sign. -/
theorem isDigit_of_readNumber {c : Char} {cs : List Char} {r : Json × List Char}
    (h : readNumber negative (c :: cs) = .ok r) : c.isDigit = true := by
  unfold readNumber at h
  split at h
  · next heq => cases heq
  · next heq =>
    cases heq
    rfl
  · next heq =>
    cases heq
    cases hc : c.isDigit with
    | true => rfl
    | false =>
      rw [hc] at h
      cases h

theorem literal_digits {cs : List Char} {v : Json}
    (hread : ∀ rest, Closes rest → readNumber false (cs ++ rest) = .ok (v, rest)) :
    Literal cs v := by
  have halone := hread [] closes_nil
  cases cs with
  | nil => cases halone
  | cons c cs =>
    have hdigit : c.isDigit = true := isDigit_of_readNumber halone
    have hother : ∀ x, x.isDigit = false → c ≠ x := by
      rintro x hx rfl
      exact absurd hdigit (by simp [hx])
    refine ⟨c, cs, rfl, ?_, hother _ rfl, hother _ rfl, hother _ rfl, fun rest hrest => ?_⟩
    · simp [isSpace, hother ' ' rfl, hother '\n' rfl, hother '\t' rfl, hother '\r' rfl]
    · unfold readLiteral
      rw [if_neg (hother _ rfl), if_neg (hother _ rfl), if_neg (hother _ rfl),
        if_neg (hother _ rfl), if_pos hdigit]
      exact hread rest hrest

theorem literal_minus {cs : List Char} {v : Json}
    (hread : ∀ rest, Closes rest → readNumber true (cs ++ rest) = .ok (v, rest)) :
    Literal ('-' :: cs) v :=
  ⟨'-', cs, rfl, by decide, by decide, by decide, by decide, hread⟩

/-- An integer that fits 64 bits. -/
theorem literal_int {i : Int} (hmin : -2 ^ 63 ≤ i) (hmax : i < 2 ^ 64) :
    Literal (intChars i) (.int i) := by
  have hlimit : Nat.ofDigitChars 10 (decimalDigits i.natAbs) 0 < significandLimit := by
    have : significandLimit = 2 ^ 64 := rfl
    rw [ofDigitChars_decimalDigits]
    omega
  have hread : ∀ negative rest, Closes rest →
      readNumber negative (decimalDigits i.natAbs ++ rest) =
        .ok (integerOf negative i.natAbs, rest) := fun negative rest hrest => by
    rw [readNumber_integer (.decimalDigits _) hrest hlimit, ofDigitChars_decimalDigits]
  unfold intChars
  by_cases hneg : i < 0
  · have hvalue : integerOf true i.natAbs = .int i := by
      have h63 : Nat.pow 2 63 = 2 ^ 63 := rfl
      have habs : (i.natAbs : Int) = -i := by omega
      unfold integerOf
      simp only [Bool.not_true, Bool.false_eq_true, if_false]
      rw [if_neg (by omega), habs, neg_neg]
    rw [if_pos hneg]
    exact literal_minus fun rest hrest => by rw [hread _ _ hrest, hvalue]
  · have hvalue : integerOf false i.natAbs = .int i := by
      have habs : (i.natAbs : Int) = i := by omega
      simp [integerOf, habs]
    rw [if_neg hneg]
    exact literal_digits fun rest hrest => by rw [hread _ _ hrest, hvalue]

end Json

/-- The float that is read back from the text of a finite one. Reading multiplies or divides two
rounded numbers, so that it may miss the last bits, or come out of range. -/
def Binary64.reread? (x : Binary64) : Option Binary64 :=
  let d := if x.isZero then ⟨0, -1⟩ else Json.shown x.shortest
  (scaled? d.digits d.exponent).map fun y => if x.isNegative then y.neg else y

namespace Json

/-- A finite float, as the one that is read back. -/
theorem literal_float {x y : Binary64} (hplain : x.isZero = false → Plain x.shortest)
    (hy : x.reread? = some y) : Literal (floatFormat.write x).toList (.float y) := by
  obtain ⟨z, hz, rfl⟩ := Option.map_eq_some_iff.mp hy
  have hvalue : ∀ negative, floatOf negative
      (if x.isZero then ⟨0, -1⟩ else shown x.shortest : Decimal).digits
      (if x.isZero then ⟨0, -1⟩ else shown x.shortest : Decimal).exponent =
        .ok (.float (if negative then z.neg else z)) := fun negative => by
    unfold floatOf
    rw [hz]
  have hread : ∀ negative rest, Closes rest →
      readNumber negative ((if x.isZero then ['0', '.', '0'] else
        floatFormat.decimal x.shortest) ++ rest) =
          .ok (.float (if negative then z.neg else z), rest) := fun negative rest hrest => by
    cases hzero : x.isZero with
    | true =>
      have hpoint : readNumber negative (['0'] ++ '.' :: (['0'] ++ rest)) = _ :=
        readNumber_point .zero Whole.zero.digits Whole.zero.nonempty hrest.digitsEnd (by decide)
      have hnumber := hvalue negative
      rw [hzero] at hnumber
      rw [if_pos rfl]
      refine hpoint.trans ?_
      rw [readFloatEnd_closes hrest]
      exact congrArg (Except.map _) hnumber
    | false =>
      have hnumber := hvalue negative
      rw [hzero] at hnumber
      rw [if_neg Bool.false_ne_true, readNumber_decimal (hplain hzero) hrest]
      exact congrArg (Except.map _) hnumber
  unfold FloatFormat.write
  simp only [String.toList_ofList]
  cases hneg : x.isNegative with
  | true => exact literal_minus fun rest hrest => hread true rest hrest
  | false => exact literal_digits fun rest hrest => hread false rest hrest

end Json

end Telemetry
