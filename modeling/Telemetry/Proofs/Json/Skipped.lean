import Telemetry.Proofs.Json.Skip

/-!
# What is read can be passed over

A value that is not needed is passed over with less care than it would be read with. What could be
read is passed over, and the same text is left behind it.

* `Json.skipString_of_readString`, `Json.skipNumber_of_readNumber`: strings and numbers.
* `Json.skipValue_of_readValue`: values.
* `Json.length_readString`, `Json.length_readValue`: so nothing is put in front of the text behind
  what has been read.
-/

namespace Telemetry.Json

variable {cs rest : List Char}

/-! ## Strings -/

/-- The characters of a string can be passed with some fuel. -/
def PassesString (cs rest : List Char) : Prop := ∃ fuel, skipStringFrom fuel cs = .ok rest

theorem PassesString.escape {mid : List Char} (h : PassesString mid rest)
    (hescape : skipEscape cs = .ok mid) : PassesString ('\\' :: cs) rest := by
  obtain ⟨fuel, h⟩ := h
  refine ⟨fuel + 1, ?_⟩
  rw [skipStringFrom, if_neg (by decide), if_pos rfl]
  exact bind_eq_ok_iff.mpr ⟨mid, hescape, h⟩

/-- A character by number is passed as one escape, or as two if it is beyond 16 bits. -/
theorem PassesString.of_readUnicode {c : Char} {out : List Char}
    (h : readUnicode cs = .ok (c, rest)) (hrest : PassesString rest out) :
    PassesString ('\\' :: 'u' :: cs) out := by
  obtain ⟨⟨n, cs₁⟩, hn, h⟩ := bind_eq_ok_iff.mp h
  have hfirst : skipEscape ('u' :: cs) = .ok cs₁ := map_eq_ok_iff.mpr ⟨_, hn, rfl⟩
  dsimp only at h
  split at h
  · cases h
  split at h
  · obtain ⟨-, rfl⟩ := Prod.mk.inj (Except.ok.inj h)
    exact hrest.escape hfirst
  split at h
  · cases h
  · cases h
  · next cs' =>
    obtain ⟨⟨m, cs₂⟩, hm, h⟩ := bind_eq_ok_iff.mp h
    have hsecond : skipEscape ('u' :: cs') = .ok cs₂ := map_eq_ok_iff.mpr ⟨_, hm, rfl⟩
    dsimp only at h
    split at h
    · cases h
    obtain ⟨-, rfl⟩ := Prod.mk.inj (Except.ok.inj h)
    exact (hrest.escape hsecond).escape hfirst
  · cases h

theorem PassesString.of_readEscape {c : Char} {out : List Char} (h : readEscape cs = .ok (c, rest))
    (hrest : PassesString rest out) : PassesString ('\\' :: cs) out := by
  have hsimple : ∀ {d : Char} {cs : List Char}, d ∈ ['"', '\\', '/', 'b', 'f', 'n', 'r', 't'] →
      PassesString cs out → PassesString ('\\' :: d :: cs) out := by
    intro d cs hd hcs
    refine hcs.escape ?_
    have hu : d ≠ 'u' := fun hu => absurd (hu ▸ hd) (by decide)
    simp [skipEscape, hd]
  unfold readEscape at h
  split at h <;> first
    | cases h; done
    | exact .of_readUnicode h hrest
    | (obtain ⟨-, rfl⟩ := Prod.mk.inj (Except.ok.inj h); exact hsimple (by decide) hrest)

theorem PassesString.of_readStringFrom {fuel : Nat} {done : List Char} {s : String}
    (h : readStringFrom fuel done cs = .ok (s, rest)) : PassesString cs rest := by
  induction fuel generalizing done cs with
  | zero => cases h
  | succ fuel ih =>
    cases cs with
    | nil => cases h
    | cons c cs =>
      rw [readStringFrom] at h
      split at h
      · next hquote =>
        obtain ⟨-, rfl⟩ := Prod.mk.inj (Except.ok.inj h)
        exact ⟨1, by rw [skipStringFrom, if_pos hquote]⟩
      next hquote =>
      split at h
      · next hescape =>
        subst hescape
        obtain ⟨⟨e, cs₁⟩, he, h⟩ := bind_eq_ok_iff.mp h
        exact .of_readEscape he (ih h)
      next hescape =>
      split at h
      · cases h
      · next hcontrol =>
        obtain ⟨fuel', hfuel⟩ := ih h
        refine ⟨fuel' + 1, ?_⟩
        rw [skipStringFrom, if_neg hquote, if_neg hescape, if_neg hcontrol, hfuel]

theorem skipString_of_readString {s : String} (h : readString cs = .ok (s, rest)) :
    skipString cs = .ok rest := by
  obtain ⟨fuel, hfuel⟩ := PassesString.of_readStringFrom h
  exact skipString_of_from hfuel

theorem length_readString {s : String} (h : readString cs = .ok (s, rest)) :
    rest.length ≤ cs.length :=
  length_skipString (skipString_of_readString h)

/-! ## Numbers -/

theorem skipDigits_eq (h : cs.takeWhile Char.isDigit ≠ []) :
    skipDigits cs = .ok (cs.dropWhile Char.isDigit) := by
  cases cs with
  | nil => exact absurd rfl h
  | cons c cs =>
    by_cases hc : c.isDigit
    · simp [skipDigits, hc]
    · simp [hc] at h

theorem skipExponent_of_readExponent {negative : Bool} {significand : Nat} {exponent : Int}
    {v : Json} (h : readExponent negative significand exponent cs = .ok (v, rest)) :
    skipExponent cs = .ok rest := by
  unfold readExponent at h
  split at h
  next minus cs' hsign =>
    have hskip : skipExponent cs = skipDigits cs' := by
      split at hsign <;> obtain ⟨-, rfl⟩ := Prod.mk.inj hsign
      · rfl
      · rfl
      · next hplus hminus =>
        unfold skipExponent
        split
        · exact (hplus _ rfl).elim
        · exact (hminus _ rfl).elim
        · rfl
    dsimp only at h
    split at h
    · cases h
    next hne =>
    -- Whatever number is made of the digits, the text behind them is left.
    have hrest : rest = cs'.dropWhile Char.isDigit := by
      split at h
      · split at h
        · cases h
        · exact (Prod.mk.inj (Except.ok.inj h)).2.symm
      · obtain ⟨x, -, h⟩ := bind_eq_ok_iff.mp h
        exact (Prod.mk.inj (Except.ok.inj h)).2.symm
    rw [hskip, skipDigits_eq (by simpa using hne), hrest]

theorem skipNumberEnd_of_readFloatEnd {negative : Bool} {significand : Nat} {exponent : Int}
    {v : Json} (h : readFloatEnd negative significand exponent cs = .ok (v, rest)) :
    skipNumberEnd cs = .ok rest := by
  unfold readFloatEnd at h
  split at h
  · exact skipExponent_of_readExponent h
  · exact skipExponent_of_readExponent h
  · next he hE =>
    obtain ⟨x, -, heq⟩ := map_eq_ok_iff.mp h
    obtain ⟨-, rfl⟩ := Prod.mk.inj heq
    unfold skipNumberEnd
    split
    · exact (he _ rfl).elim
    · exact (hE _ rfl).elim
    · rfl

theorem skipNumber_point {mid : List Char} {negative : Bool} {significand : Nat} {exponent : Int}
    {v : Json} (hwhole : skipWhole cs = .ok ('.' :: mid))
    (h : readFraction negative significand exponent mid = .ok (v, rest)) :
    skipNumber cs = .ok rest := by
  unfold readFraction at h
  dsimp only at h
  split at h
  · cases h
  next hne =>
  refine bind_eq_ok_iff.mpr ⟨_, hwhole, bind_eq_ok_iff.mpr ⟨_, skipDigits_eq ?_, ?_⟩⟩
  · simpa using hne
  · exact skipNumberEnd_of_readFloatEnd h

theorem skipNumber_pointless {mid : List Char} (hwhole : skipWhole cs = .ok mid)
    (hmid : ∀ t, mid ≠ '.' :: t) (h : skipNumberEnd mid = .ok rest) :
    skipNumber cs = .ok rest := by
  refine bind_eq_ok_iff.mpr ⟨mid, hwhole, ?_⟩
  split
  · next t => exact absurd rfl (hmid t)
  · exact h

theorem skipNumberEnd_self (he : ∀ t, cs ≠ 'e' :: t) (hE : ∀ t, cs ≠ 'E' :: t) :
    skipNumberEnd cs = .ok cs := by
  unfold skipNumberEnd
  split
  · next t => exact absurd rfl (he t)
  · next t => exact absurd rfl (hE t)
  · rfl

theorem skipNumber_of_readNumber {negative : Bool} {v : Json}
    (h : readNumber negative cs = .ok (v, rest)) : skipNumber cs = .ok rest := by
  unfold readNumber at h
  split at h
  · cases h
  · split at h
    · exact skipNumber_point rfl h
    · exact skipNumber_pointless rfl (by simp) (skipNumberEnd_of_readFloatEnd h)
    · exact skipNumber_pointless rfl (by simp) (skipNumberEnd_of_readFloatEnd h)
    · next c t hpoint he hE =>
      split at h
      · cases h
      next hdigit =>
      obtain ⟨-, rfl⟩ := Prod.mk.inj (Except.ok.inj h)
      have hwhole : skipWhole ('0' :: c :: t) = .ok (c :: t) := by rw [skipWhole, if_neg hdigit]
      refine skipNumber_pointless hwhole (fun u hu => hpoint (List.cons.inj hu).1) ?_
      exact skipNumberEnd_self (fun u hu => he (List.cons.inj hu).1)
        fun u hu => hE (List.cons.inj hu).1
    · obtain ⟨-, rfl⟩ := Prod.mk.inj (Except.ok.inj h)
      rfl
  · next c cs hzero =>
    split at h
    · cases h
    next hdigit =>
    have hwhole : skipWhole (c :: cs) = .ok ((c :: cs).dropWhile Char.isDigit) := by
      have hskip : skipWhole (c :: cs) = skipDigits (c :: cs) := by
        unfold skipWhole
        split
        · next heq => exact (hzero (List.cons.inj heq).1).elim
        · rfl
      have hc : c.isDigit = true := by simpa using hdigit
      rw [hskip, skipDigits_eq (by simp [hc])]
    dsimp only at h
    split at h
    · next hpoint => exact skipNumber_point (hwhole.trans (congrArg _ hpoint)) h
    · next he =>
      exact skipNumber_pointless hwhole (by simp [he]) (skipNumberEnd_of_readFloatEnd h)
    · next hE =>
      exact skipNumber_pointless hwhole (by simp [hE]) (skipNumberEnd_of_readFloatEnd h)
    · next hpoint he hE =>
      split at h
      · obtain ⟨-, rfl⟩ := Prod.mk.inj (Except.ok.inj h)
        exact skipNumber_pointless hwhole hpoint (skipNumberEnd_self he hE)
      · exact skipNumber_pointless hwhole hpoint (skipNumberEnd_of_readFloatEnd h)

/-! ## Values -/

theorem skipLiteral_of_readLiteral {c : Char} {v : Json} (h : readLiteral c cs = .ok (v, rest)) :
    skipLiteral c cs = .ok rest := by
  have hword : ∀ {w : List Char} {x : Json},
      (readWord w cs).map (x, ·) = .ok (v, rest) → readWord w cs = .ok rest := by
    intro w x hx
    obtain ⟨rest', hrest, heq⟩ := map_eq_ok_iff.mp hx
    obtain ⟨-, rfl⟩ := Prod.mk.inj heq
    exact hrest
  unfold readLiteral at h
  unfold skipLiteral
  split at h
  · next hc => rw [if_pos hc, hword h]
  next hc =>
  rw [if_neg hc]
  split at h
  · next hc => rw [if_pos hc, hword h]
  next hc =>
  rw [if_neg hc]
  split at h
  · next hc => rw [if_pos hc, hword h]
  next hc =>
  rw [if_neg hc]
  split at h
  · next hc => rw [if_pos hc, skipNumber_of_readNumber h]
  next hc =>
  rw [if_neg hc]
  split at h
  · next hc => rw [if_pos hc, skipNumber_of_readNumber h]
  next hc =>
  rw [if_neg hc]
  split at h
  · next hc =>
    obtain ⟨⟨s, rest'⟩, hs, heq⟩ := map_eq_ok_iff.mp h
    obtain ⟨-, rfl⟩ := Prod.mk.inj heq
    rw [if_pos hc, skipString_of_readString hs]
  · cases h

theorem skipSpace_skipSpace (cs : List Char) : skipSpace (skipSpace cs) = skipSpace cs := by
  induction cs with
  | nil => rfl
  | cons c cs ih =>
    by_cases hc : isSpace c <;> simp_all [skipSpace]

theorem skipValueFrom_skipSpace (fuel : Nat) (cs : List Char) :
    skipValueFrom fuel (skipSpace cs) = skipValueFrom fuel cs := by
  cases fuel with
  | zero => rw [skipValueFrom, skipValueFrom]
  | succ fuel => rw [skipValueFrom, skipValueFrom, skipSpace_skipSpace]

theorem skipMembers_skipSpace (fuel : Nat) (cs : List Char) :
    skipMembers fuel (skipSpace cs) = skipMembers fuel cs := by
  cases fuel with
  | zero => rw [skipMembers, skipMembers]
  | succ fuel => rw [skipMembers, skipMembers, skipSpace_skipSpace]

theorem skipValue_of_skipSpace (h : skipValue (skipSpace cs) = .ok rest) :
    skipValue cs = .ok rest :=
  skipValue_of_from ((skipValueFrom_skipSpace _ cs).symm.trans h)

/-- Items can be passed with some fuel, up to the end of their list. -/
def PassesItems (cs rest : List Char) : Prop := ∃ fuel, skipItems fuel cs = .ok rest

/-- Members can be passed with some fuel, up to the end of their object. -/
def PassesMembers (cs rest : List Char) : Prop := ∃ fuel, skipMembers fuel cs = .ok rest

/-- Behind an item or a member its list or object ends, or there is another one. -/
def Continues (close : Char) (passes : List Char → List Char → Prop) (cs rest : List Char) : Prop :=
  skipSpace cs = close :: rest ∨ ∃ t, skipSpace cs = ',' :: t ∧ passes t rest

theorem PassesItems.cons {mid : List Char} (hvalue : skipValue cs = .ok mid)
    (h : Continues ']' PassesItems mid rest) : PassesItems cs rest := by
  refine ⟨2 * cs.length + 2 + 1, ?_⟩
  rw [skipItems]
  refine bind_eq_ok_iff.mpr ⟨mid, hvalue, ?_⟩
  obtain hclose | ⟨t, hcomma, fuel, ht⟩ := h
  · rw [hclose]
    rfl
  · rw [hcomma]
    have hle := length_skipValue hvalue
    have hlt := length_lt_of_skipSpace hcomma
    exact (skipFrom_enough fuel).2.1 ht (by omega)

theorem PassesMembers.cons {u behind value mid : List Char} (hquote : skipSpace cs = '"' :: u)
    (hkey : skipString u = .ok behind) (hcolon : skipSpace behind = ':' :: value)
    (hvalue : skipValue value = .ok mid) (h : Continues '\x7d' PassesMembers mid rest) :
    PassesMembers cs rest := by
  have hu := length_lt_of_skipSpace hquote
  have hbehind := length_skipString hkey
  have hcs := length_lt_of_skipSpace hcolon
  have hmid := length_skipValue hvalue
  refine ⟨2 * cs.length + 2 + 1, ?_⟩
  rw [skipMembers, hquote]
  refine bind_eq_ok_iff.mpr ⟨behind, hkey, ?_⟩
  rw [hcolon]
  refine bind_eq_ok_iff.mpr ⟨mid, (skipFrom_enough _).1 hvalue (by omega), ?_⟩
  obtain hclose | ⟨t, hcomma, fuel, ht⟩ := h
  · rw [hclose]
    rfl
  · rw [hcomma]
    have hlt := length_lt_of_skipSpace hcomma
    exact (skipFrom_enough fuel).2.2 ht (by omega)

/-- The first item of a list or member of an object stands here, or the list or object ends. -/
def Starts (close : Char) (passes : List Char → List Char → Prop) (cs rest : List Char) : Prop :=
  skipSpace cs = close :: rest ∨ ∃ c t, skipSpace cs = c :: t ∧ c ≠ close ∧ passes (c :: t) rest

theorem skipValue_list {t : List Char} (h : Starts ']' PassesItems t rest)
    (hcs : skipSpace cs = '[' :: t) : skipValue cs = .ok rest := by
  obtain hclose | ⟨c, u, hu, hc, fuel, hfuel⟩ := h
  · simp only [skipValue, skipValueFrom, hcs, hclose]
  · have hfrom : skipValueFrom (fuel + 1) cs = .ok rest := by
      simp only [skipValueFrom, hcs, hu]
      split
      · contradiction
      · next heq => exact absurd (List.cons.inj heq).1 hc
      · exact hfuel
    exact skipValue_of_from hfrom

theorem skipValue_object {t : List Char} (h : Starts '\x7d' PassesMembers t rest)
    (hcs : skipSpace cs = '\x7b' :: t) : skipValue cs = .ok rest := by
  obtain hclose | ⟨c, u, hu, hc, fuel, hfuel⟩ := h
  · simp only [skipValue, skipValueFrom, hcs, hclose]
  · have hfrom : skipValueFrom (fuel + 1) cs = .ok rest := by
      simp only [skipValueFrom, hcs, hu]
      split
      · contradiction
      · next heq => exact absurd (List.cons.inj heq).1 hc
      · exact hfuel
    exact skipValue_of_from hfrom

theorem skipValue_literal {c : Char} {t : List Char} (hcs : skipSpace cs = c :: t)
    (hlist : c ≠ '[') (hobject : c ≠ '\x7b') (h : skipLiteral c t = .ok rest) :
    skipValue cs = .ok rest := by
  rw [skipValue, skipValueFrom, hcs]
  split
  · contradiction
  · next heq => exact absurd (List.cons.inj heq).1 hlist
  · next heq => exact absurd (List.cons.inj heq).1 hobject
  · next heq =>
    obtain ⟨rfl, rfl⟩ := List.cons.inj heq
    exact h

/-- By induction on the fuel of reading, for values, items and members at once. -/
theorem skipValue_of_readFrom (fuel : Nat) :
    (∀ {depth cs v rest}, readValue fuel depth cs = .ok (v, rest) → skipValue cs = .ok rest) ∧
    (∀ {depth done cs v rest}, readItems fuel depth true done cs = .ok (v, rest) →
      Starts ']' PassesItems cs rest) ∧
    (∀ {depth done cs v rest}, readItems fuel depth false done cs = .ok (v, rest) →
      Continues ']' PassesItems cs rest) ∧
    (∀ {depth done cs v rest}, readMembers fuel depth true done cs = .ok (v, rest) →
      Starts '\x7d' PassesMembers cs rest) ∧
    (∀ {depth done cs v rest}, readMembers fuel depth false done cs = .ok (v, rest) →
      Continues '\x7d' PassesMembers cs rest) ∧
    ∀ {depth done cs v rest}, readMember fuel depth done cs = .ok (v, rest) →
      PassesMembers cs rest := by
  induction fuel with
  | zero =>
    refine ⟨?_, ?_, ?_, ?_, ?_, ?_⟩ <;> intros <;> rename_i h
    · rw [readValue] at h
      cases h
    · rw [readItems] at h
      cases h
    · rw [readItems] at h
      cases h
    · rw [readMembers] at h
      cases h
    · rw [readMembers] at h
      cases h
    · rw [readMember] at h
      cases h
  | succ fuel ih =>
    obtain ⟨hvalue, hfirst, hitems, hfirstMember, hmembers, hmember⟩ := ih
    refine ⟨?_, ?_, ?_, ?_, ?_, ?_⟩
    · intro depth cs v rest h
      rw [readValue] at h
      split at h
      · cases h
      · next t hcs =>
        split at h
        · cases h
        · exact skipValue_list (hfirst h) hcs
      · next t hcs =>
        split at h
        · cases h
        · exact skipValue_object (hfirstMember h) hcs
      · next c t hlist hobject hcs =>
        exact skipValue_literal hcs hlist hobject (skipLiteral_of_readLiteral h)
    · intro depth done cs v rest h
      rw [readItems] at h
      split at h
      · cases h
      · next t hcs =>
        obtain ⟨-, rfl⟩ := Prod.mk.inj (Except.ok.inj h)
        exact .inl hcs
      · next c t hclose hcs =>
        rw [if_pos rfl] at h
        obtain ⟨⟨x, mid⟩, hx, h⟩ := bind_eq_ok_iff.mp h
        exact .inr ⟨c, t, hcs, hclose, .cons (hvalue hx) (hitems h)⟩
    · intro depth done cs v rest h
      rw [readItems] at h
      split at h
      · cases h
      · next t hcs =>
        obtain ⟨-, rfl⟩ := Prod.mk.inj (Except.ok.inj h)
        exact .inl hcs
      · next c t hclose hcs =>
        rw [if_neg Bool.false_ne_true] at h
        split at h
        · next hcomma =>
          subst hcomma
          split at h
          · cases h
          · cases h
          · obtain ⟨⟨x, mid⟩, hx, h⟩ := bind_eq_ok_iff.mp h
            exact .inr ⟨t, hcs, .cons (skipValue_of_skipSpace (hvalue hx)) (hitems h)⟩
        · cases h
    · intro depth done cs v rest h
      rw [readMembers] at h
      split at h
      · cases h
      · next t hcs =>
        obtain ⟨-, rfl⟩ := Prod.mk.inj (Except.ok.inj h)
        exact .inl hcs
      · next c t hclose hcs =>
        rw [if_pos rfl] at h
        exact .inr ⟨c, t, hcs, hclose, hmember h⟩
    · intro depth done cs v rest h
      rw [readMembers] at h
      split at h
      · cases h
      · next t hcs =>
        obtain ⟨-, rfl⟩ := Prod.mk.inj (Except.ok.inj h)
        exact .inl hcs
      · next c t hclose hcs =>
        rw [if_neg Bool.false_ne_true] at h
        split at h
        · next hcomma =>
          subst hcomma
          split at h
          · cases h
          · cases h
          · obtain ⟨n, hn⟩ := hmember h
            exact .inr ⟨t, hcs, n, (skipMembers_skipSpace n t).symm.trans hn⟩
        · cases h
    · intro depth done cs v rest h
      unfold readMember at h
      split at h
      · next u =>
        obtain ⟨⟨key, behind⟩, hkey, h⟩ := bind_eq_ok_iff.mp h
        dsimp only at h
        split at h
        · cases h
        · next value hcolon =>
          obtain ⟨⟨x, mid⟩, hx, h⟩ := bind_eq_ok_iff.mp h
          exact .cons rfl (skipString_of_readString hkey) hcolon (hvalue hx) (hmembers h)
        · cases h
      · cases h

/-- What can be read can be passed over, and the same text is left behind it. -/
theorem skipValue_of_readValue {fuel depth : Nat} {v : Json}
    (h : readValue fuel depth cs = .ok (v, rest)) : skipValue cs = .ok rest :=
  (skipValue_of_readFrom fuel).1 h

theorem length_readValue {fuel depth : Nat} {v : Json}
    (h : readValue fuel depth cs = .ok (v, rest)) : rest.length ≤ cs.length :=
  length_skipValue (skipValue_of_readValue h)

end Telemetry.Json
