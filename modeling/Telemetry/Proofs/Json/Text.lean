import Telemetry.Json.Decode
import Telemetry.Proofs.Entries
import Telemetry.Proofs.Json.Float

/-!
# Values read back from their JSON text

* `Json.regular`: the values that a program can hold: integers of 64 bits, finite floats, and
  members in ascending order of their keys.
* `Json.nesting`: how many lists and objects stand inside each other.
* `Json.readValue_compact`: a regular value is read back, up to the last bits of its floats, unless
  it is nested too deeply.
-/

namespace Telemetry

namespace Json

variable {rest : List Char} {fuel depth : Nat}

/-! ## Strings -/

theorem hexDigits_of_control : ∀ n < 0x20,
    Text.hexDigits 4 n = ['0', '0', Text.hexDigit (n / 16), Text.hexDigit (n % 16)] := by decide

theorem hexValue?_hexDigit : ∀ d < 16, hexValue? (Text.hexDigit d) = some d := by decide

/-- A control character is read from its number. -/
theorem readUnicode_hexDigits {c : Char} (hc : c.toNat < 0x20) (rest : List Char) :
    readUnicode (Text.hexDigits 4 c.toNat ++ rest) = .ok (c, rest) := by
  have hhex : readHex (Text.hexDigits 4 c.toNat ++ rest) = .ok (c.toNat, rest) := by
    have hzero : hexValue? '0' = some 0 := rfl
    have hsum : ((0 * 16 + 0) * 16 + c.toNat / 16) * 16 + c.toNat % 16 = c.toNat := by omega
    rw [hexDigits_of_control _ hc]
    simp only [List.cons_append, List.nil_append, readHex, hzero,
      hexValue?_hexDigit (c.toNat / 16) (by omega), hexValue?_hexDigit (c.toNat % 16) (by omega),
      hsum]
  unfold readUnicode
  simp only [hhex, bind, Except.bind,
    if_neg (show ¬ (0xDC00 ≤ c.toNat ∧ c.toNat ≤ 0xDFFF) by omega),
    if_pos (show c.toNat < 0xD800 ∨ 0xDBFF < c.toNat by omega), pure, Except.pure,
    Char.ofNat_toNat]

/-- A character is read from its escaped form. -/
theorem readStringFrom_escapedChar (done : List Char) (c : Char) (rest : List Char) :
    readStringFrom (fuel + 1) done (escapedChar c ++ rest) =
      readStringFrom fuel (c :: done) rest := by
  unfold escapedChar
  split_ifs with hquote hback hbell hform hline hreturn htab hcontrol
  · subst hquote; rfl
  · subst hback; rfl
  · subst hbell; rfl
  · subst hform; rfl
  · subst hline; rfl
  · subst hreturn; rfl
  · subst htab; rfl
  · have hread : readEscape ('u' :: (Text.hexDigits 4 c.toNat ++ rest)) = .ok (c, rest) :=
      readUnicode_hexDigits hcontrol rest
    have htext : ['\\', 'u'] ++ Text.hexDigits 4 c.toNat ++ rest =
        '\\' :: 'u' :: (Text.hexDigits 4 c.toNat ++ rest) := by simp
    rw [htext, readStringFrom, if_neg (by decide), if_pos rfl, hread]
    rfl
  · rw [List.singleton_append, readStringFrom, if_neg hquote, if_neg hback, if_neg hcontrol]

/-- The characters of a string are read up to its closing quote. -/
theorem readStringFrom_chars {cs : List Char} (done : List Char) (hfuel : cs.length < fuel) :
    readStringFrom fuel done (cs.flatMap escapedChar ++ '"' :: rest) =
      .ok (String.ofList (done.reverse ++ cs), rest) := by
  induction cs generalizing fuel done with
  | nil =>
    cases fuel with
    | zero => cases hfuel
    | succ fuel => simp [readStringFrom]
  | cons c cs ih =>
    cases fuel with
    | zero => cases hfuel
    | succ fuel =>
      rw [List.flatMap_cons, List.append_assoc, readStringFrom_escapedChar,
        ih _ (Nat.lt_of_succ_lt_succ hfuel), List.reverse_cons, List.append_assoc,
        List.singleton_append]

theorem length_le_flatMap_escapedChar (cs : List Char) :
    cs.length ≤ (cs.flatMap escapedChar).length := by
  induction cs with
  | nil => exact Nat.le_refl _
  | cons c cs ih =>
    have hc : 0 < (escapedChar c).length := by
      unfold escapedChar
      split_ifs <;> simp
    rw [List.flatMap_cons, List.length_append, List.length_cons]
    omega

/-- A string is read from its characters after the opening quote. -/
theorem readString_chars (s : String) (rest : List Char) :
    readString (s.toList.flatMap escapedChar ++ '"' :: rest) = .ok (s, rest) := by
  have hlength := length_le_flatMap_escapedChar s.toList
  unfold readString
  rw [readStringFrom_chars [] (by simp only [List.length_append]; omega)]
  simp

theorem literal_text (s : String) : Literal (stringChars s) (.text s) := by
  refine ⟨'"', s.toList.flatMap escapedChar ++ ['"'], rfl, rfl, by decide, by decide, by decide,
    fun rest _ => ?_⟩
  have hstring : ∀ cs, readLiteral '"' cs = (readString cs).map fun r => (.text r.1, r.2) :=
    fun _ => rfl
  rw [List.append_assoc, List.singleton_append, hstring, readString_chars]
  rfl

/-! ## Values -/

mutual

/-- A value that a program can hold: its integers have 64 bits, its floats are finite, and its
members are in ascending order of their keys. -/
def regular : Json → Bool
  | int i => decide (-2 ^ 63 ≤ i) && decide (i < 2 ^ 64)
  | float x => x.isFinite
  | list items => regularItems items
  | object members => decide (Entries.Sorted members) && regularMembers members
  | _ => true

def regularItems : List Json → Bool
  | [] => true
  | v :: vs => regular v && regularItems vs

def regularMembers : List (String × Json) → Bool
  | [] => true
  | (_, v) :: ms => regular v && regularMembers ms

end

mutual

/-- A value that a program can hold is equal to itself: its floats are numbers. -/
theorem same_self : (v : Json) → v.regular = true → v.same v = true
  | .null, _ => rfl
  | .bool b, _ => by simp [same]
  | .int i, _ => by simp [same]
  | .float x, h => by
    have hfinite : x.exponentBits < 2047 := by simpa [regular, Binary64.isFinite] using h
    have hnumber : x.isNaN = false := by simp [Binary64.isNaN, hfinite.ne]
    simp [same, Binary64.same, hnumber]
  | .text s, _ => by simp [same]
  | .list items, h => sameItems_self items h
  | .object members, h => by
    simp only [regular, Bool.and_eq_true] at h
    exact sameMembers_self members h.2

theorem sameItems_self : (vs : List Json) → regularItems vs = true → sameItems vs vs = true
  | [], _ => rfl
  | v :: vs, h => by
    simp only [regularItems, Bool.and_eq_true] at h
    simp [sameItems, same_self v h.1, sameItems_self vs h.2]

theorem sameMembers_self : (ms : List (String × Json)) → regularMembers ms = true →
    sameMembers ms ms = true
  | [], _ => rfl
  | (k, v) :: ms, h => by
    simp only [regularMembers, Bool.and_eq_true] at h
    simp [sameMembers, same_self v h.1, sameMembers_self ms h.2]

end

mutual

/-- How many lists and objects stand inside each other. -/
def nesting : Json → Nat
  | list items => nestingItems items + 1
  | object members => nestingMembers members + 1
  | _ => 0

def nestingItems : List Json → Nat
  | [] => 0
  | v :: vs => max (nesting v) (nestingItems vs)

def nestingMembers : List (String × Json) → Nat
  | [] => 0
  | (_, v) :: ms => max (nesting v) (nestingMembers ms)

end

mutual

/-- The value that is read back from the text of a regular one: its floats may differ in their last
bits. -/
def reread : Json → Json
  | float x => float (x.reread?.getD x)
  | list items => list (rereadItems items)
  | object members => object (rereadMembers members)
  | v => v

def rereadItems : List Json → List Json
  | [] => []
  | v :: vs => reread v :: rereadItems vs

def rereadMembers : List (String × Json) → List (String × Json)
  | [] => []
  | (k, v) :: ms => (k, reread v) :: rereadMembers ms

end

/-- Every value but a list and an object is a literal. -/
theorem literal_compact {v : Json} (hv : v.regular = true) (hflat : v.nesting = 0) :
    Literal v.compactChars v.reread := by
  have hword : ∀ c cs w, isSpace c = false → c ≠ '[' → c ≠ ']' → c ≠ '\x7b' →
      (∀ rest, readLiteral c (cs ++ rest) = .ok (w, rest)) → Literal (c :: cs) w :=
    fun c cs w hspace hlist hclose hobject hread =>
      ⟨c, cs, rfl, hspace, hlist, hclose, hobject, fun rest _ => hread rest⟩
  cases v with
  | null => exact hword _ _ _ rfl (by decide) (by decide) (by decide) fun _ => rfl
  | bool b =>
    cases b <;> exact hword _ _ _ rfl (by decide) (by decide) (by decide) fun _ => rfl
  | int i =>
    simp only [regular, Bool.and_eq_true, decide_eq_true_eq] at hv
    exact literal_int hv.1 hv.2
  | float x => exact literal_finite hv
  | text s => exact literal_text s
  | list items => simp [nesting] at hflat
  | object members => simp [nesting] at hflat

/-- The text of a value starts with a sign that is neither blank nor the end of a list. -/
theorem compactChars_head {v : Json} (hv : v.regular = true) :
    ∃ c cs, v.compactChars = c :: cs ∧ isSpace c = false ∧ c ≠ ']' := by
  by_cases hflat : v.nesting = 0
  · obtain ⟨c, cs, hchars, hspace, -, hclose, -⟩ := literal_compact hv hflat
    exact ⟨c, cs, hchars, hspace, hclose⟩
  · cases v with
    | list items => exact ⟨'[', _, rfl, rfl, by decide⟩
    | object members => exact ⟨'\x7b', _, rfl, rfl, by decide⟩
    | _ => exact absurd rfl hflat

theorem length_compactChars_pos {v : Json} (hv : v.regular = true) :
    0 < v.compactChars.length := by
  obtain ⟨c, cs, hchars, -⟩ := compactChars_head hv
  rw [hchars]
  exact Nat.succ_pos _

theorem readValue_literal {chars : List Char} {v : Json} (h : Literal chars v)
    (hrest : Closes rest) : readValue (fuel + 1) depth (chars ++ rest) = .ok (v, rest) := by
  obtain ⟨c, cs, rfl, hspace, hlist, -, hobject, hread⟩ := h
  have hskip : skipSpace (c :: (cs ++ rest)) = c :: (cs ++ rest) := by
    simp [skipSpace, hspace]
  rw [List.cons_append, readValue, hskip]
  split
  · next heq => cases heq
  · next heq => exact absurd (List.cons.inj heq).1 hlist
  · next heq => exact absurd (List.cons.inj heq).1 hobject
  · next heq =>
    obtain ⟨rfl, rfl⟩ := List.cons.inj heq
    exact hread rest hrest

/-- Texts with commas between them: the first, and each other one after its comma. -/
theorem separated_cons (x : List Char) (xs : List (List Char)) :
    separated [','] (x :: xs) = x ++ xs.flatMap (',' :: ·) := by
  induction xs generalizing x with
  | nil => simp [separated]
  | cons y ys ih =>
    rw [separated, ih, List.flatMap_cons]
    · simp
    · simp

/-! ### One item or member -/

variable {done : List Json} {known : Entries Json}

theorem skipSpace_cons {c : Char} (hc : isSpace c = false) (cs : List Char) :
    skipSpace (c :: cs) = c :: cs := by
  simp [skipSpace, hc]

theorem readItems_close (first : Bool) :
    readItems (fuel + 1) depth first done (']' :: rest) = .ok (.list done.reverse, rest) := by
  rw [readItems, skipSpace_cons rfl]
  rfl

theorem readMembers_close (first : Bool) :
    readMembers (fuel + 1) depth first known ('\x7d' :: rest) = .ok (.object known, rest) := by
  rw [readMembers, skipSpace_cons rfl]
  rfl

/-- The first item of a list. -/
theorem readItems_first {v : Json} (hv : v.regular = true) :
    readItems (fuel + 1) depth true done (v.compactChars ++ rest) =
      (readValue fuel depth (v.compactChars ++ rest)).bind fun r =>
        readItems fuel depth false (r.1 :: done) r.2 := by
  obtain ⟨c, cs, hchars, hspace, hclose⟩ := compactChars_head hv
  rw [hchars, List.cons_append, readItems, skipSpace_cons hspace]
  split
  · next heq => cases heq
  · next heq => exact absurd (List.cons.inj heq).1 hclose
  · next heq =>
    obtain ⟨rfl, rfl⟩ := List.cons.inj heq
    rfl

/-- An item after another one. -/
theorem readItems_next {v : Json} (hv : v.regular = true) :
    readItems (fuel + 1) depth false done (',' :: v.compactChars ++ rest) =
      (readValue fuel depth (v.compactChars ++ rest)).bind fun r =>
        readItems fuel depth false (r.1 :: done) r.2 := by
  obtain ⟨c, cs, hchars, hspace, hclose⟩ := compactChars_head hv
  rw [hchars, List.cons_append, List.cons_append, readItems, skipSpace_cons rfl]
  split
  · next heq => cases heq
  · next heq => exact absurd (List.cons.inj heq).1 (by decide)
  · next heq =>
    obtain ⟨rfl, rfl⟩ := List.cons.inj heq
    simp only [Bool.false_eq_true, if_false, if_true, skipSpace_cons hspace]
    split
    · next heq => cases heq
    · next heq => exact absurd (List.cons.inj heq).1 hclose
    · rfl

/-- A member. -/
theorem readMember_chars (k : String) (cs : List Char) :
    readMember (fuel + 1) depth known (stringChars k ++ ':' :: cs) =
      (readValue fuel depth cs).bind fun r =>
        readMembers fuel depth false (known.insert k r.1) r.2 := by
  have htext : stringChars k ++ ':' :: cs =
      '"' :: (k.toList.flatMap escapedChar ++ '"' :: ':' :: cs) := by simp [stringChars]
  rw [htext, readMember]
  simp only [readString_chars, bind, Except.bind,
    skipSpace_cons (show isSpace ':' = false from rfl)]

/-- The first member of an object. -/
theorem readMembers_first (k : String) (cs : List Char) :
    readMembers (fuel + 1) depth true known (stringChars k ++ cs) =
      readMember fuel depth known (stringChars k ++ cs) := by
  rw [stringChars, List.cons_append, List.cons_append, readMembers, skipSpace_cons rfl]
  rfl

/-- A member after another one. -/
theorem readMembers_next (k : String) (cs : List Char) :
    readMembers (fuel + 1) depth false known (',' :: stringChars k ++ cs) =
      readMember fuel depth known (stringChars k ++ cs) := by
  rw [stringChars, List.cons_append, List.cons_append, List.cons_append, readMembers,
    skipSpace_cons rfl]
  rfl

/-! ### Whole values -/

theorem closes_cons {c : Char} (hc : c = ',' ∨ c = ']' ∨ c = '\x7d') (cs : List Char) :
    Closes (c :: cs) := by
  simpa [Closes] using hc

/-- After an item comes the next one or the end. -/
theorem closes_more {c : Char} (hc : c = ']' ∨ c = '\x7d') (xs : List (List Char))
    (rest : List Char) : Closes (xs.flatMap (',' :: ·) ++ c :: rest) := by
  cases xs with
  | nil => exact closes_cons (.inr hc) _
  | cons x xs => exact closes_cons (.inl rfl) _

/-- What is read in two steps is read if both may enter as many lists and objects as they have. -/
theorem bind_within {n m : Nat} {r s : Json × List Char}
    {f : Json × List Char → Except Fault (Json × List Char)}
    (hf : f r = if m ≤ depth then .ok s else .error .nestingTooDeep) :
    (if n ≤ depth then .ok r else .error .nestingTooDeep : Except Fault _).bind f =
      if max n m ≤ depth then .ok s else .error .nestingTooDeep := by
  by_cases hn : n ≤ depth
  · rw [if_pos hn, Except.bind, hf]
    simp [hn]
  · rw [if_neg hn, if_neg (by omega)]
    rfl

mutual

/-- A value is read back, unless more lists and objects stand inside each other than may be
entered. -/
theorem readValue_compact (v : Json) (hv : v.regular = true) {fuel depth : Nat} {rest : List Char}
    (hfuel : 3 * v.compactChars.length ≤ fuel) (hrest : Closes rest) :
    readValue fuel depth (v.compactChars ++ rest) =
      if v.nesting ≤ depth then .ok (v.reread, rest) else .error .nestingTooDeep := by
  have hpos := length_compactChars_pos hv
  obtain ⟨fuel, rfl⟩ : ∃ f, fuel = f + 1 := ⟨fuel - 1, by omega⟩
  cases v with
  | list items =>
    simp only [compactChars, List.cons_append, List.append_assoc, List.length_cons,
      List.length_append, List.length_nil, List.nil_append] at hfuel ⊢
    rw [readValue, skipSpace_cons rfl]
    cases depth with
    | zero => rfl
    | succ depth =>
      simp only [nesting, reread, Nat.add_le_add_iff_right]
      exact readItems_all items hv (by omega)
  | object members =>
    simp only [compactChars, List.cons_append, List.append_assoc, List.length_cons,
      List.length_append, List.length_nil, List.nil_append] at hfuel ⊢
    rw [readValue, skipSpace_cons rfl]
    cases depth with
    | zero => rfl
    | succ depth =>
      simp only [regular, Bool.and_eq_true, decide_eq_true_eq] at hv
      simp only [nesting, reread, Nat.add_le_add_iff_right]
      exact readMembers_all members hv.1 hv.2 (by omega)
  | _ =>
    rw [readValue_literal (literal_compact hv rfl) hrest]
    exact (if_pos (Nat.zero_le _)).symm

/-- The items of a list, after its opening bracket. -/
theorem readItems_all (vs : List Json) (hvs : regularItems vs = true) {fuel depth : Nat}
    {rest : List Char} (hfuel : 3 * (separated [','] (compactItems vs)).length + 1 ≤ fuel) :
    readItems fuel depth true [] (separated [','] (compactItems vs) ++ ']' :: rest) =
      if nestingItems vs ≤ depth then .ok (.list (rereadItems vs), rest)
      else .error .nestingTooDeep := by
  obtain ⟨fuel, rfl⟩ : ∃ f, fuel = f + 1 := ⟨fuel - 1, by omega⟩
  cases vs with
  | nil =>
    rw [nestingItems, if_pos (Nat.zero_le _), rereadItems]
    exact readItems_close true
  | cons v vs =>
    simp only [regularItems, Bool.and_eq_true] at hvs
    obtain ⟨hv, hvs⟩ := hvs
    have hpos := length_compactChars_pos hv
    rw [compactItems, separated_cons, List.length_append] at hfuel
    rw [compactItems, separated_cons, List.append_assoc, readItems_first hv,
      readValue_compact v hv (by omega) (closes_more (.inl rfl) _ _), nestingItems]
    exact bind_within (readItems_compact vs hvs (by omega))

/-- The items of a list after the first. -/
theorem readItems_compact (vs : List Json) (hvs : regularItems vs = true) {fuel depth : Nat}
    {done : List Json} {rest : List Char}
    (hfuel : 3 * ((compactItems vs).flatMap (',' :: ·)).length + 1 ≤ fuel) :
    readItems fuel depth false done ((compactItems vs).flatMap (',' :: ·) ++ ']' :: rest) =
      if nestingItems vs ≤ depth then .ok (.list (done.reverse ++ rereadItems vs), rest)
      else .error .nestingTooDeep := by
  obtain ⟨fuel, rfl⟩ : ∃ f, fuel = f + 1 := ⟨fuel - 1, by omega⟩
  cases vs with
  | nil =>
    rw [nestingItems, if_pos (Nat.zero_le _), rereadItems, List.append_nil]
    exact readItems_close false
  | cons v vs =>
    simp only [regularItems, Bool.and_eq_true] at hvs
    obtain ⟨hv, hvs⟩ := hvs
    have hdone : done.reverse ++ v.reread :: rereadItems vs =
        (v.reread :: done).reverse ++ rereadItems vs := by simp
    rw [compactItems, List.flatMap_cons, List.length_append, List.length_cons] at hfuel
    rw [compactItems, List.flatMap_cons, List.append_assoc, readItems_next hv,
      readValue_compact v hv (by omega) (closes_more (.inl rfl) _ _), nestingItems, rereadItems,
      hdone]
    exact bind_within (readItems_compact vs hvs (by omega))

/-- The members of an object, after its opening brace. -/
theorem readMembers_all (ms : List (String × Json)) (hsorted : Entries.Sorted ms)
    (hms : regularMembers ms = true) {fuel depth : Nat} {rest : List Char}
    (hfuel : 3 * (separated [','] (compactMembers ms)).length + 1 ≤ fuel) :
    readMembers fuel depth true [] (separated [','] (compactMembers ms) ++ '\x7d' :: rest) =
      if nestingMembers ms ≤ depth then .ok (.object (rereadMembers ms), rest)
      else .error .nestingTooDeep := by
  obtain ⟨fuel, rfl⟩ : ∃ f, fuel = f + 1 := ⟨fuel - 1, by omega⟩
  cases ms with
  | nil =>
    rw [nestingMembers, if_pos (Nat.zero_le _), rereadMembers]
    exact readMembers_close true
  | cons m ms =>
    obtain ⟨k, v⟩ := m
    simp only [regularMembers, Bool.and_eq_true] at hms
    obtain ⟨hv, hms⟩ := hms
    obtain ⟨hhead, hsorted⟩ := List.pairwise_cons.mp hsorted
    have hpos := length_compactChars_pos hv
    rw [compactMembers, separated_cons, List.length_append, List.length_append,
      List.length_cons] at hfuel
    obtain ⟨fuel, rfl⟩ : ∃ f, fuel = f + 1 := ⟨fuel - 1, by omega⟩
    rw [compactMembers, separated_cons, List.append_assoc, List.append_assoc, readMembers_first,
      List.cons_append, readMember_chars,
      readValue_compact v hv (by omega) (closes_more (.inr rfl) _ _), nestingMembers]
    refine bind_within (readMembers_compact ms hsorted hms ?_ (by omega))
    intro e he e' he'
    rw [List.mem_singleton.mp he]
    exact hhead e' he'

/-- The members of an object after the first. -/
theorem readMembers_compact (ms : List (String × Json)) (hsorted : Entries.Sorted ms)
    (hms : regularMembers ms = true) {fuel depth : Nat} {known : Entries Json} {rest : List Char}
    (hknown : ∀ e ∈ known, ∀ e' ∈ ms, e.1 < e'.1)
    (hfuel : 3 * ((compactMembers ms).flatMap (',' :: ·)).length + 1 ≤ fuel) :
    readMembers fuel depth false known
        ((compactMembers ms).flatMap (',' :: ·) ++ '\x7d' :: rest) =
      if nestingMembers ms ≤ depth then .ok (.object (known ++ rereadMembers ms), rest)
      else .error .nestingTooDeep := by
  obtain ⟨fuel, rfl⟩ : ∃ f, fuel = f + 1 := ⟨fuel - 1, by omega⟩
  cases ms with
  | nil =>
    rw [nestingMembers, if_pos (Nat.zero_le _), rereadMembers, List.append_nil]
    exact readMembers_close false
  | cons m ms =>
    obtain ⟨k, v⟩ := m
    simp only [regularMembers, Bool.and_eq_true] at hms
    obtain ⟨hv, hms⟩ := hms
    obtain ⟨hhead, hsorted⟩ := List.pairwise_cons.mp hsorted
    have hlast : known.insert k v.reread = known ++ [(k, v.reread)] :=
      Entries.insert_of_lt (fun e he => hknown e he (k, v) (.head _)) _
    have hdone : known ++ (k, v.reread) :: rereadMembers ms =
        known.insert k v.reread ++ rereadMembers ms := by simp [hlast]
    rw [compactMembers, List.flatMap_cons, List.length_append, List.length_cons,
      List.length_append, List.length_cons] at hfuel
    obtain ⟨fuel, rfl⟩ : ∃ f, fuel = f + 1 := ⟨fuel - 1, by omega⟩
    rw [compactMembers, List.flatMap_cons, List.append_assoc, ← List.cons_append,
      List.append_assoc, readMembers_next, List.cons_append, readMember_chars,
      readValue_compact v hv (by omega) (closes_more (.inr rfl) _ _), nestingMembers,
      rereadMembers, hdone]
    refine bind_within (readMembers_compact ms hsorted hms ?_ (by omega))
    intro e he e' he'
    rw [hlast] at he
    obtain he | he := List.mem_append.mp he
    · exact hknown e he e' (.tail _ he')
    · rw [List.mem_singleton.mp he]
      exact hhead e' he'

end

/-- A regular value is read back from its text, its floats up to their last bits, unless more lists
and objects stand inside each other than are read. -/
theorem read_compact {v : Json} (hv : v.regular = true) :
    read v.compact =
      if v.nesting ≤ nestingLimit then .ok v.reread else .error .nestingTooDeep := by
  have hread : readValue (3 * v.compactChars.length + 3) nestingLimit (v.compactChars ++ []) = _ :=
    readValue_compact v hv (by omega) closes_nil
  rw [List.append_nil] at hread
  unfold read readWithin compact
  simp only [String.toList_ofList, hread, bind, Except.bind]
  split
  · next hrest =>
    split at hrest <;> cases hrest
    next hdepth => rw [if_neg hdepth]
  · next hrest =>
    split at hrest <;> cases hrest
    next hdepth =>
      rw [if_pos hdepth]
      rfl

/-- An object is read as one. -/
theorem readObject_compact {members : Entries Json} (hv : (object members).regular = true) :
    readObject (object members).compact =
      if (object members).nesting ≤ nestingLimit then .ok (rereadMembers members)
      else .error (.unreadable .nestingTooDeep) := by
  have hbrace : skipSpace (object members).compact.toList =
      '\x7b' :: (separated [','] (compactMembers members) ++ ['\x7d']) := by
    rw [compact, String.toList_ofList, compactChars, List.cons_append, skipSpace_cons rfl]
  unfold readObject
  rw [hbrace]
  simp only [read_compact hv]
  by_cases hdepth : (object members).nesting ≤ nestingLimit
  · simp only [if_pos hdepth, reread]
  · simp only [if_neg hdepth]

theorem rereadMembers_eq (ms : Entries Json) : rereadMembers ms = ms.mapValues reread := by
  induction ms with
  | nil => rfl
  | cons m ms ih =>
    obtain ⟨k, v⟩ := m
    rw [rereadMembers, ih, Entries.mapValues_cons]

end Json

end Telemetry
