import Telemetry.Proofs.Json.Skipped

/-!
# Where typed values stand in a text

A typed value stands at the start of a text and leaves the text behind it.

* `Json.Opens`: an item of a list or a member of an object starts here.
* `Json.TextStands`, `Json.AnyStands`, `Json.NullOr`: the values of fields.
* `Json.nextItem_eq_some_iff`, `Json.nextMember_eq_some_iff`, `Json.readTextValue_eq_ok_iff`,
  `Json.readOptional_eq_ok_iff`: the readers take exactly what stands in the text.
-/

namespace Telemetry.Json

/-- How values of a type stand in a text: the text, the value and the text behind it. -/
abbrev Grammar (α : Type) := List Char → α → List Char → Prop

variable {α : Type} {cs rest start : List Char} {first : Bool}

/-! ## Items and members -/

/-- The text goes on with an item or a member, behind a comma if it is not the first one; a closing
sign starts none. -/
inductive Opens (close : Char) : Bool → List Char → List Char → Prop
  | first {cs t : List Char} {c : Char} (h : skipSpace cs = c :: t) (hc : c ≠ close) :
      Opens close true cs (c :: t)
  | next {cs t u : List Char} {c : Char} (hcomma : skipSpace cs = ',' :: t)
      (h : skipSpace t = c :: u) (hc : c ≠ close) : Opens close false cs (c :: u)

theorem Opens.length_le {close : Char} (h : Opens close first cs start) :
    start.length ≤ cs.length := by
  cases h with
  | first h => exact length_lt_of_skipSpace h
  | next hcomma h =>
    have hlt := length_lt_of_skipSpace hcomma
    exact Nat.le_trans (length_lt_of_skipSpace h) (Nat.le_of_lt hlt)

theorem nextEntry_eq_some_iff {close : Char} {unfinished separator : Fault} (hclose : close ≠ ',') :
    nextEntry close unfinished separator first cs = .ok (some start) ↔
      Opens close first cs start := by
  constructor
  · intro h
    unfold nextEntry at h
    split at h
    · cases h
    next c t hcs =>
    split at h
    · cases h
    next hc =>
    split at h
    · next hfirst =>
      subst hfirst
      obtain rfl := Option.some.inj (Except.ok.inj h)
      exact .first hcs hc
    next hfirst =>
    obtain rfl : first = false := by simpa using hfirst
    split at h
    · next hcomma =>
      subst hcomma
      split at h
      · cases h
      next c u hu =>
      split at h
      · cases h
      · next hc =>
        obtain rfl := Option.some.inj (Except.ok.inj h)
        exact .next hcs hu hc
    · cases h
  · rintro (⟨h, hc⟩ | ⟨hcomma, h, hc⟩)
    · simp [nextEntry, h, hc]
    · simp [nextEntry, hcomma, h, hc, hclose.symm]

theorem nextEntry_eq_none_iff {close : Char} {unfinished separator : Fault} :
    nextEntry close unfinished separator first cs = .ok none ↔
      ∃ t, skipSpace cs = close :: t := by
  constructor
  · intro h
    unfold nextEntry at h
    split at h
    · cases h
    next c t hcs =>
    split at h
    · next hc => exact ⟨t, hc ▸ hcs⟩
    split at h
    · cases h
    split at h
    · split at h
      · cases h
      split at h <;> cases h
    · cases h
  · rintro ⟨t, h⟩
    simp [nextEntry, h]

theorem nextItem_eq_some_iff : nextItem first cs = .ok (some start) ↔ Opens ']' first cs start :=
  nextEntry_eq_some_iff (by decide)

theorem nextItem_eq_none_iff : nextItem first cs = .ok none ↔ ∃ t, skipSpace cs = ']' :: t :=
  nextEntry_eq_none_iff

theorem nextMember_eq_some_iff :
    nextMember first cs = .ok (some start) ↔ Opens '\x7d' first cs start :=
  nextEntry_eq_some_iff (by decide)

theorem nextMember_eq_none_iff :
    nextMember first cs = .ok none ↔ ∃ t, skipSpace cs = '\x7d' :: t :=
  nextEntry_eq_none_iff

theorem pastSign_eq_ok_iff {sign : Char} {unfinished : Fault} {fault : List Char → Fault} :
    pastSign sign unfinished fault cs = .ok rest ↔ skipSpace cs = sign :: rest := by
  unfold pastSign
  cases skipSpace cs with
  | nil => simp
  | cons c t => by_cases hc : c = sign <;> simp [hc]

theorem endList_eq_ok_iff : endList cs = .ok rest ↔ skipSpace cs = ']' :: rest :=
  pastSign_eq_ok_iff

theorem endObject_eq_ok_iff : endObject cs = .ok rest ↔ skipSpace cs = '\x7d' :: rest :=
  pastSign_eq_ok_iff

theorem pastColon_eq_ok_iff : pastColon cs = .ok rest ↔ skipSpace cs = ':' :: rest :=
  pastSign_eq_ok_iff

theorem readKey_eq_ok_iff {key : String} :
    readKey cs = .ok (key, rest) ↔ ∃ t, cs = '"' :: t ∧ readString t = .ok (key, rest) := by
  constructor
  · intro h
    unfold readKey at h
    split at h
    · next t => exact ⟨t, rfl, mapError_eq_ok_iff.mp h⟩
    · cases h
  · rintro ⟨t, rfl, h⟩
    exact mapError_eq_ok_iff.mpr h

/-! ## Values of fields -/

/-- A string in quotes. -/
def TextStands : Grammar String := fun cs s rest =>
  ∃ t, skipSpace cs = '"' :: t ∧ readString t = .ok (s, rest)

/-- A value of any type, inside of a list and another one or an object. -/
def AnyStands : Grammar Json := fun cs v rest =>
  readValue (3 * cs.length + 3) 125 cs = .ok (v, rest)

/-- The word for null, or a value. -/
inductive NullOr (stands : Grammar α) : Grammar (Option α)
  | null {cs rest : List Char} (h : skipSpace cs = 'n' :: 'u' :: 'l' :: 'l' :: rest) :
      NullOr stands cs none rest
  | value {cs rest : List Char} {x : α} (hcs : ∀ t, skipSpace cs ≠ 'n' :: t)
      (h : stands (skipSpace cs) x rest) : NullOr stands cs (some x) rest

theorem readTextValue_eq_ok_iff {s : String} :
    readTextValue cs = .ok (s, rest) ↔ TextStands cs s rest := by
  constructor
  · intro h
    unfold readTextValue at h
    split at h
    · next t hcs => exact ⟨t, hcs, mapError_eq_ok_iff.mp h⟩
    · cases h
  · rintro ⟨t, hcs, h⟩
    rw [readTextValue, hcs]
    exact mapError_eq_ok_iff.mpr h

theorem readAny_eq_ok_iff {v : Json} : readAny 2 cs = .ok (v, rest) ↔ AnyStands cs v rest :=
  mapError_eq_ok_iff

theorem readOptional_eq_ok_iff {read : Reader α} {stands : Grammar α}
    (hread : ∀ cs x rest, read cs = .ok (x, rest) ↔ stands cs x rest) {x : Option α} :
    readOptional read cs = .ok (x, rest) ↔ NullOr stands cs x rest := by
  constructor
  · intro h
    unfold readOptional at h
    split at h
    · next t hcs =>
      obtain ⟨rest', hword, heq⟩ := map_eq_ok_iff.mp h
      obtain ⟨rfl, rfl⟩ := Prod.mk.inj heq
      exact .null (hcs.trans (congrArg ('n' :: ·) (readWord_eq_ok_iff.mp
        (mapError_eq_ok_iff.mp hword))))
    · next hcs =>
      obtain ⟨⟨y, rest'⟩, hy, heq⟩ := map_eq_ok_iff.mp h
      obtain ⟨rfl, rfl⟩ := Prod.mk.inj heq
      exact .value hcs ((hread _ _ _).mp hy)
  · rintro (⟨hcs⟩ | ⟨hcs, h⟩)
    · have hword : readWord ['u', 'l', 'l'] ('u' :: 'l' :: 'l' :: rest) = .ok rest :=
        readWord_eq_ok_iff.mpr rfl
      simp [readOptional, hcs, hword, plain, Except.map, Except.mapError]
    · unfold readOptional
      split
      · next t ht => exact absurd ht (hcs t)
      · rw [(hread _ _ _).mpr h]
        rfl

theorem TextStands.length_le {s : String} (h : TextStands cs s rest) :
    rest.length ≤ cs.length := by
  obtain ⟨t, hcs, ht⟩ := h
  exact Nat.le_trans (length_readString ht) (Nat.le_of_lt (length_lt_of_skipSpace hcs))

theorem NullOr.length_le {stands : Grammar α} {x : Option α} (h : NullOr stands cs x rest)
    (hstands : ∀ {cs x rest}, stands cs x rest → rest.length ≤ cs.length) :
    rest.length ≤ cs.length := by
  cases h with
  | null h =>
    have hle := length_lt_of_skipSpace h
    simp only [List.length_cons] at hle
    omega
  | value hcs h => exact Nat.le_trans (hstands h) (length_skipSpace cs)

end Telemetry.Json
