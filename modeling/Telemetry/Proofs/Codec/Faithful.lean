import Telemetry.Proofs.Renaming

/-!
# Values that are read as they were written

* `Json.Faithful`: what `encode` writes of a value is not null and is read as that value. It passes
  to lists (`faithful_list`) and to optional fields (`faithful_member`).
* `Json.Legible`: a value is what `decode` reads somewhere. Null stands for an absent value, so that
  no legible untyped value is null (`Legible.join_ne_null`).
* `Entries.field?_eq_mapM`, `Entries.get?_append`, `Entries.get?_member?`: where a decoder finds the
  fields that an encoder wrote. They are simp lemmas, so that one `simp` follows a record from its
  text to its value.
-/

namespace Telemetry

namespace Decoded

variable {α β : Type}

@[simp] theorem ok_bind (a : α) (f : α → Decoded β) : (Except.ok a >>= f : Decoded β) = f a := rfl

@[simp] theorem ok_map (a : α) (f : α → β) : (f <$> Except.ok a : Decoded β) = .ok (f a) := rfl

@[simp] theorem pure_eq_ok (a : α) : (pure a : Decoded α) = .ok a := rfl

/-- A computation on the result of another succeeds. -/
theorem map_eq_ok {x : Decoded α} {f : α → β} {b : β} :
    f <$> x = .ok b ↔ ∃ a, x = .ok a ∧ f a = b := by
  cases x <;> simp [Functor.map, Except.map]

end Decoded

namespace Entries

variable {α : Type}

@[simp] theorem get?_append (m n : Entries α) (k : String) :
    get? (m ++ n) k = (get? m k).or (get? n k) := by
  induction m with
  | nil => rfl
  | cons e m ih =>
    obtain ⟨k₀, v₀⟩ := e
    rw [List.cons_append, get?_cons, get?_cons, ih]
    split <;> rfl

@[simp] theorem get?_member? (key k : String) (encode : α → Json) (x : Option α) :
    get? (Json.member? key encode x) k = if k = key then x.map encode else none := by
  cases x with
  | none => simp [Json.member?]
  | some x => simp [Json.member?, get?_cons]

theorem field?_eq_mapM (m : Entries Json) (key : String) (decode : Json → Decoded α) :
    m.field? key decode = (m.get? key).mapM decode := by
  unfold field?
  cases m.get? key <;> rfl

attribute [simp] get?_cons

@[simp] theorem need_some (key : String) (x : α) : need key (some x) = .ok x := rfl

end Entries

namespace Json

variable {α : Type}

/-- What is written of a value is not null, and it is read as that value. -/
def ReadBack (decode : Json → Decoded α) (encode : α → Json) (x : α) : Prop :=
  encode x ≠ null ∧ decode (encode x) = .ok x

/-- Every value is read back. -/
def Faithful (decode : Json → Decoded α) (encode : α → Json) : Prop :=
  ∀ x, ReadBack decode encode x

variable {decode : Json → Decoded α} {encode : α → Json}

theorem readBack_list {xs : List α} (h : ∀ x ∈ xs, ReadBack decode encode x) :
    decodeList decode (list (xs.map encode)) = .ok xs := by
  unfold decodeList
  induction xs with
  | nil => rfl
  | cons x xs ih =>
    obtain ⟨hx, hxs⟩ := List.forall_mem_cons.mp h
    simp [decodeItems, hx.2, ih hxs]

theorem readBack_member {o : Option α} (h : ∀ x, o = some x → ReadBack decode encode x) :
    (o.map encode).mapM (decodeOption decode) = .ok (o.map some) := by
  cases o with
  | none => rfl
  | some x =>
    obtain ⟨hnull, hx⟩ := h x rfl
    have hpresent : decodeOption decode (encode x) = .ok (some x) := by
      unfold decodeOption
      split
      · next heq => exact absurd heq hnull
      · rw [hx, Decoded.ok_map]
    rw [Option.map_some, Option.mapM_some, hpresent, Decoded.ok_map, Option.map_some]

@[simp] theorem faithful_list (h : Faithful decode encode) (xs : List α) :
    decodeList decode (list (xs.map encode)) = .ok xs :=
  readBack_list fun x _ => h x

@[simp] theorem faithful_member (h : Faithful decode encode) (o : Option α) :
    (o.map encode).mapM (decodeOption decode) = .ok (o.map some) :=
  readBack_member fun x _ => h x

@[simp] theorem join_map_some (o : Option α) : (o.map some).join = o := by cases o <;> rfl

@[simp] theorem faithful_text : Faithful decodeText text := fun _ => ⟨nofun, rfl⟩

@[simp] theorem decodeText_text (s : String) : decodeText (text s) = .ok s := rfl

@[simp] theorem decodeBool_bool (b : Bool) : decodeBool (bool b) = .ok b := rfl

@[simp] theorem decodeMap_object (m : Entries Json) : decodeMap (object m) = .ok m := rfl

@[simp] theorem decodeList_texts (xs : List String) : decodeList decodeText (texts xs) = .ok xs :=
  faithful_list faithful_text xs

/-- A record that is written as an object is read from its members. -/
@[simp] theorem decodeRecord_object (name : String) (arity : Nat) (standing : Standing)
    (ofMembers : Entries Json → Decoded α) (ofItems : List Json → Decoded α) (m : Entries Json) :
    decodeRecord name arity standing ofMembers ofItems (object m) = ofMembers m := rfl

/-! ## What a decoder reads -/

/-- A value that `decode` reads somewhere. -/
def Legible (decode : Json → Decoded α) (x : α) : Prop := ∃ v, decode v = .ok x

/-- A record is read from an object or from a list, and what holds of both holds of it. -/
theorem Legible.record {name : String} {arity : Nat} {standing : Standing}
    {ofMembers : Entries Json → Decoded α} {ofItems : List Json → Decoded α} {P : α → Prop} {x : α}
    (h : Legible (decodeRecord name arity standing ofMembers ofItems) x)
    (hmembers : ∀ m, ofMembers m = .ok x → P x) (hitems : ∀ vs, ofItems vs = .ok x → P x) :
    P x := by
  obtain ⟨v, h⟩ := h
  unfold decodeRecord at h
  split at h
  · exact hmembers _ h
  · obtain ⟨y, hy, h⟩ := bind_eq_ok_iff.mp h
    have hxy : y = x := by
      split at h
      · exact Except.ok.inj h
      · split at h
        · cases h
        · exact Except.ok.inj h
    exact hitems _ (hxy ▸ hy)
  · cases h

theorem Legible.list {xs : List α} (h : Legible (decodeList decode) xs) :
    ∀ x ∈ xs, Legible decode x := by
  obtain ⟨v, h⟩ := h
  unfold decodeList at h
  split at h
  · next vs =>
    induction vs generalizing xs with
    | nil => cases h; exact List.forall_mem_nil _
    | cons v vs ih =>
      obtain ⟨y, hy, h⟩ := bind_eq_ok_iff.mp h
      obtain ⟨ys, hys, h⟩ := bind_eq_ok_iff.mp h
      cases h
      exact List.forall_mem_cons.mpr ⟨⟨v, hy⟩, ih hys⟩
  · cases h

theorem Legible.field? {m : Entries Json} {key : String} {o : Option α}
    (h : m.field? key decode = .ok o) : ∀ x ∈ o, Legible decode x := by
  rintro x rfl
  unfold Entries.field? at h
  split at h
  · next v _ =>
    obtain ⟨y, hy, heq⟩ := Decoded.map_eq_ok.mp h
    exact ⟨v, hy.trans (congrArg _ (Option.some.inj heq))⟩
  · cases h

theorem Legible.item? {vs : List Json} {i : Nat} {o : Option α}
    (h : Json.item? vs i decode = .ok o) : ∀ x ∈ o, Legible decode x := by
  rintro x rfl
  unfold Json.item? at h
  split at h
  · next v _ =>
    obtain ⟨y, hy, heq⟩ := Decoded.map_eq_ok.mp h
    exact ⟨v, hy.trans (congrArg _ (Option.some.inj heq))⟩
  · cases h

theorem Legible.needItem {name : String} {arity : Nat} {vs : List Json} {i : Nat} {x : α}
    (h : Json.needItem name arity vs i decode = .ok x) : Legible decode x := by
  unfold Json.needItem at h
  split at h
  · next v _ => exact ⟨v, h⟩
  · cases h

/-- The items of a list that may be left out. -/
theorem Legible.getD_nil {o : Option (List α)} (h : ∀ xs ∈ o, Legible (decodeList decode) xs) :
    ∀ x ∈ o.getD [], Legible decode x := by
  cases o with
  | none => exact List.forall_mem_nil _
  | some xs => exact (h xs rfl).list

/-- An untyped value that is present is not null. -/
theorem Legible.join_ne_null {o : Option (Option Json)} (h : ∀ x ∈ o, Legible decodePresent x) :
    o.join ≠ some null := by
  rintro hnull
  obtain rfl := Option.join_eq_some_iff.mp hnull
  obtain ⟨v, hv⟩ := h _ rfl
  cases v <;> cases hv

/-- An untyped value that may be absent is read back unless it is null. -/
theorem mapM_decodePresent {o : Option Json} (h : o ≠ some null) :
    o.mapM decodePresent = .ok (o.map some) := by
  have hmember : (o.map id).mapM decodePresent = .ok (o.map some) :=
    readBack_member fun v hv => ⟨fun hnull : v = _ => h (hnull ▸ hv), rfl⟩
  rwa [Option.map_id] at hmember

end Json

end Telemetry
