import Telemetry.Proofs.Store.Lookup

/-!
# The dynamic part of a document

A document may keep some of its members in an object of its own. When it is flattened, this object
and its mark are left out first, and only then are its members put in. So they may bring a mark and
another such object back.

* `Document.nested?`: what the object holds under a key.
* `Document.get?_flattenDynamic`: what a flattened document holds under a key.
* `Regular.flattenDynamic`: the flattened document is one that can be stored.
* `Document.flatten_twice_iff`: flattening twice is flattening once exactly if neither comes back.
* `Document.flattened_iff`: what a flattened document holds, and when it is without mark and object.
* `Document.matryoshka_stays_marked`: a document that keeps its mark.
-/

namespace Telemetry

/-- No value is a member of itself. -/
theorem Json.get?_ne_self (v : Json) (k : String) : v.get? k ≠ some v := by
  intro h
  obtain ⟨m, hm, hv⟩ := Option.bind_eq_some_iff.mp h
  cases v with
  | object members =>
    obtain rfl := Option.some.inj hm
    have hle := nestingMembers_le_iff.mp le_rfl _ (Entries.mem_of_get? hv)
    exact absurd hle (Nat.not_succ_le_self _)
  | _ => cases hm

namespace Document

variable {d : Document} {k : String}

/-- The keys of the mark and of the dynamic part. -/
def dynamicKeys : List String := ["dynamicSchema", "dynamicJson"]

theorem mem_dynamicKeys_iff : k ∈ dynamicKeys ↔ k = dynamicMarker ∨ k = dynamicContent := by
  simp [dynamicKeys, dynamicMarker, dynamicContent]

/-- What the dynamic part of a document holds under a key, if it is an object. -/
def nested? (d : Document) (k : String) : Option Json := (d.get? "dynamicJson").bind (·.get? k)

theorem get?_dynamicMembers (d : Document) (k : String) :
    d.dynamicMembers.get? k = d.nested? k := by
  unfold dynamicMembers nested? dynamicContent
  cases d.get? "dynamicJson" with
  | none => rfl
  | some v => cases v <;> rfl

theorem Regular.sorted_dynamicMembers (h : d.Regular) : d.dynamicMembers.Sorted := by
  unfold dynamicMembers
  split
  · next m hm =>
    have hmember := (regular_iff.mp h).2 _ (Entries.mem_of_get? hm)
    simp only [Json.regular, Bool.and_eq_true, decide_eq_true_eq] at hmember
    exact hmember.1
  · exact Entries.sorted_nil

theorem Regular.regular_of_mem_dynamicMembers (h : d.Regular) :
    ∀ e ∈ d.dynamicMembers, e.2.regular = true := by
  unfold dynamicMembers
  split
  · next m hm =>
    have hmember := (regular_iff.mp h).2 _ (Entries.mem_of_get? hm)
    simp only [Json.regular, Bool.and_eq_true] at hmember
    exact Json.regularMembers_iff.mp hmember.2
  · exact List.forall_mem_nil _

/-! ## What a flattened document holds -/

/-- Under any other key than those of the mark and of the dynamic part, a flattened document holds
what its dynamic part held, or else what it held itself. -/
theorem get?_flattenDynamic (h : d.dynamicMembers.Sorted) (hk : k ∉ dynamicKeys) :
    d.flattenDynamic.get? k = (d.nested? k).or (d.get? k) := by
  obtain ⟨hmarker, hcontent⟩ := not_or.mp (mt mem_dynamicKeys_iff.mpr hk)
  rw [flattenDynamic, h.get?_union, get?_dynamicMembers, Entries.get?_erase, if_neg hcontent,
    Entries.get?_erase, if_neg hmarker]

/-- Under these two keys it holds only what its dynamic part held. -/
theorem get?_flattenDynamic_of_mem (h : d.dynamicMembers.Sorted) (hk : k ∈ dynamicKeys) :
    d.flattenDynamic.get? k = d.nested? k := by
  rw [flattenDynamic, h.get?_union, get?_dynamicMembers, Entries.get?_erase, Entries.get?_erase]
  obtain rfl | rfl := mem_dynamicKeys_iff.mp hk
  · rw [if_neg (by decide), if_pos rfl, Option.or_none]
  · rw [if_pos rfl, Option.or_none]

theorem Regular.flattenDynamic (h : d.Regular) : d.flattenDynamic.Regular := by
  obtain ⟨hsorted, hvalues⟩ := regular_iff.mp h
  refine regular_iff.mpr ⟨((hsorted.erase _).erase _).union _, fun e he => ?_⟩
  obtain he | he := Entries.mem_union he
  · exact hvalues e (List.mem_of_mem_filter (List.mem_of_mem_filter he))
  · exact h.regular_of_mem_dynamicMembers e he

/-! ## Flattening again -/

/-- A document without mark and dynamic part is not changed. -/
theorem flattenDynamic_of_none (h : ∀ k ∈ dynamicKeys, d.get? k = none) :
    d.flattenDynamic = d := by
  have hmarker : d.get? dynamicMarker = none := h _ (by decide)
  have hcontent : d.get? dynamicContent = none := h _ (by decide)
  rw [Document.flattenDynamic, dynamicMembers, hcontent, Entries.erase_of_get?_eq_none hmarker,
    Entries.erase_of_get?_eq_none hcontent]
  rfl

/-- If flattening again changes nothing, then mark and dynamic part are gone: a dynamic part that
came back would have to hold itself. -/
theorem Regular.get?_flattenDynamic_of_twice (h : d.Regular)
    (htwice : d.flattenDynamic.flattenDynamic = d.flattenDynamic) :
    ∀ k ∈ dynamicKeys, d.flattenDynamic.get? k = none := by
  have hnested : ∀ k ∈ dynamicKeys, d.flattenDynamic.get? k = d.flattenDynamic.nested? k :=
    fun k hk => by
      rw [← get?_flattenDynamic_of_mem h.flattenDynamic.sorted_dynamicMembers hk, htwice]
  have hcontent : d.flattenDynamic.get? "dynamicJson" = none := by
    cases hv : d.flattenDynamic.get? "dynamicJson" with
    | none => rfl
    | some v =>
      have hself := hnested "dynamicJson" (by decide)
      rw [nested?, hv, Option.bind_some] at hself
      exact absurd hself.symm (v.get?_ne_self _)
  intro k hk
  rw [hnested k hk, nested?, hcontent, Option.bind_none]

/-- Flattening twice is flattening once exactly if the dynamic part brings neither a mark nor
another such part. -/
theorem flatten_twice_iff (h : d.Regular) :
    d.flattenDynamic.flattenDynamic = d.flattenDynamic ↔
      ∀ k ∈ dynamicKeys, d.nested? k = none := by
  have hflat : ∀ k ∈ dynamicKeys, d.flattenDynamic.get? k = d.nested? k := fun k hk =>
    get?_flattenDynamic_of_mem h.sorted_dynamicMembers hk
  constructor
  · intro htwice k hk
    rw [← hflat k hk]
    exact h.get?_flattenDynamic_of_twice htwice k hk
  · intro hnone
    exact flattenDynamic_of_none fun k hk => (hflat k hk).trans (hnone k hk)

/-- A flattened document holds what its dynamic part held, and besides what stood beside the mark and
that part. It is without mark and dynamic part, and not changed when it is flattened again, exactly
if the dynamic part did not bring them. -/
theorem flattened_iff (h : d.Regular) :
    (∀ k, k ∉ dynamicKeys → d.flattenDynamic.get? k = (d.nested? k).or (d.get? k)) ∧
    ((∀ k ∈ dynamicKeys, d.flattenDynamic.get? k = none) ↔
      ∀ k ∈ dynamicKeys, d.nested? k = none) ∧
    (d.flattenDynamic.flattenDynamic = d.flattenDynamic ↔
      ∀ k ∈ dynamicKeys, d.nested? k = none) := by
  have hflat : ∀ k ∈ dynamicKeys, d.flattenDynamic.get? k = d.nested? k := fun k hk =>
    get?_flattenDynamic_of_mem h.sorted_dynamicMembers hk
  refine ⟨fun k hk => get?_flattenDynamic h.sorted_dynamicMembers hk, ?_, flatten_twice_iff h⟩
  exact forall₂_congr fun k hk => by rw [hflat k hk]

/-- A sensor with a short name of its own and another one in its dynamic part. -/
def movesense : Document :=
  [("dynamicJson", .object [("movesense_whiteboard", .object [("measures", .list [])]),
      ("shortName", .text "ms01")]),
    ("dynamicSchema", .bool true), ("name", .text "Movesense"), ("shortName", .text "old")]

theorem flattened_iff_movesense :
    movesense.Regular ∧ movesense.flattenDynamic.get? "shortName" = some (.text "ms01") ∧
    movesense.flattenDynamic.get? "name" = some (.text "Movesense") ∧
    (∀ k ∈ dynamicKeys, movesense.flattenDynamic.get? k = none) ∧
    movesense.flattenDynamic.flattenDynamic = movesense.flattenDynamic := by
  have hregular : movesense.Regular := by
    have hregular : (Json.object movesense).regular = true := by decide +kernel
    exact hregular
  have hnone : ∀ k ∈ dynamicKeys, movesense.nested? k = none := by decide +kernel
  obtain ⟨hother, hgone, htwice⟩ := flattened_iff hregular
  exact ⟨hregular, hother _ (by decide), hother _ (by decide), hgone.mpr hnone, htwice.mpr hnone⟩

/-- A document with a mark in its dynamic part. -/
def matryoshka : Document :=
  [("dynamicJson", .object [("dynamicSchema", .bool true), ("shortName", .text "ms01")]),
    ("dynamicSchema", .bool true)]

/-- The flattened document has a mark again, and only when it is flattened twice it has none. -/
theorem matryoshka_stays_marked :
    matryoshka.Regular ∧
    matryoshka.flattenDynamic = [("dynamicSchema", .bool true), ("shortName", .text "ms01")] ∧
    matryoshka.flattenDynamic.isDynamic = true ∧
    matryoshka.flattenDynamic.flattenDynamic = [("shortName", .text "ms01")] ∧
    matryoshka.flattenDynamic.flattenDynamic ≠ matryoshka.flattenDynamic := by
  have hregular : (Json.object matryoshka).regular = true := by decide +kernel
  exact ⟨hregular, by decide +kernel, by decide +kernel, by decide +kernel, by decide +kernel⟩

end Document

end Telemetry
