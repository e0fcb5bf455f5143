import Mathlib.Tactic.Tauto
import Telemetry.Broker.Client
import Telemetry.Proofs.Json
import Telemetry.Proofs.Json.Typed

/-!
# Bodies that list actions

* `RemoteAction.Stands`: an action stands in a text, as an object or as the list of its fields.
* `RemoteAction.Lists`: a text lists actions.
* `BrokerClient.readActions_eq_ok_iff`: the actions that are read are those that the body lists.
* `BrokerClient.exists_readActions_error_iff`: reading fails exactly if the body lists no actions.
-/

namespace Telemetry

open Json

deriving instance DecidableEq for RemoteAction

namespace RemoteAction

/-- What a member of an object says of an action. -/
inductive Member where
  | name (s : String)
  | type (t : Option String)
  | createdAt (time : Option Json)
  | lastModifiedAt (time : Option Json)
  | other

namespace Member

/-- The value of a member stands here. Other members are passed over, whatever they hold. -/
inductive Stands (key : String) : Grammar Member
  | name {cs rest : List Char} {s : String} (hkey : key = "name") (h : TextStands cs s rest) :
      Stands key cs (.name s) rest
  | type {cs rest : List Char} {t : Option String} (hkey : key = "type")
      (h : NullOr TextStands cs t rest) : Stands key cs (.type t) rest
  | createdAt {cs rest : List Char} {time : Option Json} (hkey : key = "created_at")
      (h : NullOr AnyStands cs time rest) : Stands key cs (.createdAt time) rest
  | lastModifiedAt {cs rest : List Char} {time : Option Json} (hkey : key = "last_modified_at")
      (h : NullOr AnyStands cs time rest) : Stands key cs (.lastModifiedAt time) rest
  | other {cs rest : List Char} (hkey : key ∉ ["name", "type", "created_at", "last_modified_at"])
      (h : skipValue cs = .ok rest) : Stands key cs .other rest

def name? : Member → Option String
  | name s => some s
  | _ => none

def type? : Member → Option (Option String)
  | type t => some t
  | _ => none

def createdAt? : Member → Option (Option Json)
  | createdAt time => some time
  | _ => none

def lastModifiedAt? : Member → Option (Option Json)
  | lastModifiedAt time => some time
  | _ => none

end Member

/-- The members of an object stand here, up to its closing brace. -/
inductive MembersStand : Bool → Grammar (List Member)
  | close {first : Bool} {cs rest : List Char} (h : skipSpace cs = '\x7d' :: rest) :
      MembersStand first cs [] rest
  | member {first : Bool} {cs t behind value mid rest : List Char} {key : String} {m : Member}
      {ms : List Member} (hopens : Opens '\x7d' first cs ('"' :: t))
      (hkey : readString t = .ok (key, behind)) (hcolon : skipSpace behind = ':' :: value)
      (h : m.Stands key value mid) (hrest : MembersStand false mid ms rest) :
      MembersStand first cs (m :: ms) rest

/-- The members make an action: they give its name once, and no other field twice. -/
structure Assembled (ms : List Member) (a : RemoteAction) : Prop where
  name : ms.filterMap Member.name? = [a.name]
  type : ∃ type : Option (Option String),
    ms.filterMap Member.type? = type.toList ∧ a.type = type.join
  createdAt : ∃ time : Option (Option Json),
    ms.filterMap Member.createdAt? = time.toList ∧ a.createdAt = time.join
  lastModifiedAt : ∃ time : Option (Option Json),
    ms.filterMap Member.lastModifiedAt? = time.toList ∧ a.lastModifiedAt = time.join

/-- A field of a list stands here, or the list has no more. -/
inductive FieldStands {α : Type} (stands : Grammar α) (first : Bool) : Grammar (Option α)
  | missing {cs t : List Char} (h : skipSpace cs = ']' :: t) : FieldStands stands first cs none cs
  | present {cs start rest : List Char} {x : α} (hopens : Opens ']' first cs start)
      (h : stands start x rest) : FieldStands stands first cs (some x) rest

/-- An action stands here, as an object or as the list of its fields. -/
inductive Stands : Grammar RemoteAction
  | object {cs t rest : List Char} {ms : List Member} {a : RemoteAction}
      (hbrace : skipSpace cs = '\x7b' :: t) (hmembers : MembersStand true t ms rest)
      (h : Assembled ms a) : Stands cs a rest
  | list {cs t t₁ t₂ t₃ t₄ rest : List Char} {name : String} {type : Option (Option String)}
      {createdAt lastModifiedAt : Option (Option Json)} (hbracket : skipSpace cs = '[' :: t)
      (hname : FieldStands TextStands true t (some name) t₁)
      (htype : FieldStands (NullOr TextStands) false t₁ type t₂)
      (hcreated : FieldStands (NullOr AnyStands) false t₂ createdAt t₃)
      (hmodified : FieldStands (NullOr AnyStands) false t₃ lastModifiedAt t₄)
      (hend : skipSpace t₄ = ']' :: rest) :
      Stands cs ⟨name, type.join, createdAt.join, lastModifiedAt.join⟩ rest

/-- Actions stand here, up to the closing bracket of their list. -/
inductive ItemsStand : Bool → Grammar (List RemoteAction)
  | close {first : Bool} {cs rest : List Char} (h : skipSpace cs = ']' :: rest) :
      ItemsStand first cs [] rest
  | item {first : Bool} {cs start mid rest : List Char} {a : RemoteAction}
      {actions : List RemoteAction} (hopens : Opens ']' first cs start) (h : Stands start a mid)
      (hrest : ItemsStand false mid actions rest) : ItemsStand first cs (a :: actions) rest

/-- The text lists these actions and nothing else. -/
def Lists (body : String) (actions : List RemoteAction) : Prop :=
  ∃ t rest, skipSpace body.toList = '[' :: t ∧ ItemsStand true t actions rest ∧
    skipSpace rest = []

/-! ## Fields that are read once -/

section

variable {α : Type} {x y z : Option α} {xs ys : List α}

/-- A field has the value `y` if it had `x` and these values have been added: at most one of them
all. -/
def Adds (x : Option α) (xs : List α) (y : Option α) : Prop := x.toList ++ xs = y.toList

theorem adds_nil : Adds x [] y ↔ y = x := by
  unfold Adds
  rw [List.append_nil]
  constructor
  · intro h
    have hhead := congrArg List.head? h
    rwa [Option.head?_toList, Option.head?_toList, eq_comm] at hhead
  · rintro rfl
    rfl

theorem adds_singleton {a : α} : Adds x [a] y ↔ x = none ∧ y = some a := by
  cases x with
  | none => exact (adds_nil (x := some a)).trans (by simp)
  | some b => cases y <;> simp [Adds]

theorem adds_append : Adds x (xs ++ ys) z ↔ ∃ y, Adds x xs y ∧ Adds y ys z := by
  unfold Adds
  constructor
  · intro h
    rw [← List.append_assoc] at h
    cases hfront : x.toList ++ xs with
    | nil => exact ⟨none, rfl, by rw [← h, hfront]; rfl⟩
    | cons a l =>
      rw [hfront] at h
      cases z with
      | none => cases h
      | some b =>
        obtain ⟨rfl, hl⟩ := List.cons.inj h
        obtain ⟨rfl, rfl⟩ := List.append_eq_nil_iff.mp hl
        exact ⟨some a, rfl, rfl⟩
  · rintro ⟨y, h, hy⟩
    rw [← List.append_assoc, h, hy]

end

/-! ## Members -/

variable {cs rest : List Char} {first : Bool}

namespace Draft

variable {d d' : Draft}

/-- What members add to the fields that have been read before. -/
structure Takes (d : Draft) (ms : List Member) (d' : Draft) : Prop where
  name : Adds d.name (ms.filterMap Member.name?) d'.name
  type : Adds d.type (ms.filterMap Member.type?) d'.type
  createdAt : Adds d.createdAt (ms.filterMap Member.createdAt?) d'.createdAt
  lastModifiedAt : Adds d.lastModifiedAt (ms.filterMap Member.lastModifiedAt?) d'.lastModifiedAt

theorem takes_iff {ms : List Member} : d.Takes ms d' ↔
    Adds d.name (ms.filterMap Member.name?) d'.name ∧
    Adds d.type (ms.filterMap Member.type?) d'.type ∧
    Adds d.createdAt (ms.filterMap Member.createdAt?) d'.createdAt ∧
    Adds d.lastModifiedAt (ms.filterMap Member.lastModifiedAt?) d'.lastModifiedAt :=
  ⟨fun h => ⟨h.1, h.2, h.3, h.4⟩, fun h => ⟨h.1, h.2.1, h.2.2.1, h.2.2.2⟩⟩

theorem takes_nil : d.Takes [] d' ↔ d' = d := by
  simp [takes_iff, adds_nil, Draft.ext_iff]

theorem takes_cons {m : Member} {ms : List Member} :
    d.Takes (m :: ms) d' ↔ ∃ mid, d.Takes [m] mid ∧ Takes mid ms d' := by
  have hsplit : ∀ {β : Type} (f : Member → Option β),
      (m :: ms).filterMap f = [m].filterMap f ++ ms.filterMap f :=
    fun f => List.filterMap_append (l := [m])
  constructor
  · rintro ⟨hname, htype, hcreated, hmodified⟩
    rw [hsplit] at hname htype hcreated hmodified
    obtain ⟨name, hname⟩ := adds_append.mp hname
    obtain ⟨type, htype⟩ := adds_append.mp htype
    obtain ⟨createdAt, hcreated⟩ := adds_append.mp hcreated
    obtain ⟨lastModifiedAt, hmodified⟩ := adds_append.mp hmodified
    exact ⟨⟨name, type, createdAt, lastModifiedAt⟩,
      ⟨hname.1, htype.1, hcreated.1, hmodified.1⟩, hname.2, htype.2, hcreated.2, hmodified.2⟩
  · rintro ⟨mid, h₁, h₂⟩
    constructor <;> rw [hsplit]
    · exact adds_append.mpr ⟨_, h₁.name, h₂.name⟩
    · exact adds_append.mpr ⟨_, h₁.type, h₂.type⟩
    · exact adds_append.mpr ⟨_, h₁.createdAt, h₂.createdAt⟩
    · exact adds_append.mpr ⟨_, h₁.lastModifiedAt, h₂.lastModifiedAt⟩

theorem takes_name {s : String} :
    d.Takes [.name s] d' ↔ d.name = none ∧ d' = { d with name := some s } := by
  simp only [takes_iff, Draft.ext_iff, List.filterMap_cons, List.filterMap_nil, Member.name?,
    Member.type?, Member.createdAt?, Member.lastModifiedAt?, adds_singleton, adds_nil]
  tauto

theorem takes_type {t : Option String} :
    d.Takes [.type t] d' ↔ d.type = none ∧ d' = { d with type := some t } := by
  simp only [takes_iff, Draft.ext_iff, List.filterMap_cons, List.filterMap_nil, Member.name?,
    Member.type?, Member.createdAt?, Member.lastModifiedAt?, adds_singleton, adds_nil]
  tauto

theorem takes_createdAt {time : Option Json} :
    d.Takes [.createdAt time] d' ↔ d.createdAt = none ∧ d' = { d with createdAt := some time } := by
  simp only [takes_iff, Draft.ext_iff, List.filterMap_cons, List.filterMap_nil, Member.name?,
    Member.type?, Member.createdAt?, Member.lastModifiedAt?, adds_singleton, adds_nil]
  tauto

theorem takes_lastModifiedAt {time : Option Json} : d.Takes [.lastModifiedAt time] d' ↔
    d.lastModifiedAt = none ∧ d' = { d with lastModifiedAt := some time } := by
  simp only [takes_iff, Draft.ext_iff, List.filterMap_cons, List.filterMap_nil, Member.name?,
    Member.type?, Member.createdAt?, Member.lastModifiedAt?, adds_singleton, adds_nil]
  tauto

theorem takes_other : d.Takes [.other] d' ↔ d' = d := by
  simp only [takes_iff, Draft.ext_iff, List.filterMap_cons, List.filterMap_nil, Member.name?,
    Member.type?, Member.createdAt?, Member.lastModifiedAt?, adds_nil]

theorem once_eq_ok_iff {α : Type} {key : String} {earlier : Option α} {read : Reader α}
    {put : α → Draft} :
    once key earlier read put cs = .ok (d', rest) ↔
      earlier = none ∧ ∃ t x, skipSpace cs = ':' :: t ∧ read t = .ok (x, rest) ∧ d' = put x := by
  constructor
  · intro h
    unfold once at h
    split at h
    · cases h
    · next hnone =>
      obtain ⟨t, ht, h⟩ := bind_eq_ok_iff.mp h
      obtain ⟨⟨x, rest'⟩, hx, h⟩ := bind_eq_ok_iff.mp h
      obtain ⟨rfl, rfl⟩ := Prod.mk.inj (Except.ok.inj h)
      exact ⟨by simpa using hnone, t, x, pastColon_eq_ok_iff.mp ht, hx, rfl⟩
  · rintro ⟨rfl, t, x, ht, hx, rfl⟩
    refine bind_eq_ok_iff.mpr ⟨t, pastColon_eq_ok_iff.mpr ht, ?_⟩
    exact bind_eq_ok_iff.mpr ⟨(x, rest), hx, rfl⟩

theorem readType_eq_ok_iff {type : Option String} :
    readOptional readTextValue cs = .ok (type, rest) ↔ NullOr TextStands cs type rest :=
  readOptional_eq_ok_iff fun _ _ _ => readTextValue_eq_ok_iff

theorem readTime_eq_ok_iff {time : Option Json} :
    readTime cs = .ok (time, rest) ↔ NullOr AnyStands cs time rest :=
  readOptional_eq_ok_iff fun _ _ _ => readAny_eq_ok_iff

theorem readMember_eq_ok_iff {key : String} : d.readMember key cs = .ok (d', rest) ↔
    ∃ t m, skipSpace cs = ':' :: t ∧ Member.Stands key t m rest ∧ d.Takes [m] d' := by
  constructor
  · intro h
    unfold readMember at h
    split at h
    · next hkey =>
      obtain ⟨hnone, t, x, ht, hx, hd⟩ := once_eq_ok_iff.mp h
      exact ⟨t, .name x, ht, .name hkey (readTextValue_eq_ok_iff.mp hx), takes_name.mpr ⟨hnone, hd⟩⟩
    split at h
    · next hkey =>
      obtain ⟨hnone, t, x, ht, hx, hd⟩ := once_eq_ok_iff.mp h
      exact ⟨t, .type x, ht, .type hkey (readType_eq_ok_iff.mp hx), takes_type.mpr ⟨hnone, hd⟩⟩
    split at h
    · next hkey =>
      obtain ⟨hnone, t, x, ht, hx, hd⟩ := once_eq_ok_iff.mp h
      exact ⟨t, .createdAt x, ht, .createdAt hkey (readTime_eq_ok_iff.mp hx),
        takes_createdAt.mpr ⟨hnone, hd⟩⟩
    split at h
    · next hkey =>
      obtain ⟨hnone, t, x, ht, hx, hd⟩ := once_eq_ok_iff.mp h
      exact ⟨t, .lastModifiedAt x, ht, .lastModifiedAt hkey (readTime_eq_ok_iff.mp hx),
        takes_lastModifiedAt.mpr ⟨hnone, hd⟩⟩
    · obtain ⟨t, ht, h⟩ := bind_eq_ok_iff.mp h
      obtain ⟨rest', hskip, h⟩ := bind_eq_ok_iff.mp h
      obtain ⟨rfl, rfl⟩ := Prod.mk.inj (Except.ok.inj h)
      refine ⟨t, .other, pastColon_eq_ok_iff.mp ht, .other ?_ (mapError_eq_ok_iff.mp hskip),
        takes_other.mpr rfl⟩
      simp only [List.mem_cons, List.not_mem_nil, or_false, not_or]
      exact ⟨‹_›, ‹_›, ‹_›, ‹_›⟩
  · rintro ⟨t, m, ht, hm, htakes⟩
    cases hm with
    | name hkey h =>
      obtain ⟨hnone, hd⟩ := takes_name.mp htakes
      rw [readMember, if_pos hkey]
      exact once_eq_ok_iff.mpr ⟨hnone, t, _, ht, readTextValue_eq_ok_iff.mpr h, hd⟩
    | type hkey h =>
      obtain ⟨hnone, hd⟩ := takes_type.mp htakes
      rw [readMember, if_neg (by simp [hkey]), if_pos hkey]
      exact once_eq_ok_iff.mpr ⟨hnone, t, _, ht, readType_eq_ok_iff.mpr h, hd⟩
    | createdAt hkey h =>
      obtain ⟨hnone, hd⟩ := takes_createdAt.mp htakes
      rw [readMember, if_neg (by simp [hkey]), if_neg (by simp [hkey]), if_pos hkey]
      exact once_eq_ok_iff.mpr ⟨hnone, t, _, ht, readTime_eq_ok_iff.mpr h, hd⟩
    | lastModifiedAt hkey h =>
      obtain ⟨hnone, hd⟩ := takes_lastModifiedAt.mp htakes
      rw [readMember, if_neg (by simp [hkey]), if_neg (by simp [hkey]), if_neg (by simp [hkey]),
        if_pos hkey]
      exact once_eq_ok_iff.mpr ⟨hnone, t, _, ht, readTime_eq_ok_iff.mpr h, hd⟩
    | other hkey h =>
      obtain rfl := takes_other.mp htakes
      simp only [List.mem_cons, List.not_mem_nil, or_false, not_or] at hkey
      obtain ⟨hname, htype, hcreated, hmodified⟩ := hkey
      rw [readMember, if_neg hname, if_neg htype, if_neg hcreated, if_neg hmodified]
      refine bind_eq_ok_iff.mpr ⟨t, pastColon_eq_ok_iff.mpr ht, ?_⟩
      exact bind_eq_ok_iff.mpr ⟨rest, mapError_eq_ok_iff.mpr h, rfl⟩

theorem readMembers_sound {fuel : Nat} (h : readMembers fuel first d cs = .ok (d', rest)) :
    ∃ ms, MembersStand first cs ms rest ∧ d.Takes ms d' := by
  induction fuel generalizing first d cs with
  | zero => cases h
  | succ fuel ih =>
    obtain ⟨next, hnext, h⟩ := bind_eq_ok_iff.mp h
    cases next with
    | none =>
      obtain ⟨rest', hend, h⟩ := bind_eq_ok_iff.mp h
      obtain ⟨rfl, rfl⟩ := Prod.mk.inj (Except.ok.inj h)
      exact ⟨[], .close (endObject_eq_ok_iff.mp hend), takes_nil.mpr rfl⟩
    | some start =>
      obtain ⟨⟨key, behind⟩, hstart, hbehind⟩ := bind_eq_ok_iff.mp h
      obtain ⟨⟨mid, cs'⟩, hmember, hmid⟩ := bind_eq_ok_iff.mp hbehind
      obtain ⟨t, rfl, hkey⟩ := readKey_eq_ok_iff.mp hstart
      obtain ⟨value, m, hcolon, hm, htakes⟩ := readMember_eq_ok_iff.mp hmember
      obtain ⟨ms, hms, htakes'⟩ := ih hmid
      exact ⟨m :: ms, .member (nextMember_eq_some_iff.mp hnext) hkey hcolon hm hms,
        takes_cons.mpr ⟨mid, htakes, htakes'⟩⟩

end Draft

theorem Member.Stands.length_le {key : String} {m : Member} (h : m.Stands key cs rest) :
    rest.length ≤ cs.length := by
  cases h with
  | name _ h => exact h.length_le
  | type _ h => exact h.length_le TextStands.length_le
  | createdAt _ h => exact h.length_le length_readValue
  | lastModifiedAt _ h => exact h.length_le length_readValue
  | other _ h => exact length_skipValue h

theorem MembersStand.length_lt {ms : List Member} (h : MembersStand first cs ms rest) :
    rest.length < cs.length := by
  induction h with
  | close h => exact length_lt_of_skipSpace h
  | member hopens hkey hcolon h _ ih =>
    have hstart := hopens.length_le
    have hbehind := length_readString hkey
    have hvalue := length_lt_of_skipSpace hcolon
    have hmid := h.length_le
    rw [List.length_cons] at hstart
    omega

namespace Draft

variable {d d' : Draft}

theorem readMembers_complete {ms : List Member} (h : MembersStand first cs ms rest) {fuel : Nat}
    (hfuel : cs.length < fuel) (htakes : d.Takes ms d') :
    readMembers fuel first d cs = .ok (d', rest) := by
  induction h generalizing fuel d with
  | @close first cs rest h =>
    obtain ⟨fuel, rfl⟩ := Nat.exists_eq_add_of_lt hfuel
    obtain rfl := takes_nil.mp htakes
    refine bind_eq_ok_iff.mpr ⟨none, nextMember_eq_none_iff.mpr ⟨_, h⟩, ?_⟩
    exact bind_eq_ok_iff.mpr ⟨rest, endObject_eq_ok_iff.mpr h, rfl⟩
  | @member first cs t behind value mid rest key m ms hopens hkey hcolon h hrest ih =>
    obtain ⟨fuel, rfl⟩ := Nat.exists_eq_add_of_lt hfuel
    obtain ⟨d₁, htake, htakes⟩ := takes_cons.mp htakes
    have hstart := hopens.length_le
    have hbehind := length_readString hkey
    have hvalue := length_lt_of_skipSpace hcolon
    have hmid := h.length_le
    rw [List.length_cons] at hstart
    refine bind_eq_ok_iff.mpr ⟨_, nextMember_eq_some_iff.mpr hopens, ?_⟩
    refine bind_eq_ok_iff.mpr ⟨_, readKey_eq_ok_iff.mpr ⟨t, rfl, hkey⟩, ?_⟩
    refine bind_eq_ok_iff.mpr ⟨_, readMember_eq_ok_iff.mpr ⟨value, m, hcolon, h, htake⟩, ?_⟩
    exact ih (by omega) htakes

/-- Every object's members are read, from any fields that have been read before. -/
theorem readMembers_eq_ok_iff : readMembers (cs.length + 1) first d cs = .ok (d', rest) ↔
    ∃ ms, MembersStand first cs ms rest ∧ d.Takes ms d' :=
  ⟨readMembers_sound, fun ⟨_, hms, htakes⟩ => readMembers_complete hms (Nat.lt_succ_self _) htakes⟩

/-- A finished action is what the members make of nothing. -/
theorem assembled_iff {ms : List Member} {a : RemoteAction} :
    Assembled ms a ↔ ∃ d, Takes .empty ms d ∧ d.finish = .ok a := by
  constructor
  · rintro ⟨hname, ⟨type, htype, hatype⟩, ⟨createdAt, hcreated, hacreated⟩,
      lastModifiedAt, hmodified, hamodified⟩
    refine ⟨⟨some a.name, type, createdAt, lastModifiedAt⟩,
      ⟨hname, htype, hcreated, hmodified⟩, ?_⟩
    rw [finish, ← hatype, ← hacreated, ← hamodified]
  · rintro ⟨⟨name, type, createdAt, lastModifiedAt⟩, ⟨hname, htype, hcreated, hmodified⟩, hfinish⟩
    cases name with
    | none => cases hfinish
    | some name =>
      obtain rfl := Except.ok.inj hfinish
      exact ⟨hname, ⟨type, htype, rfl⟩, ⟨createdAt, hcreated, rfl⟩, lastModifiedAt, hmodified, rfl⟩

end Draft

/-! ## Actions -/

section

variable {α : Type} {read : Reader α} {stands : Grammar α} {x : Option α}

theorem readField?_eq_ok_iff (hread : ∀ cs x rest, read cs = .ok (x, rest) ↔ stands cs x rest) :
    readField? read first cs = .ok (x, rest) ↔ FieldStands stands first cs x rest := by
  constructor
  · intro h
    obtain ⟨next, hnext, h⟩ := bind_eq_ok_iff.mp h
    cases next with
    | none =>
      obtain ⟨rfl, rfl⟩ := Prod.mk.inj (Except.ok.inj h)
      obtain ⟨t, ht⟩ := nextItem_eq_none_iff.mp hnext
      exact .missing ht
    | some start =>
      obtain ⟨⟨y, rest'⟩, hy, h⟩ := bind_eq_ok_iff.mp h
      obtain ⟨rfl, rfl⟩ := Prod.mk.inj (Except.ok.inj h)
      exact .present (nextItem_eq_some_iff.mp hnext) ((hread _ _ _).mp hy)
  · rintro (⟨h⟩ | ⟨hopens, h⟩)
    · exact bind_eq_ok_iff.mpr ⟨none, nextItem_eq_none_iff.mpr ⟨_, h⟩, rfl⟩
    · refine bind_eq_ok_iff.mpr ⟨_, nextItem_eq_some_iff.mpr hopens, ?_⟩
      exact bind_eq_ok_iff.mpr ⟨_, (hread _ _ _).mpr h, rfl⟩

end

theorem FieldStands.length_le {α : Type} {stands : Grammar α} {x : Option α}
    (h : FieldStands stands first cs x rest)
    (hstands : ∀ {cs x rest}, stands cs x rest → rest.length ≤ cs.length) :
    rest.length ≤ cs.length := by
  cases h with
  | missing h => exact Nat.le_refl _
  | present hopens h => exact Nat.le_trans (hstands h) hopens.length_le

theorem readFields_sound {a : RemoteAction} {t : List Char} (hbracket : skipSpace cs = '[' :: t)
    (h : readFields t = .ok (a, rest)) : Stands cs a rest := by
  obtain ⟨⟨name, t₁⟩, hname, h⟩ := bind_eq_ok_iff.mp h
  cases name with
  | none => cases h
  | some name =>
    obtain ⟨⟨type, t₂⟩, htype, h⟩ := bind_eq_ok_iff.mp h
    obtain ⟨⟨createdAt, t₃⟩, hcreated, h⟩ := bind_eq_ok_iff.mp h
    obtain ⟨⟨lastModifiedAt, t₄⟩, hmodified, h⟩ := bind_eq_ok_iff.mp h
    obtain ⟨rest', hend, h⟩ := bind_eq_ok_iff.mp h
    obtain ⟨rfl, rfl⟩ := Prod.mk.inj (Except.ok.inj h)
    exact .list hbracket ((readField?_eq_ok_iff fun _ _ _ => readTextValue_eq_ok_iff).mp hname)
      ((readField?_eq_ok_iff fun _ _ _ => Draft.readType_eq_ok_iff).mp htype)
      ((readField?_eq_ok_iff fun _ _ _ => Draft.readTime_eq_ok_iff).mp hcreated)
      ((readField?_eq_ok_iff fun _ _ _ => Draft.readTime_eq_ok_iff).mp hmodified)
      (endList_eq_ok_iff.mp hend)

/-- An action is read exactly where one stands. -/
theorem read_eq_ok_iff {a : RemoteAction} : read cs = .ok (a, rest) ↔ Stands cs a rest := by
  constructor
  · intro h
    unfold read at h
    split at h
    · next t hbracket => exact readFields_sound hbracket h
    · next t hbrace =>
      obtain ⟨⟨d, rest'⟩, hmembers, h⟩ := bind_eq_ok_iff.mp h
      obtain ⟨a', hfinish, h⟩ := bind_eq_ok_iff.mp h
      obtain ⟨rfl, rfl⟩ := Prod.mk.inj (Except.ok.inj h)
      obtain ⟨ms, hms, htakes⟩ := Draft.readMembers_eq_ok_iff.mp hmembers
      exact .object hbrace hms (Draft.assembled_iff.mpr ⟨d, htakes, hfinish⟩)
    · cases h
  · intro h
    cases h with
    | @object _ t _ ms _ hbrace hms h =>
      obtain ⟨d, htakes, hfinish⟩ := Draft.assembled_iff.mp h
      rw [read, hbrace]
      refine bind_eq_ok_iff.mpr ⟨_, Draft.readMembers_eq_ok_iff.mpr ⟨ms, hms, htakes⟩, ?_⟩
      exact bind_eq_ok_iff.mpr ⟨a, hfinish, rfl⟩
    | list hbracket hname htype hcreated hmodified hend =>
      rw [read, hbracket]
      refine bind_eq_ok_iff.mpr
        ⟨_, (readField?_eq_ok_iff fun _ _ _ => readTextValue_eq_ok_iff).mpr hname, ?_⟩
      refine bind_eq_ok_iff.mpr
        ⟨_, (readField?_eq_ok_iff fun _ _ _ => Draft.readType_eq_ok_iff).mpr htype, ?_⟩
      refine bind_eq_ok_iff.mpr
        ⟨_, (readField?_eq_ok_iff fun _ _ _ => Draft.readTime_eq_ok_iff).mpr hcreated, ?_⟩
      refine bind_eq_ok_iff.mpr
        ⟨_, (readField?_eq_ok_iff fun _ _ _ => Draft.readTime_eq_ok_iff).mpr hmodified, ?_⟩
      exact bind_eq_ok_iff.mpr ⟨_, endList_eq_ok_iff.mpr hend, rfl⟩

theorem Stands.length_lt {a : RemoteAction} (h : Stands cs a rest) : rest.length < cs.length := by
  cases h with
  | object hbrace hms h =>
    have hbrace := length_lt_of_skipSpace hbrace
    have hms := hms.length_lt
    omega
  | list hbracket hname htype hcreated hmodified hend =>
    have hbracket := length_lt_of_skipSpace hbracket
    have hname := hname.length_le TextStands.length_le
    have htype := htype.length_le (·.length_le TextStands.length_le)
    have hcreated := hcreated.length_le (·.length_le length_readValue)
    have hmodified := hmodified.length_le (·.length_le length_readValue)
    have hend := length_lt_of_skipSpace hend
    omega

/-! ## Listings -/

theorem readItems_sound {fuel : Nat} {done actions : List RemoteAction}
    (h : readItems fuel first done cs = .ok (actions, rest)) :
    ∃ as, ItemsStand first cs as rest ∧ actions = done.reverse ++ as := by
  induction fuel generalizing first done cs with
  | zero => cases h
  | succ fuel ih =>
    obtain ⟨next, hnext, h⟩ := bind_eq_ok_iff.mp h
    cases next with
    | none =>
      obtain ⟨rest', hend, h⟩ := bind_eq_ok_iff.mp h
      obtain ⟨rfl, rfl⟩ := Prod.mk.inj (Except.ok.inj h)
      exact ⟨[], .close (endList_eq_ok_iff.mp hend), (List.append_nil _).symm⟩
    | some start =>
      obtain ⟨⟨a, mid⟩, ha, hmid⟩ := bind_eq_ok_iff.mp h
      obtain ⟨as, has, rfl⟩ := ih hmid
      exact ⟨a :: as, .item (nextItem_eq_some_iff.mp hnext) (read_eq_ok_iff.mp ha) has, by simp⟩

theorem readItems_complete {actions : List RemoteAction} (h : ItemsStand first cs actions rest)
    {fuel : Nat} (hfuel : cs.length < fuel) (done : List RemoteAction) :
    readItems fuel first done cs = .ok (done.reverse ++ actions, rest) := by
  induction h generalizing fuel done with
  | close h =>
    obtain ⟨fuel, rfl⟩ := Nat.exists_eq_add_of_lt hfuel
    refine bind_eq_ok_iff.mpr ⟨none, nextItem_eq_none_iff.mpr ⟨_, h⟩, ?_⟩
    exact bind_eq_ok_iff.mpr ⟨_, endList_eq_ok_iff.mpr h, by rw [List.append_nil]; rfl⟩
  | @item first cs start mid rest a actions hopens h hrest ih =>
    obtain ⟨fuel, rfl⟩ := Nat.exists_eq_add_of_lt hfuel
    have hstart := hopens.length_le
    have hmid := h.length_lt
    refine bind_eq_ok_iff.mpr ⟨_, nextItem_eq_some_iff.mpr hopens, ?_⟩
    refine bind_eq_ok_iff.mpr ⟨_, read_eq_ok_iff.mpr h, ?_⟩
    exact (ih (by omega) (a :: done)).trans (by simp)

/-- The actions that are read are those that the text lists. -/
theorem readAll_eq_ok_iff {body : String} {actions : List RemoteAction} :
    readAll body = .ok actions ↔ Lists body actions := by
  constructor
  · intro h
    unfold readAll at h
    split at h
    · next t hbracket =>
      obtain ⟨⟨as, rest⟩, has, h⟩ := bind_eq_ok_iff.mp h
      obtain ⟨_, hstand, rfl⟩ := readItems_sound has
      dsimp only at h
      split at h
      · next hrest =>
        obtain rfl := Except.ok.inj h
        exact ⟨t, rest, hbracket, hstand, List.isEmpty_iff.mp hrest⟩
      · cases h
    · cases h
  · rintro ⟨t, rest, hbracket, hstand, hrest⟩
    rw [readAll, hbracket]
    refine bind_eq_ok_iff.mpr ⟨_, readItems_complete hstand (Nat.lt_succ_self _) [], ?_⟩
    exact if_pos (List.isEmpty_iff.mpr hrest)

end RemoteAction

namespace BrokerClient

/-- The actions that are read are those that the body lists. -/
theorem readActions_eq_ok_iff {body : String} {actions : List RemoteAction} :
    readActions body = .ok actions ↔ RemoteAction.Lists body actions :=
  mapError_eq_ok_iff.trans RemoteAction.readAll_eq_ok_iff

/-- Reading fails exactly if the body lists no actions, and then with the fault of its text or of a
type. -/
theorem exists_readActions_error_iff {body : String} :
    (∃ text, readActions body = .error (.serialization text)) ↔
      ∀ actions, ¬ RemoteAction.Lists body actions := by
  simp only [← RemoteAction.readAll_eq_ok_iff]
  unfold readActions
  cases RemoteAction.readAll body <;> simp [Except.mapError]

end BrokerClient

end Telemetry
