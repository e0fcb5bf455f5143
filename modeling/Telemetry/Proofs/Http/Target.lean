import Mathlib.Data.List.GetD
import Mathlib.Data.List.TakeWhile
import Telemetry.Broker.Client

/-!
# Which requests can be sent

Whether a text writes an address is decided by what stands before its path. So a client can send
messages to all its paths, or to none.

* `Url.exists_parse_iff`: a text writes an address if it has a known scheme and an authority.
* `Url.exists_parse_append`: an address with a slash behind it may be followed by anything.
* `BrokerClient.exists_target`: the messages of a client can be sent, if its address can be read.
-/

namespace Telemetry

section

variable {p : Char → Bool} {c : Char} (h : p c = false) (xs ys : List Char)

include h

theorem takeWhile_append_cons : (xs ++ c :: ys).takeWhile p = xs.takeWhile p := by
  induction xs with
  | nil => simp [h]
  | cons x xs ih =>
    cases hx : p x with
    | true => simp [hx, ih]
    | false => simp [hx]

theorem dropWhile_append_cons : (xs ++ c :: ys).dropWhile p = xs.dropWhile p ++ c :: ys := by
  induction xs with
  | nil => simp [h]
  | cons x xs ih =>
    cases hx : p x with
    | true => simp [hx, ih]
    | false => simp [hx]

end

namespace Url

/-! ## Addresses -/

/-- The name of the scheme of an address. -/
def schemeName (cs : List Char) : List Char := (cs.takeWhile isSchemeChar).map Char.toLower

/-- What may stand in the authority of an address. -/
def isAuthorityChar (c : Char) : Bool := c ≠ '#' && c ≠ '?' && c ≠ '/' && c ≠ '\\'

/-- The authority of an address of which this is what stands behind its scheme. -/
def authorityOf (cs : List Char) : List Char :=
  (cs.dropWhile fun c => c == '/' || c == '\\').takeWhile isAuthorityChar

theorem cut_fst (mark : Char) (cs : List Char) :
    (cut mark cs).1 = cs.takeWhile (· ≠ mark) := by
  unfold cut
  split
  · next h => exact (List.takeWhile_eq_self_iff.mpr (List.dropWhile_eq_nil_iff.mp h)).symm
  · rfl

/-- What stands behind the scheme writes an address if it has an authority. -/
theorem exists_readRest_iff {secure : Bool} {cs : List Char} :
    (∃ u, readRest? secure cs = some u) ↔
      ∃ authority, readAuthority? secure (authorityOf cs) = some authority := by
  have hpart : ((cut '?' (cut '#' (cs.dropWhile fun c => c == '/' || c == '\\')).1).1.takeWhile
      fun c => !(c == '/' || c == '\\')) = authorityOf cs := by
    rw [cut_fst, cut_fst, List.takeWhile_takeWhile, List.takeWhile_takeWhile, authorityOf]
    congr 1
    funext c
    simp only [isAuthorityChar]
    grind
  simp only [readRest?, hpart]
  cases readAuthority? secure (authorityOf cs) with
  | none => simp
  | some authority => simp

/-- The characters have a known scheme, and an authority behind it. -/
structure Addressing (cs rest : List Char) : Prop where
  colon : cs.drop (schemeName cs).length = ':' :: rest
  letter : ((schemeName cs).head?.map Char.isAlpha).getD false = true
  known : String.ofList (schemeName cs) = "http" ∨ String.ofList (schemeName cs) = "https"
  authority : ∃ authority, readAuthority? (String.ofList (schemeName cs) = "https")
    (authorityOf rest) = some authority

theorem exists_parse_iff {s : String} :
    (∃ u, parse s = .ok u) ↔ ∃ rest, Addressing (cleaned s) rest := by
  constructor
  · rintro ⟨u, h⟩
    simp only [parse] at h
    split at h
    · next rest hdrop hletter =>
      split at h
      · next hknown =>
        split at h
        · next u' hrest => exact ⟨rest, hdrop, hletter, hknown, exists_readRest_iff.mp ⟨u', hrest⟩⟩
        · cases h
      · cases h
    · cases h
  · rintro ⟨rest, h⟩
    obtain ⟨u, hu⟩ := exists_readRest_iff.mpr h.authority
    refine ⟨u, ?_⟩
    have hcolon := h.colon
    have hletter := h.letter
    have hknown := h.known
    unfold schemeName at hcolon hletter hknown hu
    simp only [parse, hcolon, hletter, if_pos hknown, hu]

/-! ## Paths -/

/-- What is cleaned away behind a slash does not matter to what stands before it. -/
theorem exists_cleaned (s : String) : ∃ cs, cleaned (s ++ "/") = cs ++ ['/'] ∧
    ∀ t, ∃ rest, cleaned (s ++ "/" ++ t) = cs ++ '/' :: rest := by
  have hslash : decide ('/'.toNat ≤ 0x20) = false := by decide
  have hlist : ∀ t : String, (s ++ "/" ++ t).toList = s.toList ++ '/' :: t.toList := by simp
  have hclean : ∀ t, cleaned (s ++ "/" ++ t) =
      (s.toList.dropWhile (·.toNat ≤ 0x20)).filter (fun c => c ≠ '\t' && c ≠ '\n' && c ≠ '\r') ++
        '/' :: ((t.toList.reverse.dropWhile (·.toNat ≤ 0x20)).reverse.filter
          fun c => c ≠ '\t' && c ≠ '\n' && c ≠ '\r') := by
    intro t
    simp only [cleaned, hlist]
    rw [dropWhile_append_cons hslash, List.reverse_append, List.reverse_cons, List.append_assoc,
      List.singleton_append, dropWhile_append_cons hslash, List.reverse_append, List.reverse_cons,
      List.reverse_reverse, List.append_assoc, List.singleton_append, List.filter_append,
      List.filter_cons_of_pos (by decide)]
  refine ⟨_, ?_, fun t => ⟨_, hclean t⟩⟩
  rw [← String.append_empty (s := s ++ "/"), hclean]
  rfl

/-- A path is no part of the authority before it, if there is one. -/
theorem authorityOf_append (cs : List Char) :
    (∀ path, authorityOf (cs ++ '/' :: path) = authorityOf cs) ∨ authorityOf (cs ++ ['/']) = [] := by
  by_cases h : ∀ c ∈ cs, (c == '/' || c == '\\') = true
  · refine .inr ?_
    have hall : ∀ c ∈ cs ++ ['/'], (c == '/' || c == '\\') = true :=
      List.forall_mem_append.mpr ⟨h, by simp⟩
    rw [authorityOf, List.dropWhile_eq_nil_iff.mpr hall]
    rfl
  · refine .inl fun path => ?_
    obtain ⟨c, hc, hne⟩ : ∃ c ∈ cs, (c == '/' || c == '\\') = false := by simpa using h
    obtain ⟨before, behind, rfl⟩ := List.append_of_mem hc
    rw [authorityOf, authorityOf, List.append_assoc, List.cons_append, dropWhile_append_cons hne,
      dropWhile_append_cons hne, ← List.cons_append, ← List.append_assoc,
      takeWhile_append_cons (by decide)]

theorem Addressing.append {cs rest : List Char} (h : Addressing (cs ++ ['/']) rest)
    (path : List Char) : ∃ rest, Addressing (cs ++ '/' :: path) rest := by
  have hscheme : ∀ ps, schemeName (cs ++ '/' :: ps) = schemeName cs := fun ps => by
    rw [schemeName, takeWhile_append_cons (by decide), schemeName]
  have hle : (schemeName cs).length ≤ cs.length := by
    rw [schemeName, List.length_map]
    exact (List.takeWhile_sublist _).length_le
  obtain ⟨hcolon, hletter, hknown, hauthority⟩ := h
  rw [hscheme] at hcolon hletter hknown hauthority
  rw [List.drop_append_of_le_length hle] at hcolon
  cases hcs : cs.drop (schemeName cs).length with
  | nil =>
    rw [hcs] at hcolon
    cases hcolon
  | cons c rest' =>
    rw [hcs, List.cons_append] at hcolon
    obtain ⟨rfl, rfl⟩ := List.cons.inj hcolon
    have hsame : authorityOf (rest' ++ '/' :: path) = authorityOf (rest' ++ ['/']) := by
      obtain hsame | hnone := authorityOf_append rest'
      · rw [hsame, hsame]
      · rw [hnone] at hauthority
        obtain ⟨authority, hauthority⟩ := hauthority
        cases hauthority
    refine ⟨rest' ++ '/' :: path, ?_, ?_, ?_, ?_⟩
    · rw [hscheme, List.drop_append_of_le_length hle, hcs, List.cons_append]
    · rwa [hscheme]
    · rwa [hscheme]
    · rwa [hscheme, hsame]

/-- An address with a slash behind it may be followed by anything. -/
theorem exists_parse_append {base : String} (h : ∃ u, parse (base ++ "/") = .ok u)
    (path : String) : ∃ u, parse (base ++ "/" ++ path) = .ok u := by
  obtain ⟨rest, hrest⟩ := exists_parse_iff.mp h
  obtain ⟨cs, hcs, hpath⟩ := exists_cleaned base
  obtain ⟨ps, hps⟩ := hpath path
  rw [exists_parse_iff, hps]
  exact Addressing.append (hcs ▸ hrest) ps

end Url

/-! ## Headers -/

theorem Base64.isHeaderChar_digit (n : Nat) : HttpRequest.isHeaderChar (digit n) = true := by
  have hdigits : ('A' :: digits).all HttpRequest.isHeaderChar = true := by decide
  refine List.all_eq_true.mp hdigits _ ?_
  unfold digit
  by_cases hn : n < digits.length
  · rw [List.getD_eq_getElem _ _ hn]
    exact .tail _ (List.getElem_mem hn)
  · rw [List.getD_eq_default _ _ (by omega)]
    exact .head _

theorem Base64.isHeaderChar_encodeChars (bytes : List UInt8) :
    (encodeChars bytes).all HttpRequest.isHeaderChar = true := by
  have hfill : HttpRequest.isHeaderChar '=' = true := by decide
  induction bytes using encodeChars.induct with
  | case1 => rfl
  | case2 a => simp [encodeChars, isHeaderChar_digit, hfill]
  | case3 a b => simp [encodeChars, isHeaderChar_digit, hfill]
  | case4 a b c rest ih => simp [encodeChars, isHeaderChar_digit, ih]

/-! ## Messages -/

namespace BrokerClient

/-- The message that a request to the broker is sent as. -/
def messageOf (c : BrokerClient) : BrokerRequest → HttpRequest
  | .listActions => c.message .get actionsPath none
  | .createAction p => c.message .post actionsPath (some p.toJson)
  | .updateAction name p => c.message .put (actionPath name) (some p.toJson)
  | .createRule p => c.message .post rulesPath (some p.toJson)
  | .updateRule id p => c.message .put (rulePath id) (some p.toJson)

/-- The address of the client is one that paths can be appended to. -/
def Addressed (c : BrokerClient) : Prop := ∃ u, Url.parse (c.base ++ "/") = .ok u

variable {c : BrokerClient}

theorem headers_message (method : HttpMethod) (path : String) (body : Option Json) :
    (c.message method path body).headers.all (fun h => h.2.toList.all HttpRequest.isHeaderChar) =
      true := by
  have hbasic : "Basic ".toList.all HttpRequest.isHeaderChar = true := by decide
  have hjson : "application/json".toList.all HttpRequest.isHeaderChar = true := by decide
  have hauthorization : c.authorization.toList.all HttpRequest.isHeaderChar = true := by
    rw [authorization, String.toList_append, List.all_append, hbasic, Base64.encode,
      String.toList_ofList, Base64.isHeaderChar_encodeChars, Bool.and_true]
  cases body <;>
    simp only [HttpRequest.headers, message, Option.map_none, Option.map_some, Option.toList_none,
      Option.toList_some, List.cons_append, List.nil_append, List.all_cons, List.all_nil,
      hauthorization, hjson, Bool.and_true]

theorem exists_target_message (h : c.Addressed) {path rest : String} (hpath : path = "/" ++ rest)
    (method : HttpMethod) (body : Option Json) :
    ∃ u, (c.message method path body).target = .ok u := by
  obtain ⟨u, hu⟩ := Url.exists_parse_append h rest
  have haddress : (c.message method path body).address = c.base ++ "/" ++ rest := by
    rw [message, hpath, String.append_assoc]
  refine ⟨u, ?_⟩
  rw [HttpRequest.target, haddress, hu]
  exact if_pos (headers_message ..)

/-- The messages of a client can be sent, if its address can be read. -/
theorem exists_target (h : c.Addressed) (r : BrokerRequest) :
    ∃ u, (c.messageOf r).target = .ok u := by
  have hactions : actionsPath = "/" ++ "api/v5/actions" := by decide
  have hrules : rulesPath = "/" ++ "api/v5/rules" := by decide
  cases r with
  | listActions => exact exists_target_message h hactions ..
  | createAction p => exact exists_target_message h hactions ..
  | createRule p => exact exists_target_message h hrules ..
  | updateAction name p =>
    have hpath : actionPath name =
        "/" ++ ("api/v5/actions" ++ "/" ++ actionType ++ ":" ++ Percent.encode name) := by
      simp only [actionPath, hactions, String.append_assoc]
    exact exists_target_message h hpath ..
  | updateRule id p =>
    have hpath : rulePath id = "/" ++ ("api/v5/rules" ++ "/" ++ Percent.encode id) := by
      simp only [rulePath, hrules, String.append_assoc]
    exact exists_target_message h hpath ..

end BrokerClient

end Telemetry
