import Telemetry.Proofs.Series.Flux

/-!
# A Flux text in pieces

Nothing that a query asks for gets out of its string literal. A text is cut into code and the
contents of string literals without a look at what it says, so that a quote or a backslash that were
left alone would move every piece after it.

* `Flux.pieces`: code and the contents of string literals in turns.
* `SeriesQuery.pieces`: the pieces of a query: its parts as they are, and the code between them.
* `SeriesQuery.Alike`: queries that ask for the same.
* `SeriesQuery.flux_identified`: the text of a query has these pieces, is read as the query, and is
  the text of those queries only that ask for the same.
-/

namespace Telemetry

namespace Flux

/-- Where a character of a text stands. -/
inductive Place where
  | code
  | literal
  /-- Behind a backslash in a string literal. -/
  | escape
  deriving DecidableEq

/-- The pieces of the rest of a text, where `piece` holds the present one in reverse. -/
def piecesFrom (place : Place) (piece : List Char) : List Char → Option (List String)
  | [] => if place = .code then some [String.ofList piece.reverse] else none
  | c :: cs =>
    match place with
    | .code =>
      if c = '"' then (piecesFrom .literal [] cs).map (String.ofList piece.reverse :: ·)
      else piecesFrom .code (c :: piece) cs
    | .literal =>
      if c = '"' then (piecesFrom .code [] cs).map (String.ofList piece.reverse :: ·)
      else if c = '\\' then piecesFrom .escape piece cs
      else piecesFrom .literal (c :: piece) cs
    | .escape => piecesFrom .literal (c :: piece) cs

/-- Code and the contents of string literals in turns, beginning and ending with code. A literal
runs from a double quote to the next one that has no backslash before it, and there a backslash
stands for the character after it. -/
def pieces (text : String) : Option (List String) := piecesFrom .code [] text.toList

/-! ## Cutting what was written -/

theorem piecesFrom_code {code : List Char} (h : '"' ∉ code) (piece rest : List Char) :
    piecesFrom .code piece (code ++ rest) = piecesFrom .code (code.reverse ++ piece) rest := by
  induction code generalizing piece with
  | nil => rfl
  | cons c code ih =>
    have hc : c ≠ '"' := fun heq => h (heq ▸ .head _)
    have hcode : '"' ∉ code := fun hmem => h (.tail _ hmem)
    simp only [List.cons_append, piecesFrom, if_neg hc]
    rw [ih hcode, List.reverse_cons, List.append_assoc, List.singleton_append]

theorem piecesFrom_escaped (cs piece rest : List Char) :
    piecesFrom .literal piece (cs.flatMap escapedChar ++ '"' :: rest) =
      (piecesFrom .code [] rest).map (String.ofList (piece.reverse ++ cs) :: ·) := by
  induction cs generalizing piece with
  | nil => simp only [List.flatMap_nil, List.nil_append, List.append_nil, piecesFrom, if_true]
  | cons c cs ih =>
    have hpiece : piece.reverse ++ c :: cs = (c :: piece).reverse ++ cs := by simp
    rw [List.flatMap_cons, List.append_assoc, hpiece, ← ih]
    by_cases hslash : c = '\\'
    · subst hslash
      rfl
    by_cases hquote : c = '"'
    · subst hquote
      rfl
    simp only [escapedChar, hslash, hquote, if_false, List.singleton_append, piecesFrom]

/-- A string literal is one piece, and the code before it ends there. -/
theorem piecesFrom_literal (piece : List Char) (s : String) (rest : List Char) :
    piecesFrom .code piece ((literal s).toList ++ rest) =
      (piecesFrom .code [] rest).map fun ps => String.ofList piece.reverse :: s :: ps := by
  have htext : (literal s).toList ++ rest =
      '"' :: (s.toList.flatMap escapedChar ++ '"' :: rest) := by
    simp [toList_literal]
  simp only [htext, piecesFrom, if_true, piecesFrom_escaped, Option.map_map]
  simp [Function.comp_def]

theorem quote_notMem_toString (n : Nat) : '"' ∉ (toString n).toList := by
  rw [Nat.toString_eq_ofList_toDigits, String.toList_ofList]
  intro h
  exact absurd (Nat.isDigit_of_mem_toDigits (by decide) (by decide) h) (by decide)

/-- The pieces of a condition on a column with a plain name. -/
theorem piecesFrom_keep {column : String} (h : Plain column) (piece : List Char) (value : String)
    (rest : List Char) : piecesFrom .code piece ((keep column value).toList ++ rest) =
      (piecesFrom .code [')'] rest).map fun ps =>
        String.ofList (piece.reverse ++ "\n  |> filter(fn: (r) => r[".toList) :: column ::
          "] == " :: value :: ps := by
  have hopen : '"' ∉ "\n  |> filter(fn: (r) => r[".toList := by decide
  have hequal : '"' ∉ "] == ".toList := by decide
  have hclose : '"' ∉ ")".toList := by decide
  rw [toList_keep_append value rest h, piecesFrom_code hopen, piecesFrom_literal,
    piecesFrom_code hequal, piecesFrom_literal, piecesFrom_code hclose, Option.map_map]
  simp [Function.comp_def]

/-- The pieces of conditions that stand behind some code. -/
def conditionPieces (code : String) : List (String × String) → List String
  | [] => [code]
  | (column, value) :: conditions =>
    (code ++ "\n  |> filter(fn: (r) => r[") :: column :: "] == " :: value ::
      conditionPieces ")" conditions

theorem piecesFrom_conditions {conditions : List (String × String)}
    (h : ∀ c ∈ conditions, Plain c.1) (code : String) :
    piecesFrom .code code.toList.reverse (conditions.flatMap fun c => (keep c.1 c.2).toList) =
      some (conditionPieces code conditions) := by
  induction conditions generalizing code with
  | nil => simp [piecesFrom, conditionPieces]
  | cons c conditions ih =>
    obtain ⟨hc, h⟩ := List.forall_mem_cons.mp h
    have hclose : [')'] = ")".toList.reverse := rfl
    have hcode : String.ofList (code.toList.reverse.reverse ++
        "\n  |> filter(fn: (r) => r[".toList) = code ++ "\n  |> filter(fn: (r) => r[" := by
      rw [List.reverse_reverse, ← String.toList_append, String.ofList_toList]
    rw [List.flatMap_cons, piecesFrom_keep hc, hclose, ih h, Option.map_some, hcode]
    rfl

end Flux

namespace SeriesQuery

/-- The pieces of the text of a query. -/
def pieces (q : SeriesQuery) : List String :=
  "from(bucket: " :: q.bucket ::
    Flux.conditionPieces (")\n  |> range(start: -" ++ toString q.window ++ "s)") q.conditions

/-- The text of a query has the pieces of the query. -/
theorem pieces_flux (q : SeriesQuery) : Flux.pieces q.flux = some q.pieces := by
  have hfrom : '"' ∉ "from(bucket: ".toList := by decide
  have hrange : '"' ∉ ")\n  |> range(start: -".toList := by decide
  have hwindow := Flux.quote_notMem_toString q.window
  have hseconds : '"' ∉ "s)".toList := by decide
  have hcode : "s)".toList.reverse ++ ((toString q.window).toList.reverse ++
      (")\n  |> range(start: -".toList.reverse ++ [])) =
      (")\n  |> range(start: -" ++ toString q.window ++ "s)").toList.reverse := by
    simp only [String.toList_append, List.reverse_append, List.append_nil]
  rw [Flux.pieces, toList_flux, Flux.piecesFrom_code hfrom, Flux.piecesFrom_literal,
    Flux.piecesFrom_code hrange, Flux.piecesFrom_code hwindow, Flux.piecesFrom_code hseconds,
    hcode, Flux.piecesFrom_conditions q.plain_conditions, Option.map_some, List.append_nil,
    List.reverse_reverse, String.ofList_toList]
  rfl

/-- Queries that ask for the same. Blank fields all ask for every field. -/
structure Alike (q q' : SeriesQuery) : Prop where
  bucket : q.bucket = q'.bucket
  experimentId : q.experimentId = q'.experimentId
  deviceAddress : q.deviceAddress = q'.deviceAddress
  measurement : q.measurement = q'.measurement
  field : q.field = q'.field ∨ Text.isBlankText q.field = true ∧ Text.isBlankText q'.field = true
  window : q.window = q'.window

/-- Queries have the same conditions exactly if they ask for the same columns. -/
theorem conditions_eq_iff {q q' : SeriesQuery} : q.conditions = q'.conditions ↔
    q.experimentId = q'.experimentId ∧ q.deviceAddress = q'.deviceAddress ∧
      q.measurement = q'.measurement ∧ (q.field = q'.field ∨
        Text.isBlankText q.field = true ∧ Text.isBlankText q'.field = true) := by
  by_cases hfield : q.field = q'.field
  · simp [conditions, hfield]
  · unfold conditions
    cases Text.isBlankText q.field <;> cases Text.isBlankText q'.field <;> simp [hfield]

theorem flux_eq_iff {q q' : SeriesQuery} : q.flux = q'.flux ↔ q.Alike q' := by
  constructor
  · intro h
    have hread : (⟨q.bucket, q.window, q.conditions⟩ : Flux.Reading) =
        ⟨q'.bucket, q'.window, q'.conditions⟩ := by
      rw [← Option.some_inj, ← Flux.read_flux, h, Flux.read_flux]
    obtain ⟨hbucket, hwindow, hconditions⟩ := Flux.Reading.mk.inj hread
    obtain ⟨hid, haddress, hmeasurement, hfield⟩ := conditions_eq_iff.mp hconditions
    exact ⟨hbucket, hid, haddress, hmeasurement, hfield, hwindow⟩
  · rintro ⟨hbucket, hid, haddress, hmeasurement, hfield, hwindow⟩
    have hconditions := conditions_eq_iff.mpr ⟨hid, haddress, hmeasurement, hfield⟩
    rw [← String.toList_inj, toList_flux, toList_flux, hbucket, hwindow, hconditions]

/-- Whatever quotes, backslashes and line ends its parts hold: the text of a query is the same code
always, with the parts of the query as string literals at their places; it is read as the query; and
it is the text of those queries only that ask for the same. -/
theorem flux_identified (q : SeriesQuery) :
    Flux.pieces q.flux = some q.pieces ∧
    Flux.read q.flux = some {
      bucket := q.bucket
      window := q.window
      conditions := [("experimentId", q.experimentId), ("deviceAddress", q.deviceAddress),
        ("_measurement", q.measurement)] ++
          if Text.isBlankText q.field then [] else [("_field", q.field)] } ∧
    ∀ q' : SeriesQuery, q.flux = q'.flux ↔ q.Alike q' :=
  ⟨q.pieces_flux, Flux.read_flux q, fun _ => flux_eq_iff⟩

end SeriesQuery

end Telemetry
