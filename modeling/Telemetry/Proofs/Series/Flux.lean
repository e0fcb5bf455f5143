import Mathlib.Data.List.Basic
import Telemetry.Series.Flux

/-!
# Reading a Flux text back

A string literal runs from a double quote to the next one that has no backslash before it; a
backslash stands for the character after it.

* `Flux.readLiteral`, `Flux.readConditions`, `Flux.read`: what a text asks for, read strictly: the
  bucket, the window and the conditions on columns. Any other text is refused.
* `Flux.read_flux`: the text of a query is read as what the query asks for, whatever quotes,
  backslashes and line ends its parts hold.
-/

namespace Telemetry

namespace Flux

/-! ## The reader -/

/-- What follows a text at the beginning. -/
def after? (expected : String) (cs : List Char) : Option (List Char) :=
  cs.dropPrefix? expected.toList

/-- The rest of a string literal up to its closing quote, and what follows. -/
def readClosing : List Char → Option (List Char × List Char)
  | [] => none
  | '"' :: cs => some ([], cs)
  | '\\' :: cs =>
    match cs with
    | [] => none
    | c :: cs => (readClosing cs).map fun (text, rest) => (c :: text, rest)
  | c :: cs => (readClosing cs).map fun (text, rest) => (c :: text, rest)

/-- A string literal and what follows it. -/
def readLiteral (cs : List Char) : Option (String × List Char) := do
  let cs ← after? "\"" cs
  let (text, cs) ← readClosing cs
  return (String.ofList text, cs)

/-- A number in decimal digits and what follows it. -/
def readDigits (cs : List Char) : Option (Nat × List Char) :=
  match cs.takeWhile Char.isDigit with
  | [] => none
  | digits => some (Nat.ofDigitChars 10 digits 0, cs.dropWhile Char.isDigit)

/-- A condition: a column and the value that it has to hold. -/
def readCondition (cs : List Char) : Option ((String × String) × List Char) := do
  let cs ← after? "\n  |> filter(fn: (r) => r[" cs
  let (column, cs) ← readLiteral cs
  let cs ← after? "] == " cs
  let (value, cs) ← readLiteral cs
  let cs ← after? ")" cs
  return ((column, value), cs)

/-- At most `n` conditions, up to the end of the text. -/
def readConditions : Nat → List Char → Option (List (String × String))
  | _, [] => some []
  | 0, _ => none
  | n + 1, cs => do
    let (condition, cs) ← readCondition cs
    let conditions ← readConditions n cs
    return condition :: conditions

/-- What a text asks for. -/
structure Reading where
  bucket : String
  window : Nat
  conditions : List (String × String)
  deriving DecidableEq

/-- What a text asks for, if it is a query with at most four conditions. -/
def read (text : String) : Option Reading := do
  let cs ← after? "from(bucket: " text.toList
  let (bucket, cs) ← readLiteral cs
  let cs ← after? ")\n  |> range(start: -" cs
  let (window, cs) ← readDigits cs
  let cs ← after? "s)" cs
  let conditions ← readConditions 4 cs
  return ⟨bucket, window, conditions⟩

/-! ## One pass -/

/-- How a character is written inside a string literal. -/
def escapedChar (c : Char) : List Char :=
  if c = '\\' then ['\\', '\\'] else if c = '"' then ['\\', '"'] else [c]

/-- The backslashes that are put before quotes come too late to be escaped themselves, so that both
passes together are one. -/
theorem escapeMark_escapeMark (cs : List Char) :
    escapeMark '"' (escapeMark '\\' cs) = cs.flatMap escapedChar := by
  rw [escapeMark, escapeMark, List.flatMap_assoc]
  refine List.flatMap_congr fun c _ => ?_
  unfold escapedChar
  split
  · rfl
  · rw [List.flatMap_singleton]

theorem toList_literal (s : String) :
    (literal s).toList = '"' :: (s.toList.flatMap escapedChar ++ ['"']) := by
  simp [literal, escapeMark_escapeMark]

/-! ## Reading what was written -/

@[simp] theorem after?_append (s : String) (cs : List Char) : after? s (s.toList ++ cs) = some cs :=
  List.dropPrefix?_append_of_beq _ (by simp)

theorem readClosing_escaped (cs rest : List Char) :
    readClosing (cs.flatMap escapedChar ++ '"' :: rest) = some (cs, rest) := by
  induction cs with
  | nil => rfl
  | cons c cs ih =>
    rw [List.flatMap_cons, List.append_assoc]
    by_cases hslash : c = '\\'
    · subst hslash
      simp [escapedChar, readClosing, ih]
    by_cases hquote : c = '"'
    · subst hquote
      simp [escapedChar, readClosing, ih]
    simp [escapedChar, readClosing, hslash, hquote, ih]

theorem readLiteral_literal (s : String) (rest : List Char) :
    readLiteral ((literal s).toList ++ rest) = some (s, rest) := by
  have htext : (literal s).toList ++ rest =
      "\"".toList ++ (s.toList.flatMap escapedChar ++ '"' :: rest) := by
    simp [toList_literal]
  simp only [htext, readLiteral, after?_append, Option.bind_eq_bind, Option.bind_some,
    readClosing_escaped, String.ofList_toList, Option.pure_def]

theorem readDigits_toString (n : Nat) {rest : List Char} {c : Char} (hc : c.isDigit = false) :
    readDigits ((toString n).toList ++ c :: rest) = some (n, c :: rest) := by
  have hdigits : ∀ d ∈ Nat.toDigits 10 n, d.isDigit = true := fun d hd =>
    Nat.isDigit_of_mem_toDigits (by decide) (by decide) hd
  have hsome : Nat.toDigits 10 n ≠ [] := Nat.toDigits_ne_nil
  rw [Nat.toString_eq_ofList_toDigits, String.toList_ofList, readDigits,
    List.takeWhile_append_of_pos hdigits, List.dropWhile_append_of_pos hdigits,
    List.takeWhile_cons_of_neg (by simp [hc]), List.dropWhile_cons_of_neg (by simp [hc]),
    List.append_nil]
  split
  · next h => exact absurd h hsome
  · rw [Nat.ofDigitChars_ten_toDigits]

/-- A name that needs no backslash. -/
def Plain (name : String) : Prop := literal name = "\"" ++ name ++ "\""

instance (name : String) : Decidable (Plain name) := inferInstanceAs (Decidable (_ = _))

theorem toList_keep_append {column : String} (value : String) (rest : List Char)
    (h : Plain column) :
    (keep column value).toList ++ rest =
      "\n  |> filter(fn: (r) => r[".toList ++ ((literal column).toList ++
        ("] == ".toList ++ ((literal value).toList ++ (")".toList ++ rest)))) := by
  have hopen : "\n  |> filter(fn: (r) => r[\"".toList =
      "\n  |> filter(fn: (r) => r[".toList ++ "\"".toList := rfl
  have hclose : "\"] == ".toList = "\"".toList ++ "] == ".toList := rfl
  have hcolumn : literal column = "\"" ++ column ++ "\"" := h
  unfold keep
  rw [hcolumn]
  simp only [String.toList_append, List.append_assoc]
  rw [hopen, hclose]
  simp only [List.append_assoc]

/-- A condition on a column with a plain name is read back. -/
theorem readCondition_keep {column : String} (value : String) (rest : List Char)
    (h : Plain column) :
    readCondition ((keep column value).toList ++ rest) = some ((column, value), rest) := by
  simp only [toList_keep_append value rest h, readCondition, after?_append, readLiteral_literal,
    Option.bind_eq_bind, Option.bind_some, Option.pure_def]

/-- Conditions on columns with plain names are read back. -/
theorem readConditions_keep {n : Nat} {conditions : List (String × String)}
    (hplain : ∀ c ∈ conditions, Plain c.1) (hn : conditions.length ≤ n) :
    readConditions n (conditions.flatMap fun c => (keep c.1 c.2).toList) = some conditions := by
  induction conditions generalizing n with
  | nil => cases n <;> rfl
  | cons c conditions ih =>
    obtain ⟨hc, hplain⟩ := List.forall_mem_cons.mp hplain
    obtain ⟨n, rfl⟩ : ∃ m, n = m + 1 := ⟨n - 1, by simp at hn; omega⟩
    have hfirst := readCondition_keep c.2 (conditions.flatMap fun c => (keep c.1 c.2).toList) hc
    have hrest := ih hplain (Nat.le_of_succ_le_succ hn)
    rw [List.flatMap_cons, readConditions]
    · simp only [hfirst, hrest, Option.bind_eq_bind, Option.bind_some, Option.pure_def]
    · intro hnil
      rw [hnil] at hfirst
      cases hfirst

/-- A query with its conditions is read back. -/
theorem read_append {text bucket : String} {window : Nat} {rest : List Char}
    {conditions : List (String × String)}
    (htext : text.toList = "from(bucket: ".toList ++ ((literal bucket).toList ++
      (")\n  |> range(start: -".toList ++ ((toString window).toList ++ ("s)".toList ++ rest)))))
    (hrest : readConditions 4 rest = some conditions) :
    read text = some ⟨bucket, window, conditions⟩ := by
  have hdigits : readDigits ((toString window).toList ++ ("s)".toList ++ rest)) =
      some (window, "s)".toList ++ rest) := readDigits_toString window (by decide)
  simp only [read, htext, after?_append, readLiteral_literal, hdigits, hrest, Option.bind_eq_bind,
    Option.bind_some, Option.pure_def]

end Flux

namespace SeriesQuery

/-- What a query asks of the columns: a blank field asks for nothing. -/
def conditions (q : SeriesQuery) : List (String × String) :=
  [("experimentId", q.experimentId), ("deviceAddress", q.deviceAddress),
    ("_measurement", q.measurement)] ++
    if Text.isBlankText q.field then [] else [("_field", q.field)]

theorem plain_conditions (q : SeriesQuery) : ∀ c ∈ q.conditions, Flux.Plain c.1 := by
  have hcolumns : ∀ column ∈ ["experimentId", "deviceAddress", "_measurement", "_field"],
      Flux.Plain column := by decide
  intro c hc
  refine hcolumns c.1 ?_
  unfold conditions at hc
  split at hc <;> simp at hc ⊢ <;> grind

theorem length_conditions (q : SeriesQuery) : q.conditions.length ≤ 4 := by
  unfold conditions
  split <;> simp

end SeriesQuery

theorem SeriesQuery.toList_flux (q : SeriesQuery) :
    q.flux.toList = "from(bucket: ".toList ++ ((Flux.literal q.bucket).toList ++
      (")\n  |> range(start: -".toList ++ ((toString q.window).toList ++ ("s)".toList ++
        q.conditions.flatMap fun c => (Flux.keep c.1 c.2).toList)))) := by
  unfold flux conditions
  simp only [String.toList_append, List.append_assoc]
  split
  · simp only [List.append_nil, List.flatMap_cons, List.flatMap_nil, String.toList_empty]
  · simp only [List.cons_append, List.nil_append, List.flatMap_cons, List.flatMap_nil,
      List.append_nil]

/-- The text of a query is read as what the query asks for. -/
theorem Flux.read_flux (q : SeriesQuery) :
    read q.flux = some ⟨q.bucket, q.window, q.conditions⟩ :=
  read_append q.toList_flux (readConditions_keep q.plain_conditions q.length_conditions)

end Telemetry
