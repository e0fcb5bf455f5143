import Mathlib.Data.List.Forall2
import Telemetry.Series.Csv

/-!
# Cells and lines as they are written

* `CellForm`: a cell is written as it is, or between double quotes, and then it may hold commas, and
  its own double quotes are doubled.
* `splitCells_append`, `splitCells_form`: the first cell of a line is split off whichever way it is
  written.
* `LineForm`: the cells of a line, each written in one of these ways; `splitCells_joined`: they are
  taken apart again.
* `writeLine`: the cells of a line, quoted where they have to be.
* `textLines_endedLines`: lines that hold no line feed are the lines of their text.
-/

namespace Telemetry.Csv

/-! ## Cells -/

/-- A text in which every double quote is written twice. -/
def doubled (cs : List Char) : List Char :=
  cs.flatMap fun c => if c = '"' then ['"', '"'] else [c]

/-- A cell between double quotes. -/
def quoteCell (cell : String) : List Char := '"' :: (doubled cell.toList ++ ['"'])

/-- The ways to write a cell. -/
inductive CellForm (cell : String) : List Char → Prop
  | plain (hcomma : ',' ∉ cell.toList) (hquote : '"' ∉ cell.toList) : CellForm cell cell.toList
  | quoted : CellForm cell (quoteCell cell)

theorem cellsFrom_plain {cs : List Char} (hcomma : ',' ∉ cs) (hquote : '"' ∉ cs)
    (cell rest : List Char) :
    cellsFrom false cell (cs ++ rest) = cellsFrom false (cs.reverse ++ cell) rest := by
  induction cs generalizing cell with
  | nil => rfl
  | cons c cs ih =>
    obtain ⟨hc, hcomma⟩ := List.ne_and_not_mem_of_not_mem_cons hcomma
    obtain ⟨hq, hquote⟩ := List.ne_and_not_mem_of_not_mem_cons hquote
    rw [List.cons_append, cellsFrom, if_neg (by simpa using hc.symm), ih hcomma hquote,
      List.reverse_cons, List.append_assoc, List.singleton_append]
    exact hq.symm

/-- Between double quotes all is a part of the cell, up to a double quote that is not doubled. -/
theorem cellsFrom_doubled {rest : List Char} (hrest : rest.head? ≠ some '"')
    (cs cell : List Char) : cellsFrom true cell (doubled cs ++ '"' :: rest) =
      cellsFrom false (cs.reverse ++ cell) rest := by
  induction cs generalizing cell with
  | nil =>
    cases rest with
    | nil => rfl
    | cons c rest =>
      have hc : c ≠ '"' := by simpa using hrest
      simp [doubled, cellsFrom, hc]
  | cons c cs ih =>
    rw [List.reverse_cons, List.append_assoc, List.singleton_append, ← ih]
    by_cases hc : c = '"'
    · subst hc
      rfl
    · simp [doubled, cellsFrom, hc]

/-- A cell is read whichever way it is written. -/
theorem cellsFrom_form {cell : String} {text rest : List Char} (h : CellForm cell text)
    (hrest : rest.head? ≠ some '"') :
    cellsFrom false [] (text ++ rest) = cellsFrom false cell.toList.reverse rest := by
  cases h with
  | plain hcomma hquote =>
    rw [cellsFrom_plain hcomma hquote, List.append_nil]
  | quoted =>
    rw [quoteCell, List.cons_append, List.append_assoc, List.singleton_append]
    show cellsFrom true [] (doubled cell.toList ++ '"' :: rest) = _
    rw [cellsFrom_doubled hrest, List.append_nil]

theorem splitCells_form {cell : String} {text : List Char} (h : CellForm cell text) :
    splitCells text = [cell] := by
  rw [splitCells, ← List.append_nil text, cellsFrom_form h (by simp), cellsFrom,
    List.reverse_reverse, String.ofList_toList]

/-- The first cell of a line ends at the comma after it. -/
theorem splitCells_append {cell : String} {text : List Char} (h : CellForm cell text)
    (rest : List Char) : splitCells (text ++ ',' :: rest) = cell :: splitCells rest := by
  rw [splitCells, cellsFrom_form h (by simp)]
  simp [cellsFrom, splitCells]

/-! ## Lines of cells -/

/-- The cells of a line, each in one of its forms, with commas between them. -/
inductive LineForm : List String → List Char → Prop
  | last {cell : String} {text : List Char} (h : CellForm cell text) : LineForm [cell] text
  | cons {cell : String} {text : List Char} (h : CellForm cell text) {cells : List String}
      {line : List Char} (hcells : LineForm cells line) :
      LineForm (cell :: cells) (text ++ ',' :: line)

/-- The cells of a line are read, in whichever ways they are written. -/
theorem LineForm.splitCells_eq {cells : List String} {line : List Char}
    (h : LineForm cells line) : splitCells line = cells := by
  induction h with
  | last h => exact splitCells_form h
  | cons h _ ih => rw [splitCells_append h, ih]

/-- Forms of cells with commas between them are a form of their line. -/
theorem lineForm_intercalate {cells : List String} {texts : List (List Char)}
    (h : List.Forall₂ CellForm cells texts) (hcells : cells ≠ []) :
    LineForm cells ([','].intercalate texts) := by
  induction h with
  | nil => exact absurd rfl hcells
  | @cons cell text cells texts hcell hrest ih =>
    cases hrest with
    | nil => simpa using LineForm.last hcell
    | cons hnext hrest =>
      have hline := ih (List.cons_ne_nil _ _)
      simpa [List.intercalate_cons_cons] using LineForm.cons hcell hline

/-- Whatever cells are written, each as it is if it holds no comma and no double quote or else between
double quotes, the line of these forms with commas between them is taken apart into the cells. -/
theorem splitCells_joined {cells : List String} {texts : List (List Char)}
    (h : List.Forall₂ CellForm cells texts) (hcells : cells ≠ []) :
    splitCells ([','].intercalate texts) = cells :=
  (lineForm_intercalate h hcells).splitCells_eq

/-- Empty cells of both forms, and cells of nothing but marks. -/
theorem splitCells_joined_marks :
    List.Forall₂ CellForm ["", "\",", "", "\"\"", "b"]
        [[], "\"\"\",\"".toList, "\"\"".toList, "\"\"\"\"\"\"".toList, ['b']] ∧
      splitCells ",\"\"\",\",\"\",\"\"\"\"\"\",b".toList = ["", "\",", "", "\"\"", "b"] := by
  have hforms : List.Forall₂ CellForm ["", "\",", "", "\"\"", "b"]
      [[], "\"\"\",\"".toList, "\"\"".toList, "\"\"\"\"\"\"".toList, ['b']] :=
    .cons (.plain (by decide) (by decide)) <| .cons .quoted <| .cons .quoted <| .cons .quoted <|
      .cons (.plain (by decide) (by decide)) .nil
  exact ⟨hforms, splitCells_joined hforms (List.cons_ne_nil _ _)⟩

/-- A cell that is written as it is would be read as something else. -/
def needsQuotes (cell : String) : Bool := cell.toList.any (· ∈ [',', '"', '\n', '\r'])

/-- A cell, between double quotes if it needs them. -/
def writeCell (cell : String) : List Char :=
  if needsQuotes cell then quoteCell cell else cell.toList

/-- The cells of a line, with commas between them. -/
def writeLine (cells : List String) : List Char := [','].intercalate (cells.map writeCell)

theorem needsQuotes_eq_false {cell : String} (h : ¬ needsQuotes cell) :
    ',' ∉ cell.toList ∧ '"' ∉ cell.toList ∧ '\n' ∉ cell.toList ∧ '\r' ∉ cell.toList := by
  have hmem : ∀ mark ∈ [',', '"', '\n', '\r'], mark ∉ cell.toList := fun mark hmark hc =>
    h (List.any_eq_true.mpr ⟨mark, hc, decide_eq_true hmark⟩)
  exact ⟨hmem _ (by simp), hmem _ (by simp), hmem _ (by simp), hmem _ (by simp)⟩

theorem cellForm_writeCell (cell : String) : CellForm cell (writeCell cell) := by
  unfold writeCell
  split
  · exact .quoted
  · next h =>
    obtain ⟨hcomma, hquote, -⟩ := needsQuotes_eq_false h
    exact .plain hcomma hquote

theorem writeLine_singleton (cell : String) : writeLine [cell] = writeCell cell := by
  simp [writeLine]

theorem writeLine_cons (cell : String) {cells : List String} (h : cells ≠ []) :
    writeLine (cell :: cells) = writeCell cell ++ ',' :: writeLine cells := by
  obtain ⟨next, cells, rfl⟩ := List.exists_cons_of_ne_nil h
  simp [writeLine, List.intercalate_cons_cons]

theorem lineForm_writeLine {cells : List String} (h : cells ≠ []) :
    LineForm cells (writeLine cells) := by
  refine lineForm_intercalate ?_ h
  rw [List.forall₂_map_right_iff, List.forall₂_same]
  exact fun cell _ => cellForm_writeCell cell

/-- The cells of a line that was written are the cells that were written. -/
theorem splitCells_writeLine {cells : List String} (h : cells ≠ []) :
    splitCells (writeLine cells) = cells :=
  (lineForm_writeLine h).splitCells_eq

/-! ## The lines of a text -/

/-- A line that holds no line feed and has no return at its end is one line of its text. -/
structure IsLine (line : List Char) : Prop where
  unbroken : '\n' ∉ line
  noReturn : line.getLast? ≠ some '\r'

theorem IsLine.append_comma {line rest : List Char} (h : IsLine line) (hrest : IsLine rest) :
    IsLine (line ++ ',' :: rest) where
  unbroken := by simp [h.unbroken, hrest.unbroken]
  noReturn := by
    have hlast := hrest.noReturn
    cases rest with
    | nil => simp
    | cons c rest => simpa [List.getLast?_append, List.getLast?_cons_cons] using hlast

theorem isLine_nil : IsLine [] := ⟨by simp, by simp⟩

theorem isLine_writeCell {cell : String} (h : '\n' ∉ cell.toList) : IsLine (writeCell cell) := by
  unfold writeCell
  split
  · have hdoubled : '\n' ∉ doubled cell.toList := by
      intro hmem
      obtain ⟨c, hc, hmem⟩ := List.mem_flatMap.mp hmem
      split at hmem
      · simp at hmem
      · obtain rfl : '\n' = c := by simpa using hmem
        exact h hc
    refine ⟨by simp [quoteCell, hdoubled], ?_⟩
    rw [quoteCell, ← List.cons_append, List.getLast?_concat]
    simp
  · next hplain =>
    obtain ⟨-, -, hunbroken, hreturn⟩ := needsQuotes_eq_false hplain
    exact ⟨hunbroken, fun hlast => hreturn (List.mem_of_getLast? hlast)⟩

theorem isLine_writeLine {cells : List String} (h : ∀ cell ∈ cells, '\n' ∉ cell.toList) :
    IsLine (writeLine cells) := by
  induction cells with
  | nil => exact isLine_nil
  | cons cell cells ih =>
    have hcell := isLine_writeCell (h cell (.head _))
    by_cases hcells : cells = []
    · rwa [hcells, writeLine_singleton]
    · rw [writeLine_cons cell hcells]
      exact hcell.append_comma (ih fun c hc => h c (.tail _ hc))

/-- What a line ends with. -/
def lineEnd (returns : Bool) : List Char := if returns then ['\r', '\n'] else ['\n']

/-- The text of these lines, each with its end. -/
def endedLines (returns : Bool) (lines : List (List Char)) : String :=
  String.ofList (lines.flatMap (· ++ lineEnd returns))

theorem linesFrom_append {cs : List Char} (h : '\n' ∉ cs) (line rest : List Char) :
    linesFrom line (cs ++ '\n' :: rest) = (line.reverse ++ cs) :: linesFrom [] rest := by
  induction cs generalizing line with
  | nil => simp [linesFrom]
  | cons c cs ih =>
    obtain ⟨hc, hcs⟩ := List.ne_and_not_mem_of_not_mem_cons h
    rw [List.cons_append, linesFrom, if_neg hc.symm, ih hcs, List.reverse_cons, List.append_assoc,
      List.singleton_append]

theorem IsLine.dropEndWhile_eq {line : List Char} (h : IsLine line) :
    Text.dropEndWhile (· = '\r') line = line := by
  obtain rfl | ⟨front, c, rfl⟩ := List.eq_nil_or_concat' line
  · rfl
  · have hc : c ≠ '\r' := by simpa using h.noReturn
    simp [Text.dropEndWhile, hc]

theorem linesFrom_ended {line : List Char} (h : IsLine line) (returns : Bool) (rest : List Char) :
    ∃ l, linesFrom [] (line ++ lineEnd returns ++ rest) = l :: linesFrom [] rest ∧
      Text.dropEndWhile (· = '\r') l = line := by
  cases returns with
  | false =>
    refine ⟨line, ?_, h.dropEndWhile_eq⟩
    simpa [lineEnd] using linesFrom_append h.unbroken [] rest
  | true =>
    refine ⟨line ++ ['\r'], ?_, ?_⟩
    · have hunbroken : '\n' ∉ line ++ ['\r'] := by simp [h.unbroken]
      simpa [lineEnd] using linesFrom_append hunbroken [] rest
    · have heq := h.dropEndWhile_eq
      simpa [Text.dropEndWhile] using heq

/-- Lines are read back, whether or not returns are written at their ends. -/
theorem textLines_endedLines {lines : List (List Char)} (h : ∀ line ∈ lines, IsLine line)
    (returns : Bool) : textLines (endedLines returns lines) = lines := by
  rw [textLines, endedLines, String.toList_ofList]
  induction lines with
  | nil => rfl
  | cons line lines ih =>
    obtain ⟨l, hl, hline⟩ := linesFrom_ended (h line (.head _)) returns
      (lines.flatMap (· ++ lineEnd returns))
    have hlines := ih fun line' hline' => h line' (.tail _ hline')
    rw [List.flatMap_cons, hl, List.map_cons, hline, hlines]

end Telemetry.Csv
