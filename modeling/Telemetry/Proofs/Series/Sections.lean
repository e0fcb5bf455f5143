import Telemetry.Proofs.Series.Tables

/-!
# Answers one behind the other

A blank line ends a table, whatever came before it: a line without an end, column types without
names, an open double quote. So two answers with an empty line between them are read as each of them
is read alone.

* `readLine_points`, `readLines_points`: what is read is appended to what has been read, as the
  series of some points.
* `linesFrom_append_feed`: a text is cut into lines before a line feed and behind it independently.
* `readLines_sections`: a text is read up to an empty line and behind it.
* `readSeries_sections`: the series of two answers, or the first error.
-/

namespace Telemetry

theorem TimeSeries.length_ofPoints (points : List Point) :
    (ofPoints points).timestamps.length = (ofPoints points).values.length := by
  rw [ofPoints, List.length_map, List.length_map]

namespace Csv

/-! ## Points -/

/-- Whatever has been read, a row appends the same points to it, or ends in the same error. -/
theorem readRow_points (types names cells : List String) :
    ∃ r : Except Error (List Point), ∀ s, readRow types names cells s =
      r.map fun points => s.append (.ofPoints points) := by
  cases herror : columnOf names "error" with
  | some i => exact ⟨.error _, fun s => by rw [readRow, herror]; rfl⟩
  | none =>
    refine ⟨.ok (readPoint? types names cells).toList, fun s => ?_⟩
    simp only [readRow, herror, Except.map]
    cases readPoint? types names cells with
    | none => rw [Option.toList_none, s.append_nil]
    | some p => rw [Option.toList_some, ← s.push_eq]

/-- Whatever has been read, a line appends the same points to it, or ends in the same error. -/
theorem readLine_points (layout : Layout) (line : List Char) :
    ∃ r : Except Error (Layout × List Point), ∀ s, readLine layout s line =
      r.map fun x => (x.1, s.append (.ofPoints x.2)) := by
  by_cases hblank : line.all Text.isBlank = true
  · exact ⟨.ok (.unknown, []), fun s => by rw [readLine, if_pos hblank, Except.map, s.append_nil]⟩
  by_cases hmark : typesMark.isPrefixOf line = true
  · exact ⟨.ok (_, []), fun s => by
      rw [readLine, if_neg hblank, if_pos hmark, Except.map, s.append_nil]⟩
  by_cases hcomment : line.head? = some '#'
  · exact ⟨.ok (layout, []), fun s => by
      rw [readLine, if_neg hblank, if_neg hmark, if_pos hcomment, Except.map, s.append_nil]⟩
  cases hnames : layout.names with
  | none =>
    refine ⟨.ok (⟨layout.types, some (splitCells line)⟩, []), fun s => ?_⟩
    simp only [readLine, if_neg hblank, if_neg hmark, if_neg hcomment, hnames, Except.map,
      s.append_nil]
  | some names =>
    obtain ⟨r, hr⟩ := readRow_points layout.types names (splitCells line)
    refine ⟨r.map (layout, ·), fun s => ?_⟩
    simp only [readLine, if_neg hblank, if_neg hmark, if_neg hcomment, hnames, hr]
    cases r <;> rfl

/-- Whatever has been read, lines append the same points to it, or end in the same error. -/
theorem readLines_points (layout : Layout) (lines : List (List Char)) :
    ∃ r : Except Error (List Point), ∀ s, readLines layout s lines =
      r.map fun points => s.append (.ofPoints points) := by
  induction lines generalizing layout with
  | nil => exact ⟨.ok [], fun s => by rw [readLines, Except.map, s.append_nil]⟩
  | cons line lines ih =>
    obtain ⟨first, hfirst⟩ := readLine_points layout line
    cases first with
    | error e => exact ⟨.error e, fun s => by rw [readLines, hfirst]; rfl⟩
    | ok x =>
      obtain ⟨rest, hrest⟩ := ih x.1
      refine ⟨rest.map (x.2 ++ ·), fun s => ?_⟩
      rw [readLines, hfirst]
      show readLines x.1 (s.append (.ofPoints x.2)) lines = _
      rw [hrest]
      cases rest with
      | error e => rfl
      | ok points =>
        simp only [Except.map, TimeSeries.append_assoc, TimeSeries.ofPoints_append]

/-! ## Lines -/

theorem linesFrom_append_feed (line cs rest : List Char) :
    linesFrom line (cs ++ '\n' :: rest) = linesFrom line (cs ++ ['\n']) ++ linesFrom [] rest := by
  induction cs generalizing line with
  | nil => rfl
  | cons c cs ih =>
    rw [List.cons_append, List.cons_append, linesFrom, linesFrom]
    split
    · rw [ih, List.cons_append]
    · exact ih (c :: line)

/-- A line feed at the end of a text ends its last line, or an empty one. -/
theorem linesFrom_concat_feed (line cs : List Char) :
    linesFrom line (cs ++ ['\n']) = linesFrom line cs ∨
      linesFrom line (cs ++ ['\n']) = linesFrom line cs ++ [[]] := by
  induction cs generalizing line with
  | nil =>
    cases line with
    | nil => exact .inr rfl
    | cons c line => exact .inl rfl
  | cons c cs ih =>
    rw [List.cons_append, linesFrom, linesFrom]
    split
    · obtain h | h := ih []
      · exact .inl (by rw [h])
      · exact .inr (by rw [h, List.cons_append])
    · exact ih (c :: line)

/-! ## Sections -/

/-- A text, an empty line and another text. -/
def sections (a b : String) : String := "\n".intercalate [a, "", b]

theorem toList_sections (a b : String) :
    (sections a b).toList = a.toList ++ '\n' :: '\n' :: b.toList := by
  simp [sections]

/-- The lines of both texts stand in their order, and what is between them is blank. -/
theorem textLines_sections (a b : String) :
    textLines (sections a b) = textLines a ++ [] :: textLines b ∨
      textLines (sections a b) = textLines a ++ [] :: [] :: textLines b := by
  have hfeed : linesFrom [] ('\n' :: b.toList) = [] :: linesFrom [] b.toList := rfl
  rw [textLines, toList_sections, linesFrom_append_feed, hfeed]
  obtain h | h := linesFrom_concat_feed [] a.toList
  · exact .inl (by rw [h, List.map_append]; rfl)
  · exact .inr (by rw [h, List.append_assoc, List.map_append]; rfl)

theorem readLines_blank (layout : Layout) (s : TimeSeries) (rest : List (List Char)) :
    readLines layout s ([] :: rest) = readLines .unknown s rest :=
  readLines_append_blank layout s [] rest

/-- What is known at the end of the first text does not matter to the second one. -/
theorem readLines_sections (a b : String) (s : TimeSeries) :
    readLines .unknown s (textLines (sections a b)) =
      readLines .unknown s (textLines a) >>= fun s => readLines .unknown s (textLines b) := by
  obtain h | h := textLines_sections a b
  · rw [h, readLines_append_blank]
  · rw [h, readLines_append_blank]
    simp only [readLines_blank]

/-- Two answers with an empty line between them are read as each of them is read alone, whatever is
in them: the first error counts, and if there is none, the points of the first answer are followed
by those of the second one. Every series has as many timestamps as values. -/
theorem readSeries_sections (a b : String) :
    (readSeries (sections a b) = match readSeries a, readSeries b with
      | .error e, _ => .error e
      | .ok _, .error e => .error e
      | .ok s, .ok t => .ok ⟨s.timestamps ++ t.timestamps, s.values ++ t.values⟩) ∧
    ∀ (body : String) (s : TimeSeries), readSeries body = .ok s →
      s.timestamps.length = s.values.length := by
  constructor
  · obtain ⟨first, hfirst⟩ := readLines_points .unknown (textLines a)
    obtain ⟨second, hsecond⟩ := readLines_points .unknown (textLines b)
    simp only [readSeries, readLines_sections, hfirst, hsecond]
    cases first with
    | error e => rfl
    | ok points => cases second <;> rfl
  · intro body s hs
    obtain ⟨r, hr⟩ := readLines_points .unknown (textLines body)
    rw [readSeries, hr] at hs
    cases r with
    | error e => cases hs
    | ok points =>
      obtain rfl := Except.ok.inj hs
      exact TimeSeries.length_ofPoints points

end Csv

end Telemetry
