import Telemetry.Proofs.Series.Cells

/-!
# Tables that are read back

* `TimeSeries.ofPoints`: the series of some points; `TimeSeries.append`: two series in a row.
* `Table`: a table of an answer, its columns and its rows; `Table.point?`: the point of a row.
* `document`: the text of several tables, with a blank line between them.
* `readLines_append_blank`: what stands before a blank line and what stands behind it are read
  independently.
* `readSeries_document`: if no cell holds a line feed, the series of a text has one point for every
  row with a number, in their order; `readSeries_broken`: a line feed in a cell may cost a point.
-/

namespace Telemetry

namespace TimeSeries

/-- The points of a series and behind them those of another one. -/
def append (s t : TimeSeries) : TimeSeries :=
  ⟨s.timestamps ++ t.timestamps, s.values ++ t.values⟩

/-- The series of some points. -/
def ofPoints (points : List Point) : TimeSeries :=
  ⟨points.map Point.timestamp, points.map Point.value⟩

@[simp] theorem append_nil (s : TimeSeries) : s.append (ofPoints []) = s := by
  simp [append, ofPoints]

@[simp] theorem empty_append (s : TimeSeries) : empty.append s = s := rfl

theorem append_assoc (s t u : TimeSeries) : (s.append t).append u = s.append (t.append u) := by
  simp [append]

theorem ofPoints_append (points more : List Point) :
    ofPoints (points ++ more) = (ofPoints points).append (ofPoints more) := by
  simp [append, ofPoints]

/-- To push a point is to append the series of this point. -/
theorem push_eq (s : TimeSeries) (p : Point) :
    s.push p.timestamp p.value = s.append (ofPoints [p]) := rfl

end TimeSeries

namespace Csv

/-- A column of a table. -/
structure Column where
  type : String
  name : String
  deriving DecidableEq

/-- The number that a column holds in a cell. -/
def Column.number? (c : Column) (text : String) : Option Binary64 :=
  if c.type = "double" then readFloat? text
  else if c.type = "long" then (readInt64? text).map Binary64.ofInt
  else none

/-- A table of an answer that is not one of errors. Each row has a cell in every column. -/
structure Table where
  columns : List Column
  rows : List (List String)
  timed : ∃ c ∈ columns, c.name = "_time"
  valued : ∃ c ∈ columns, c.name = "_value"
  sound : ∀ c ∈ columns, c.name ≠ "error"
  filled : ∀ row ∈ rows, row.length = columns.length

namespace Table

variable (t : Table)

/-- The column of a name with its cell in a row; of several it is the last one. -/
def cell? (row : List String) (name : String) : Option (Column × String) :=
  (t.columns.zip row).reverse.find? (·.1.name == name)

/-- The point of a row whose value is a number. -/
def point? (row : List String) : Option Point := do
  let (_, time) ← t.cell? row "_time"
  let (c, text) ← t.cell? row "_value"
  let value ← c.number? text
  return ⟨(Timestamp.wholeSeconds? time).getD time, value⟩

/-- The points of the rows, in their order. -/
def points : List Point := t.rows.filterMap t.point?

/-- The lines of a table: the types of its columns, their names, and its rows. -/
def lines : List (List Char) :=
  writeLine ("#datatype" :: t.columns.map Column.type) ::
    writeLine ("" :: t.columns.map Column.name) :: t.rows.map fun row => writeLine ("" :: row)

/-- All that is written in the cells of a table. -/
def texts : List String :=
  t.columns.map Column.type ++ t.columns.map Column.name ++ t.rows.flatten

end Table

/-- The text of several tables, with a blank line between them. -/
def document (returns : Bool) (ts : List Table) : String :=
  endedLines returns ([[]].intercalate (ts.map Table.lines))

/-! ## Columns by their names -/

/-- The last column of a name. -/
theorem columnOf_map {α : Type} (name : String) (f : α → String) (xs : List α) :
    (columnOf (xs.map f) name).bind (xs[·]?) = xs.reverse.find? (f · == name) := by
  rw [List.find?_eq_bind_findIdx?_getElem?, columnOf, List.idxOf?, ← List.map_reverse,
    List.findIdx?_map, List.length_map]
  show (Option.map _ (List.findIdx? (f · == name) xs.reverse)).bind _ = _
  cases h : List.findIdx? (f · == name) xs.reverse with
  | none => rfl
  | some i =>
    obtain ⟨hi, -⟩ := List.findIdx?_eq_some_iff_getElem.mp h
    exact (List.getElem?_reverse (by simpa using hi)).symm

theorem columnOf_eq_none_iff {names : List String} {name : String} :
    columnOf names name = none ↔ name ∉ names := by
  rw [columnOf, Option.map_eq_none_iff, List.idxOf?_eq_none_iff, List.mem_reverse]

/-- The point of a line, by the columns with their cells. -/
theorem readPoint?_map (xs : List (Column × String)) :
    readPoint? (xs.map (·.1.type)) (xs.map (·.1.name)) (xs.map (·.2)) = (do
      let (_, time) ← xs.reverse.find? (·.1.name == "_time")
      let (c, text) ← xs.reverse.find? (·.1.name == "_value")
      let value ← readValue? c.type text
      return ⟨(Timestamp.wholeSeconds? time).getD time, value⟩) := by
  simp only [← columnOf_map, readPoint?]
  cases columnOf (xs.map (·.1.name)) "_time" with
  | none => rfl
  | some i =>
    cases columnOf (xs.map (·.1.name)) "_value" with
    | none => simp
    | some j =>
      cases hi : xs[i]? with
      | none => simp [hi]
      | some x =>
        cases hj : xs[j]? with
        | none => simp [hi, hj]
        | some y => simp [hi, hj]

/-! ## Line by line -/

theorem readLines_append_blank (layout : Layout) (s : TimeSeries)
    (lines rest : List (List Char)) :
    readLines layout s (lines ++ [] :: rest) =
      readLines layout s lines >>= fun s => readLines .unknown s rest := by
  induction lines generalizing layout s with
  | nil => rfl
  | cons line lines ih =>
    rw [List.cons_append, readLines, readLines]
    cases readLine layout s line with
    | error e => rfl
    | ok x => exact ih x.1 x.2

theorem writeCell_typesMark (rest : List Char) :
    writeCell "#datatype" ++ ',' :: rest = typesMark ++ rest := by
  have hmark : typesMark = writeCell "#datatype" ++ [','] := by decide
  rw [hmark, List.append_assoc, List.singleton_append]

/-- A line of types forgets the names. -/
theorem readLine_types (layout : Layout) (s : TimeSeries) {types : List String} (h : types ≠ []) :
    readLine layout s (writeLine ("#datatype" :: types)) = .ok (⟨"" :: types, none⟩, s) := by
  have hblank : ¬ (typesMark ++ writeLine types).all Text.isBlank = true := by
    have hmark : typesMark.all Text.isBlank = false := by decide
    simp only [List.all_append, hmark, Bool.false_and, Bool.false_eq_true, not_false_iff]
  have hmark : typesMark.isPrefixOf (typesMark ++ writeLine types) = true :=
    List.isPrefixOf_iff_prefix.mpr (List.prefix_append _ _)
  rw [writeLine_cons _ h, writeCell_typesMark, readLine, if_neg hblank, if_pos hmark,
    List.drop_left, splitCells_writeLine h]

/-- A line whose first cell is empty is neither blank nor an annotation. -/
theorem commaLine (rest : List Char) : ¬ (',' :: rest).all Text.isBlank = true ∧
    ¬ typesMark.isPrefixOf (',' :: rest) = true ∧ ¬ (',' :: rest).head? = some '#' := by
  have hcomma : Text.isBlank ',' = false := by decide
  refine ⟨?_, ?_, by simp⟩
  · simp only [List.all_cons, hcomma, Bool.false_and, Bool.false_eq_true, not_false_iff]
  · rw [List.isPrefixOf_iff_prefix, show typesMark = '#' :: typesMark.tail by decide,
      List.cons_prefix_cons]
    simp

theorem writeLine_empty {cells : List String} (h : cells ≠ []) :
    writeLine ("" :: cells) = ',' :: writeLine cells := writeLine_cons "" h

/-- A line whose first cell is empty is read for its cells: they are the names of a table whose
names are not known yet, and else a row. -/
theorem readLine_cells (layout : Layout) (s : TimeSeries) {cells : List String} (h : cells ≠ []) :
    readLine layout s (writeLine ("" :: cells)) =
      layout.names.elim (.ok (⟨layout.types, some ("" :: cells)⟩, s)) fun names =>
        (readRow layout.types names ("" :: cells) s).map (layout, ·) := by
  have hsplit := splitCells_writeLine (List.cons_ne_nil "" cells)
  rw [writeLine_empty h] at hsplit ⊢
  obtain ⟨hblank, hmark, hhead⟩ := commaLine (writeLine cells)
  cases hnames : layout.names with
  | none => simp only [readLine, if_neg hblank, if_neg hmark, if_neg hhead, hsplit, hnames,
      Option.elim_none]
  | some names => simp only [readLine, if_neg hblank, if_neg hmark, if_neg hhead, hsplit, hnames,
      Option.elim_some]

theorem readLine_names (types : List String) (s : TimeSeries) {cells : List String}
    (h : cells ≠ []) :
    readLine ⟨types, none⟩ s (writeLine ("" :: cells)) = .ok (⟨types, some ("" :: cells)⟩, s) :=
  readLine_cells ⟨types, none⟩ s h

theorem readLine_row (types names : List String) (s : TimeSeries) {cells : List String}
    (h : cells ≠ []) :
    readLine ⟨types, some names⟩ s (writeLine ("" :: cells)) =
      (readRow types names ("" :: cells) s).map (⟨types, some names⟩, ·) :=
  readLine_cells ⟨types, some names⟩ s h

/-! ## Table by table -/

theorem Column.number?_eq (c : Column) (text : String) :
    c.number? text = readValue? c.type text := by
  unfold number? readValue?
  split
  · next h => simp [h]
  · next hdouble =>
    split
    · next h => simp [h]
    · next hlong => simp [hdouble, hlong]

/-- A column holds a number in the cells that read as a value of its type. -/
theorem Column.isSome_number?_iff {c : Column} {text : String} : (c.number? text).isSome ↔
    c.type = "double" ∧ (readFloat? text).isSome ∨ c.type = "long" ∧ (readInt64? text).isSome := by
  unfold number?
  split
  · next hdouble => simp [hdouble]
  · next hdouble =>
    split
    · next hlong => simp [hlong]
    · next hlong => simp [hdouble, hlong]

namespace Table

variable {t : Table} {row : List String}

theorem columns_ne_nil (t : Table) : t.columns ≠ [] := by
  obtain ⟨c, hc, -⟩ := t.timed
  exact List.ne_nil_of_mem hc

theorem map_fst_zip_row (h : row ∈ t.rows) : (t.columns.zip row).map Prod.fst = t.columns :=
  List.map_fst_zip (Nat.le_of_eq (t.filled row h).symm)

theorem map_zip_row (h : row ∈ t.rows) (f : Column → String) :
    (t.columns.zip row).map (fun x => f x.1) = t.columns.map f := by
  have hfst := congrArg (List.map f) (map_fst_zip_row h)
  rwa [List.map_map] at hfst

theorem map_snd_zip_row (h : row ∈ t.rows) : (t.columns.zip row).map Prod.snd = row :=
  List.map_snd_zip (Nat.le_of_eq (t.filled row h))

/-- In every column that a table has, each of its rows has a cell. -/
theorem exists_cell? (h : row ∈ t.rows) {name : String} (hname : ∃ c ∈ t.columns, c.name = name) :
    ∃ c text, t.cell? row name = some (c, text) := by
  obtain ⟨c, hc, rfl⟩ := hname
  rw [← map_fst_zip_row h] at hc
  obtain ⟨x, hx, rfl⟩ := List.mem_map.mp hc
  have hfound : (t.cell? row x.1.name).isSome :=
    List.find?_isSome.mpr ⟨x, List.mem_reverse.mpr hx, by simp⟩
  obtain ⟨y, hy⟩ := Option.isSome_iff_exists.mp hfound
  exact ⟨y.1, y.2, hy⟩

/-- A row has a point exactly if its value is a number. -/
theorem isSome_point?_iff (h : row ∈ t.rows) : (t.point? row).isSome ↔
    ∃ c text, t.cell? row "_value" = some (c, text) ∧
      (c.type = "double" ∧ (readFloat? text).isSome ∨
        c.type = "long" ∧ (readInt64? text).isSome) := by
  obtain ⟨column, time, htime⟩ := exists_cell? h t.timed
  obtain ⟨c, text, hvalue⟩ := exists_cell? h t.valued
  have hpoint : (t.point? row).isSome = (c.number? text).isSome := by
    cases hnumber : c.number? text with
    | none => simp [point?, htime, hvalue, hnumber]
    | some x => simp [point?, htime, hvalue, hnumber]
  rw [hpoint, Column.isSome_number?_iff]
  simp [hvalue]

/-- What is known of a table when its rows are read. The leading cell of its lines is a column
without a name. -/
def layout (t : Table) : Layout :=
  ⟨"" :: t.columns.map Column.type, some ("" :: t.columns.map Column.name)⟩

/-- The leading cell is in no column that is looked for. -/
theorem find?_leading {name : String} (hname : name ≠ "") :
    ((⟨"", ""⟩, "") :: t.columns.zip row).reverse.find? (·.1.name == name) =
      t.cell? row name := by
  have hleading : ¬ ("" == name) = true := by simpa using hname.symm
  rw [List.reverse_cons, List.find?_append, List.find?_singleton, if_neg hleading, Option.or_none,
    cell?]

theorem readRow_row (h : row ∈ t.rows) (s : TimeSeries) :
    readRow ("" :: t.columns.map Column.type) ("" :: t.columns.map Column.name) ("" :: row) s =
      .ok (s.append (.ofPoints (t.point? row).toList)) := by
  have herror : columnOf ("" :: t.columns.map Column.name) "error" = none := by
    rw [columnOf_eq_none_iff]
    intro hmem
    obtain hempty | hmem := List.mem_cons.mp hmem
    · exact absurd hempty (by decide)
    · obtain ⟨c, hc, hname⟩ := List.mem_map.mp hmem
      exact t.sound c hc hname
  have hpoint := readPoint?_map ((⟨"", ""⟩, "") :: t.columns.zip row)
  rw [List.map_cons, List.map_cons, List.map_cons, map_zip_row h, map_zip_row h, map_snd_zip_row h,
    find?_leading (by decide), find?_leading (by decide)] at hpoint
  have hpoint : readPoint? ("" :: t.columns.map Column.type) ("" :: t.columns.map Column.name)
      ("" :: row) = t.point? row := by
    simp only [hpoint, point?, Column.number?_eq]
  simp only [readRow, herror, hpoint]
  cases t.point? row with
  | none => rw [Option.toList_none, TimeSeries.append_nil]
  | some p => rw [Option.toList_some, ← TimeSeries.push_eq]

theorem readLines_rows (rows : List (List String)) (h : ∀ row ∈ rows, row ∈ t.rows)
    (s : TimeSeries) :
    readLines t.layout s (rows.map fun row => writeLine ("" :: row)) =
      .ok (s.append (.ofPoints (rows.filterMap t.point?))) := by
  induction rows generalizing s with
  | nil => exact congrArg Except.ok s.append_nil.symm
  | cons row rows ih =>
    have hrow := h row (.head _)
    have hcells : row ≠ [] := by
      rw [← List.length_pos_iff, t.filled row hrow, List.length_pos_iff]
      exact t.columns_ne_nil
    have hpoints : (row :: rows).filterMap t.point? =
        (t.point? row).toList ++ rows.filterMap t.point? := by
      cases hpoint : t.point? row with
      | none => rw [List.filterMap_cons_none hpoint]; rfl
      | some p => rw [List.filterMap_cons_some hpoint]; rfl
    rw [List.map_cons, readLines, layout, readLine_row _ _ _ hcells, readRow_row hrow, hpoints,
      TimeSeries.ofPoints_append, ← TimeSeries.append_assoc]
    exact ih (fun row' hrow' => h row' (.tail _ hrow')) _

/-- The points of a table are read, whatever was known before. -/
theorem readLines_lines (t : Table) (layout : Layout) (s : TimeSeries) :
    readLines layout s t.lines = .ok (s.append (.ofPoints t.points)) := by
  have hcolumns := t.columns_ne_nil
  rw [lines, readLines, readLine_types _ _ (by simpa using hcolumns)]
  show readLines ⟨_, none⟩ s (_ :: _) = _
  rw [readLines, readLine_names _ _ (by simpa using hcolumns)]
  exact readLines_rows t.rows (fun row hrow => hrow) s

end Table

/-! ## Several tables -/

/-- The tables of a text are read one after the other. -/
theorem readLines_tables (ts : List Table) (s : TimeSeries) :
    readLines .unknown s ([[]].intercalate (ts.map Table.lines)) =
      .ok (s.append (.ofPoints (ts.flatMap Table.points))) := by
  induction ts generalizing s with
  | nil => exact congrArg Except.ok s.append_nil.symm
  | cons t ts ih =>
    cases ts with
    | nil =>
      rw [List.map_cons, List.map_nil, List.intercalate_singleton, t.readLines_lines,
        List.flatMap_cons, List.flatMap_nil, List.append_nil]
    | cons t' ts =>
      rw [List.map_cons, List.map_cons, List.intercalate_cons_cons, List.append_assoc,
        List.singleton_append, readLines_append_blank, t.readLines_lines, ← List.map_cons,
        List.flatMap_cons, TimeSeries.ofPoints_append, ← TimeSeries.append_assoc]
      exact ih _

theorem forall_mem_intercalate {α : Type} {P : α → Prop} {sep : List α} {xs : List (List α)}
    (hsep : ∀ a ∈ sep, P a) (h : ∀ x ∈ xs, ∀ a ∈ x, P a) : ∀ a ∈ sep.intercalate xs, P a := by
  induction xs with
  | nil => simp
  | cons x xs ih =>
    have hx := h x (.head _)
    specialize ih fun y hy => h y (.tail _ hy)
    cases xs with
    | nil => rwa [List.intercalate_singleton]
    | cons y xs =>
      intro a ha
      rw [List.intercalate_cons_cons, List.mem_append, List.mem_append] at ha
      obtain (ha | ha) | ha := ha
      · exact hx a ha
      · exact hsep a ha
      · exact ih a ha

/-- A table without a line feed is written in whole lines. -/
theorem Table.isLine_lines {t : Table} (h : ∀ text ∈ t.texts, '\n' ∉ text.toList) :
    ∀ line ∈ t.lines, IsLine line := by
  have htexts : ∀ (first : String) (cells : List String), '\n' ∉ first.toList →
      (∀ cell ∈ cells, cell ∈ t.texts) → IsLine (writeLine (first :: cells)) := by
    intro first cells hfirst hcells
    refine isLine_writeLine fun cell hcell => ?_
    obtain rfl | hcell := List.mem_cons.mp hcell
    · exact hfirst
    · exact h cell (hcells cell hcell)
  intro line hline
  rw [lines, List.mem_cons, List.mem_cons, List.mem_map] at hline
  obtain rfl | rfl | ⟨row, hrow, rfl⟩ := hline
  · exact htexts _ _ (by decide) fun cell hcell => by simp [texts, hcell]
  · exact htexts _ _ (by decide) fun cell hcell => by simp [texts, hcell]
  · exact htexts _ _ (by decide) fun cell hcell =>
      List.mem_append_right _ (List.mem_flatten_of_mem hrow hcell)

/-- However the lines end, and whatever else is in the cells: a text in whose cells no line feed
stands has one point for each row whose value is a number, in their order, and no other point. -/
theorem readSeries_document (returns : Bool) {ts : List Table}
    (h : ∀ t ∈ ts, ∀ text ∈ t.texts, '\n' ∉ text.toList) :
    readSeries (document returns ts) =
        .ok (.ofPoints (ts.flatMap fun t => t.rows.filterMap t.point?)) ∧
      ∀ t ∈ ts, ∀ row ∈ t.rows, (t.point? row).isSome ↔
        ∃ c text, t.cell? row "_value" = some (c, text) ∧
          (c.type = "double" ∧ (readFloat? text).isSome ∨
            c.type = "long" ∧ (readInt64? text).isSome) := by
  refine ⟨?_, fun t _ row hrow => Table.isSome_point?_iff hrow⟩
  have hlines : ∀ line ∈ [[]].intercalate (ts.map Table.lines), IsLine line := by
    refine forall_mem_intercalate (by simpa using isLine_nil) fun lines hmem => ?_
    obtain ⟨t, ht, rfl⟩ := List.mem_map.mp hmem
    exact Table.isLine_lines (h t ht)
  rw [readSeries, document, textLines_endedLines hlines, readLines_tables]
  rfl

/-- The temperature of a device whose name holds all that a line is cut by but a line feed. -/
def airTable : Table where
  columns := [⟨"dateTime:RFC3339", "_time"⟩, ⟨"string", "deviceName"⟩, ⟨"double", "_value"⟩]
  rows := [["2024-05-01T10:00:00.123Z", "left, \"#datatype,\"\r", "21.5"],
    ["2024-05-01T10:00:01Z", "left, \"#datatype,\"\r", ""]]
  timed := by decide
  valued := by decide
  sound := by decide
  filled := by decide

/-- A table of integers, in which the value stands first. -/
def pulseTable : Table where
  columns := [⟨"long", "_value"⟩, ⟨"dateTime:RFC3339", "_time"⟩]
  rows := [["87", "2024-05-01T10:00:02Z"]]
  timed := by decide
  valued := by decide
  sound := by decide
  filled := by decide

/-- Commas, double quotes and returns in a cell cost no point. -/
theorem readSeries_document_air :
    (∀ t ∈ [airTable, pulseTable], ∀ text ∈ t.texts, '\n' ∉ text.toList) ∧
    readSeries (document true [airTable, pulseTable]) = .ok
      ⟨["2024-05-01T10:00:00Z", "2024-05-01T10:00:02Z"], [.ofRatio false 43 2, .ofInt 87]⟩ := by
  have h : ∀ t ∈ [airTable, pulseTable], ∀ text ∈ t.texts, '\n' ∉ text.toList := by decide
  refine ⟨h, ?_⟩
  rw [(readSeries_document true h).1]
  decide +kernel

/-- The temperature of a device whose name has two lines. -/
def brokenTable : Table where
  columns := airTable.columns
  rows := [["2024-05-01T10:00:00Z", "left\nright", "21.5"]]
  timed := by decide
  valued := by decide
  sound := by decide
  filled := by decide

/-- A line feed in a cell costs the point of its row: a text is cut into lines before anybody looks
for double quotes. -/
theorem readSeries_broken :
    document false [brokenTable] =
      "#datatype,dateTime:RFC3339,string,double\n,_time,deviceName,_value\n" ++
        ",2024-05-01T10:00:00Z,\"left\nright\",21.5\n" ∧
    brokenTable.points = [⟨"2024-05-01T10:00:00Z", .ofRatio false 43 2⟩] ∧
    readSeries (document false [brokenTable]) = .ok .empty := by
  decide +kernel

end Csv

end Telemetry
