import Telemetry.Error
import Telemetry.Series.Timestamp
import Telemetry.Text.Blank

/-!
# Series from annotated tables

The answer to a query is one table after the other. A table has a line with the types of its
columns, a line with their names and a line for each point; a blank line ends it.

* `Csv.splitCells`: the cells of a line. Between double quotes a comma is a part of the cell, and
  two quotes stand for one.
* `Csv.readSeries`: the points of all tables. Only floats and integers are kept, and the message of
  a table of errors is the error of the whole.
-/

namespace Telemetry

/-- One value of a series and its time. -/
structure Point where
  timestamp : String
  value : Binary64
  deriving DecidableEq

/-- The points of a series in the order in which they were read, as two lists side by side. -/
structure TimeSeries where
  timestamps : List String
  values : List Binary64
  deriving DecidableEq

namespace TimeSeries

def empty : TimeSeries := ⟨[], []⟩

/-- The series with one more point at its end. -/
def push (s : TimeSeries) (timestamp : String) (value : Binary64) : TimeSeries :=
  ⟨s.timestamps ++ [timestamp], s.values ++ [value]⟩

/-- The number of points. -/
def length (s : TimeSeries) : Nat := s.values.length

def isEmpty (s : TimeSeries) : Bool := s.values.isEmpty

end TimeSeries

namespace Csv

/-- The cells of the rest of a line, where `cell` holds the present cell in reverse. -/
def cellsFrom (quoted : Bool) (cell : List Char) : List Char → List String
  | [] => [String.ofList cell.reverse]
  | '"' :: rest =>
    match quoted, rest with
    | true, '"' :: rest => cellsFrom true ('"' :: cell) rest
    | _, rest => cellsFrom (!quoted) cell rest
  | c :: rest =>
    if c = ',' && !quoted then String.ofList cell.reverse :: cellsFrom quoted [] rest
    else cellsFrom quoted (c :: cell) rest

/-- The cells of a line. -/
def splitCells (line : List Char) : List String := cellsFrom false [] line

/-- The lines of a text: each ends at a line break, and one at the end of the text starts no line.
-/
def linesFrom (line : List Char) : List Char → List (List Char)
  | [] => if line.isEmpty then [] else [line.reverse]
  | c :: cs => if c = '\n' then line.reverse :: linesFrom [] cs else linesFrom (c :: line) cs

/-- The lines of a text, without the returns at their ends. -/
def textLines (s : String) : List (List Char) :=
  (linesFrom [] s.toList).map (Text.dropEndWhile (· = '\r'))

/-- What is known of the present table: the types of its columns, and their names once they have
been read. -/
structure Layout where
  types : List String
  names : Option (List String)
  deriving DecidableEq

/-- Nothing is known between two tables. -/
def Layout.unknown : Layout := ⟨[], none⟩

/-- The column of a name: the last one, if several have it. -/
def columnOf (names : List String) (name : String) : Option Nat :=
  (names.reverse.idxOf? name).map fun i => names.length - 1 - i

/-- What starts the line of the column types. -/
def typesMark : List Char := "#datatype,".toList

/-- A value of a column, by the type of the column. -/
def readValue? (type : Option String) (text : String) : Option Binary64 :=
  match type with
  | some "double" => readFloat? text
  | some "long" => (readInt64? text).map Binary64.ofInt
  | _ => none

/-- The point of a line of cells, if it has one. -/
def readPoint? (types names cells : List String) : Option Point := do
  let timeColumn ← columnOf names "_time"
  let valueColumn ← columnOf names "_value"
  let time ← cells[timeColumn]?
  let text ← cells[valueColumn]?
  let value ← readValue? types[valueColumn]? text
  return ⟨(Timestamp.wholeSeconds? time).getD time, value⟩

/-- A line of cells of a table adds its point to the series, if it has one; in a table of errors it
holds the error. -/
def readRow (types names cells : List String) (series : TimeSeries) : Except Error TimeSeries :=
  match columnOf names "error" with
  | some i => .error (.remote 200 (cells[i]?.getD ""))
  | none =>
    match readPoint? types names cells with
    | some p => .ok (series.push p.timestamp p.value)
    | none => .ok series

/-- What one line does to what is known and to the series. -/
def readLine (layout : Layout) (series : TimeSeries) (line : List Char) :
    Except Error (Layout × TimeSeries) :=
  if line.all Text.isBlank then .ok (.unknown, series)
  else if typesMark.isPrefixOf line then
    .ok (⟨"" :: splitCells (line.drop typesMark.length), none⟩, series)
  else if line.head? = some '#' then .ok (layout, series)
  else
    let cells := splitCells line
    match layout.names with
    | none => .ok (⟨layout.types, some cells⟩, series)
    | some names => (readRow layout.types names cells series).map (layout, ·)

/-- The series after the lines that follow what is known and what has been read. -/
def readLines (layout : Layout) (series : TimeSeries) : List (List Char) → Except Error TimeSeries
  | [] => .ok series
  | line :: lines => do
    let (layout, series) ← readLine layout series line
    readLines layout series lines

/-- The series of all tables of an answer. -/
def readSeries (body : String) : Except Error TimeSeries :=
  readLines .unknown .empty (textLines body)

end Csv

end Telemetry
