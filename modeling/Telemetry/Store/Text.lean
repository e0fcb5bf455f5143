import Telemetry.Store.Keyed

/-!
# The file of a document store

* `KeyedStore.toText`: the tables of a store as the text of a file: a line that tells what the file
  is, and a JSON object with the rows of each table.
* `KeyedStore.ofText?`: the tables of such a text.
-/

namespace Telemetry

/-- The line that every file of a store starts with. -/
def storeMark : String := "telemetry documents 1\n"

namespace Table

/-- The rows of a table; a table of another kind is null. -/
def toJson : Table → Json
  | documents rows => .object (rows.map fun r => (r.1, .text r.2))
  | foreign => .null

/-- A row of a table. -/
def row? (entry : String × Json) : Option (String × String) := entry.2.text?.map (entry.1, ·)

/-- The table of a value. -/
def ofJson? : Json → Option Table
  | .object rows => (rows.mapM row?).map documents
  | .null => some foreign
  | _ => none

end Table

namespace KeyedStore

/-- The text of a store. -/
def toText (s : KeyedStore) : String :=
  storeMark ++ (Json.object (s.map fun t => (t.1, t.2.toJson))).compact

/-- A table of a store. -/
def table? (entry : String × Json) : Option (String × Table) :=
  (Table.ofJson? entry.2).map (entry.1, ·)

/-- The store of a text. -/
def ofText? (text : String) : Option KeyedStore :=
  if storeMark.toList.isPrefixOf text.toList then
    match Json.readObject (String.ofList (text.toList.drop storeMark.length)) with
    | .ok tables => tables.mapM table?
    | .error _ => none
  else none

end KeyedStore

end Telemetry
