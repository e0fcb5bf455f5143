import Telemetry.File
import Telemetry.Store.Request

/-!
# Documents as texts in keyed tables

A persistent store keeps each document as JSON text in a table for each collection, under its id.
Tables iterate in the order of their keys. A table may hold texts that are no documents, and a file
may hold tables of another kind.

* `KeyedStore`: the tables by name.
* `KeyedStore.perform`: the answer to a request, and the store after it.
* `EngineStage`: how the faults of the table engine are worded.
-/

namespace Telemetry

/-- What the table engine was doing when it failed. -/
inductive EngineStage where
  | working
  | transaction
  | table
  | reading
  | committing
  | opening
  deriving DecidableEq

/-- The engine's name for a stage. -/
def EngineStage.title : EngineStage → String
  | working => "Redb error: "
  | transaction => "Redb transaction error: "
  | table => "Redb table error: "
  | reading => "Redb storage error: "
  | committing => "Redb commit error: "
  | opening => "Redb database error: "

/-- A fault of the table engine as an error of the store. -/
def StoreError.ofEngine (stage : EngineStage) (text : String) : StoreError :=
  .storage (stage.title ++ text)

/-- The file is there, but no engine wrote it. -/
def StoreError.noStore : StoreError := .ofEngine .opening "I/O error: invalid data"

/-- The file is in use already. -/
def StoreError.alreadyOpen : StoreError :=
  .ofEngine .opening "Database already open. Cannot acquire lock."

/-- The file cannot be opened. -/
def StoreError.unopened (fault : FileFault) : StoreError :=
  .ofEngine .opening ("I/O error: " ++ fault.message)

/-- A table: the texts of documents by key, or values of another kind. -/
inductive Table where
  | documents (rows : Entries String)
  | foreign

/-- The tables of a file by name. -/
abbrev KeyedStore := Entries Table

namespace KeyedStore

/-- The fault of a table whose values are of another kind. -/
def foreignTable (name : String) : StoreError :=
  .ofEngine .table (name ++ " is of type Table<&str, &str>")

/-- The document that a stored text writes. -/
def decode (text : String) : Except StoreError Document :=
  match Json.readObject text with
  | .ok d => .ok d
  | .error fault => .error (.serialization fault.message)

/-- The text a document is stored as. -/
def encode (d : Document) : String := (Json.object d).compact

/-- The rows of a table; a table that is not there has none. -/
def rows (s : KeyedStore) (name : String) : Except StoreError (Entries String) :=
  match Entries.get? s name with
  | none => .ok []
  | some (.documents rows) => .ok rows
  | some .foreign => .error (foreignTable name)

/-- Every document of the rows that a filter accepts; one unreadable text fails them all. -/
def scan (f : Filter) : Entries String → Except StoreError (List Document)
  | [] => .ok []
  | (_, text) :: rows => do
    let d ← decode text
    let ds ← scan f rows
    return if f.accepts d then d :: ds else ds

/-- The documents that a filter accepts. A filter that pins an id looks only at that key. -/
def select (s : KeyedStore) (f : Filter) (name : String) : Except StoreError (List Document) := do
  let rows ← s.rows name
  match f.pinned with
  | none => scan f rows
  | some id =>
    match rows.get? id with
    | none => return []
    | some text =>
      let d ← decode text
      return if f.accepts d then [d] else []

/-- Store the text of a document under its own id, or under the fresh one if it has none. -/
def insert (s : KeyedStore) (fresh : ObjectId) (d : Document) (name : String) :
    Except StoreError String × KeyedStore :=
  let outcome : Except StoreError (String × KeyedStore) := do
    let (id, d) ← d.identified fresh
    let rows ← s.rows name
    if rows.contains id then throw (.duplicate id)
    return (id, Entries.insert s name (.documents (rows.insert id (encode d))))
  match outcome with
  | .ok (id, s) => (.ok id, s)
  | .error e => (.error e, s)

/-- The first row whose document the filter accepts; the rows before it have to be readable. -/
def firstAccepted (f : Filter) : Entries String → Except StoreError (Option (String × Document))
  | [] => .ok none
  | (id, text) :: rows => do
    let d ← decode text
    if f.accepts d then return some (id, d) else firstAccepted f rows

/-- Put a document in the place of the first one that the filter accepts. The table is there
afterwards, changed or not. -/
def replace (s : KeyedStore) (f : Filter) (d : Document) (name : String) :
    Except StoreError Nat × KeyedStore :=
  let outcome : Except StoreError (Nat × KeyedStore) := do
    let rows ← s.rows name
    match ← firstAccepted f rows with
    | none => return (0, Entries.insert s name (.documents rows))
    | some (id, existing) =>
      let d := d.withId id
      if existing.same d then return (0, s)
      else return (1, Entries.insert s name (.documents (rows.insert id (encode d))))
  match outcome with
  | .ok (n, s) => (.ok n, s)
  | .error e => (.error e, s)

/-- The answer to a request, and the store after it. -/
def perform (s : KeyedStore) (fresh : ObjectId) : (r : StoreRequest) → r.Answer × KeyedStore
  | .select f c => (s.select f c, s)
  | .insert d c => s.insert fresh d c
  | .replace f d c => s.replace f d c

end KeyedStore

end Telemetry
