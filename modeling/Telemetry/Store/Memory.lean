import Telemetry.Store.Request

/-!
# Documents in memory

* `MemoryStore`: every collection is a map from ids to documents.
* `MemoryStore.perform`: the answer to a request, and the store after it. A refused request leaves
  the store as it was.
-/

namespace Telemetry

/-- The documents of every collection by id. -/
abbrev MemoryStore := Entries (Entries Document)

namespace MemoryStore

/-- The documents of a collection. -/
def documents (s : MemoryStore) (collection : String) : Entries Document :=
  (Entries.get? s collection).getD []

/-- The documents of a collection that a filter accepts. -/
def select (s : MemoryStore) (f : Filter) (collection : String) : List Document :=
  ((s.documents collection).map (·.2)).filter f.accepts

/-- Store a document under its own id, or under the fresh one if it has none. -/
def insert (s : MemoryStore) (fresh : ObjectId) (d : Document) (collection : String) :
    Except StoreError String × MemoryStore :=
  match d.identified fresh with
  | .error e => (.error e, s)
  | .ok (id, d) =>
    let ds := s.documents collection
    if ds.contains id then (.error (.duplicate id), s)
    else (.ok id, Entries.insert s collection (ds.insert id d))

/-- Put a document in the place of the first one that the filter accepts. -/
def replace (s : MemoryStore) (f : Filter) (d : Document) (collection : String) :
    Nat × MemoryStore :=
  let ds := s.documents collection
  match ds.find? (fun e => f.accepts e.2) with
  | none => (0, s)
  | some (id, existing) =>
    let d := d.withId id
    if existing.same d then (0, s) else (1, Entries.insert s collection (ds.insert id d))

/-- The answer to a request, and the store after it. -/
def perform (s : MemoryStore) (fresh : ObjectId) : (r : StoreRequest) → r.Answer × MemoryStore
  | .select f c => (Except.ok (s.select f c), s)
  | .insert d c => s.insert fresh d c
  | .replace f d c => let (n, s) := s.replace f d c; (Except.ok n, s)

end MemoryStore

end Telemetry
