import Telemetry.ObjectId

/-!
# Documents and filters

A document is a JSON object that is stored under the id in its key `_id`.

* `Document.same`: equality of documents.
* `Document.suppliedId`: the id that a document brings with it.
* `Filter.accepts`: a document holds every value the filter asks for.
* `Filter.pinned`: the id that a filter asks for.
-/

namespace Telemetry

/-- A JSON object to be stored. -/
abbrev Document := Entries Json

/-- The key of a document's id. -/
def idKey : String := "_id"

/-- Why a store refused an operation. -/
inductive StoreError where
  | io (text : String)
  | serialization (text : String)
  | storage (text : String)
  | malformedId (id reason : String)
  | duplicate (id : String)
  | invalidDocument (text : String)
  deriving DecidableEq

namespace StoreError

/-- The wording of a store's error. -/
def message : StoreError → String
  | io text => "IO error: " ++ text
  | serialization text => "Serialization error: " ++ text
  | storage text => "Storage error: " ++ text
  | malformedId id reason => Error.malformedMessage id reason
  | duplicate id => "Duplicate id: " ++ id
  | invalidDocument text => "Invalid document: " ++ text

/-- A store's error as an error of the operation that used the store. -/
def toError : StoreError → Error
  | io text => .storage text
  | serialization text => .serialization text
  | storage text => .storage text
  | malformedId id reason => .malformedId id reason
  | duplicate id => .storage ("duplicate id " ++ id)
  | invalidDocument text => .invalidDocument text

end StoreError

namespace Document

/-- Equality of documents. -/
def same (d e : Document) : Bool := Json.sameMembers d e

/-- The text under the id key. -/
def id? (d : Document) : Option String := (d.get? idKey).bind Json.text?

/-- The document with this id. -/
def withId (d : Document) (id : String) : Document := d.insert idKey (.text id)

/-- The id that a document brings with it, if any. -/
def suppliedId (d : Document) : Except StoreError (Option ObjectId) :=
  match d.get? idKey with
  | none => .ok none
  | some (.text s) =>
    match ObjectId.parse s with
    | .ok x => .ok (some x)
    | .error fault => .error (.malformedId s fault.reason)
  | some v => .error (.invalidDocument (idKey ++ " must be a string, got " ++ v.compact))

/-- The document under its id in lowercase digits; one that brings no id gets the fresh one. -/
def identified (d : Document) (fresh : ObjectId) : Except StoreError (String × Document) := do
  let id := ((← d.suppliedId).getD fresh).toHex
  return (id, d.withId id)

end Document

/-- What a document has to hold: a value for each of these keys. -/
structure Filter where
  conditions : List (String × Json)

namespace Filter

/-- The filter that every document passes. -/
def all : Filter := ⟨[]⟩

/-- The filter for one id. -/
def byId (x : ObjectId) : Filter := ⟨[(idKey, .text x.toHex)]⟩

/-- A document holds the value of a condition. -/
def holds (d : Document) (condition : String × Json) : Bool :=
  match d.get? condition.1 with
  | some v => v.same condition.2
  | none => false

/-- A document meets every condition. -/
def accepts (f : Filter) (d : Document) : Bool := f.conditions.all (holds d)

/-- The id that the first condition on the id key asks for, if it asks for a text. -/
def pinned (f : Filter) : Option String :=
  (f.conditions.find? (·.1 == idKey)).bind (·.2.text?)

end Filter

end Telemetry
