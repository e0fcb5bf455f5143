import Telemetry.Document

/-!
# What a document store does

A store keeps documents in named collections. Requests are data, so that one sequence of them can be
put to two stores.

* `StoreRequest`: select, insert and replace; `StoreRequest.Answer` is what each is answered with.
-/

namespace Telemetry

/-- A request to a document store. -/
inductive StoreRequest where
  /-- The documents that a filter accepts, in the order of their ids. -/
  | select (filter : Filter) (collection : String)
  /-- Store a new document; the answer is its id. -/
  | insert (document : Document) (collection : String)
  /-- Put a document in the place of the first one that a filter accepts, under the same id; the
  answer is the number of documents changed. -/
  | replace (filter : Filter) (document : Document) (collection : String)

/-- What a request is answered with. -/
def StoreRequest.Answer : StoreRequest → Type
  | select .. => Except StoreError (List Document)
  | insert .. => Except StoreError String
  | replace .. => Except StoreError Nat

/-- Collection names. -/
def Collection.sensors : String := "configurations"

def Collection.experiments : String := "experiments"

end Telemetry
