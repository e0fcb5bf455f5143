import Telemetry.Series.Csv
import Telemetry.Series.Query
import Telemetry.Store.Request
import Telemetry.Sync.Step

/-!
# What operations ask of their surroundings

* `OperationStep`: a request to the document store, a query to the series store, or a step of a
  sync.
* `Operation`: a computation that asks such questions and may fail.
-/

namespace Telemetry

/-- What an operation asks of its surroundings. -/
inductive OperationStep where
  | store (r : StoreRequest)
  | series (q : SeriesQuery)
  | sync (s : SyncStep)

/-- What a step is answered with. -/
def OperationStep.Answer : OperationStep → Type
  | store r => r.Answer
  | series _ => Except Error TimeSeries
  | sync s => s.Answer

/-- A computation that asks the stores and the broker. -/
abbrev OperationDialogue := Dialogue OperationStep OperationStep.Answer

/-- A computation that may fail. -/
abbrev Operation := ExceptT Error OperationDialogue

namespace Operation

/-- The documents that a filter accepts. -/
def select (f : Filter) (collection : String) : Operation (List Document) :=
  let reply : OperationDialogue (Except StoreError (List Document)) :=
    .question (OperationStep.store (.select f collection))
  ExceptT.mk ((·.mapError StoreError.toError) <$> reply)

/-- Store a new document and give its id. -/
def insert (d : Document) (collection : String) : Operation String :=
  let reply : OperationDialogue (Except StoreError String) :=
    .question (OperationStep.store (.insert d collection))
  ExceptT.mk ((·.mapError StoreError.toError) <$> reply)

/-- Put a document in the place of the one with this id; whether anything changed. -/
def replace (x : ObjectId) (d : Document) (collection : String) : Operation Bool :=
  let reply : OperationDialogue (Except StoreError Nat) :=
    .question (OperationStep.store (.replace (.byId x) d collection))
  ExceptT.mk ((fun count => (count.map (· != 0)).mapError StoreError.toError) <$> reply)

/-- Read a series. -/
def series (q : SeriesQuery) : Operation TimeSeries :=
  let reply : OperationDialogue (Except Error TimeSeries) := .question (OperationStep.series q)
  ExceptT.mk reply

/-- A step of a sync. -/
def syncStep (s : SyncStep) : OperationDialogue s.Answer := .question (OperationStep.sync s)

/-- Carry out a sync. -/
def sync {α : Type} (d : SyncDialogue (Except Error α)) : Operation α :=
  ExceptT.mk (Dialogue.translate (A := SyncStep.Answer) syncStep d)

/-- Log an event. -/
def log (event : LogEvent) : Operation Unit := ExceptT.lift (syncStep (.log event))

/-- Log events in their order. -/
def logAll : List LogEvent → Operation Unit
  | [] => pure ()
  | e :: es => do
    log e
    logAll es

/-- A result that was computed without asking. -/
def ofExcept {α : Type} (r : Except Error α) : Operation α := ExceptT.mk (pure r)

/-- The document with this id; `what` says what it is. -/
def find (id collection what : String) : Operation Document := do
  let x ← ofExcept (ObjectId.parseId id)
  match ← select (.byId x) collection with
  | d :: _ => return d
  | [] => throw (.notFound (what ++ " " ++ id))

end Operation

end Telemetry
