import Telemetry.Json.Value
import Telemetry.Toml.Fault

/-!
# Tables that are defined piece by piece

The tables of a text are defined by headers and by keys that are joined by points. What was defined
in one of these ways is not defined again in another.

* `Origin`: how a table came to be.
* `Node`: a value, a table or a list of tables.
* `Members.addPair`, `Members.openTable`, `Members.openItem`: what a pair and the two kinds of
  headers add.
-/

namespace Telemetry.Toml

/-- How a table came to be. -/
inductive Origin where
  /-- It stands above a table that has a header. -/
  | implied
  /-- It stands above a key that is joined by points. -/
  | dotted
  /-- It has a header of its own. -/
  | headed
  deriving DecidableEq

/-- What a key holds. -/
inductive Node where
  | value (v : Json)
  | table (origin : Origin) (members : List (String × Node))
  | tables (items : List (List (String × Node)))

/-- The keys of a table. -/
abbrev Members := Entries Node

namespace Members

/-- Change the table at the end of a path. Tables on the way that are not there are made as
`making` says; of a list of tables it is the last that is meant. -/
def change (making : Origin) (f : Origin → Members → Except Fault Members) :
    List String → Origin → Members → Except Fault Members
  | [], origin, m => f origin m
  | key :: keys, _, m => do
    let node : Node ← match m.get? key with
      | none => .table making <$> change making f keys making []
      | some (.value _) => throw (.notATable key)
      | some (.tables items) =>
        let last ← change making f keys .headed (items.getLastD [])
        pure (.tables (items.dropLast ++ [last]))
      | some (.table origin members) =>
        if making = .dotted ∧ origin = .headed then throw (.keyTaken key)
        .table origin <$> change making f keys origin members
    return m.insert key node

/-- Add a pair below a table. Keys that are joined by points lead to a table made by such keys, and
a single key to one that was made otherwise. -/
def addPair (m : Members) (path : List String) (key : String) (v : Json) : Except Fault Members :=
  change .dotted (fun origin m =>
    if origin = .dotted ↔ path = [] then .error (.keyTaken key)
    else if m.contains key then .error (.keyTaken key)
    else .ok (m.insert key (.value v))) path .headed m

/-- Start the table of a header. -/
def openTable (m : Members) (path : List String) (key : String) : Except Fault Members :=
  change .implied (fun _ m =>
    match m.get? key with
    | none => .ok (m.insert key (.table .headed []))
    | some (.table .implied members) => .ok (m.insert key (.table .headed members))
    | some _ => .error (.keyTaken key)) path .headed m

/-- Start the next table of a list of tables. -/
def openItem (m : Members) (path : List String) (key : String) : Except Fault Members :=
  change .implied (fun _ m =>
    match m.get? key with
    | none => .ok (m.insert key (.tables [[]]))
    | some (.tables items) => .ok (m.insert key (.tables (items ++ [[]])))
    | some _ => .error (.keyTaken key)) path .headed m

/-- Add a pair to the table of a header. -/
def addBelow (m : Members) (header : List String) (path : List String) (key : String) (v : Json) :
    Except Fault Members :=
  change .implied (fun _ m => m.addPair path key v) header .headed m

end Members

mutual

/-- The value of a node. -/
def Node.toJson : Node → Json
  | .value v => v
  | .table _ members => .object (Node.membersJson members)
  | .tables items => .list (Node.itemsJson items)

def Node.membersJson : List (String × Node) → List (String × Json)
  | [] => []
  | (k, n) :: m => (k, n.toJson) :: Node.membersJson m

def Node.itemsJson : List (List (String × Node)) → List Json
  | [] => []
  | m :: ms => .object (Node.membersJson m) :: Node.itemsJson ms

end

end Telemetry.Toml
