import Telemetry.Broker.Payload
import Telemetry.Json.Typed

/-!
# The actions that a text lists

* `RemoteAction.read`: an action, from an object or from the list of its fields. An object may have
  other members too, but none of the fields twice.
* `RemoteAction.readAll`: the actions that a text lists.
-/

namespace Telemetry

namespace RemoteAction

open Json

/-- The fields of an action that have been read so far. -/
@[ext]
structure Draft where
  name : Option String
  type : Option (Option String)
  createdAt : Option (Option Json)
  lastModifiedAt : Option (Option Json)

namespace Draft

def empty : Draft := ⟨none, none, none, none⟩

/-- An action has to have a name. -/
def finish (d : Draft) : Except TextFault RemoteAction :=
  match d.name with
  | none => .error (.otherType (.missingField "name"))
  | some name => .ok ⟨name, d.type.join, d.createdAt.join, d.lastModifiedAt.join⟩

/-- A field, unless it has been read before. -/
def once {α : Type} (key : String) (earlier : Option α) (read : Reader α) (put : α → Draft)
    (cs : List Char) : Except TextFault (Draft × List Char) := do
  if earlier.isSome then throw (.otherType (.repeatedField key))
  let (x, cs) ← read (← pastColon cs)
  return (put x, cs)

/-- A time of an action, which stands in an object or a list of a list. -/
def readTime : Reader (Option Json) := readOptional (readAny 2)

/-- A member of an action, after its key. -/
def readMember (d : Draft) (key : String) (cs : List Char) :
    Except TextFault (Draft × List Char) :=
  if key = "name" then
    once key d.name readTextValue (fun name => { d with name := some name }) cs
  else if key = "type" then
    once key d.type (readOptional readTextValue) (fun type => { d with type := some type }) cs
  else if key = "created_at" then
    once key d.createdAt readTime (fun time => { d with createdAt := some time }) cs
  else if key = "last_modified_at" then
    once key d.lastModifiedAt readTime (fun time => { d with lastModifiedAt := some time }) cs
  else do
    return (d, ← plain (skipValue (← pastColon cs)))

/-- The members of an action up to its closing brace. Every step reads a character, so that the
length of the text is fuel enough. -/
def readMembers : Nat → Bool → Draft → Reader Draft
  | 0, _, _, _ => .error (.unreadable .objectUnfinished)
  | fuel + 1, first, d, cs => do
    match ← nextMember first cs with
    | none => return (d, ← endObject cs)
    | some cs =>
      let (key, cs) ← readKey cs
      let (d, cs) ← d.readMember key cs
      readMembers fuel false d cs

end Draft

/-- A field of an action that is a list, which may end before it. -/
def readField? {α : Type} (read : Reader α) (first : Bool) (cs : List Char) :
    Except TextFault (Option α × List Char) := do
  match ← nextItem first cs with
  | none => return (none, cs)
  | some cs =>
    let (x, cs) ← read cs
    return (some x, cs)

/-- An action as the list of its fields, after the opening bracket. -/
def readFields (cs : List Char) : Except TextFault (RemoteAction × List Char) := do
  let (name, cs) ← readField? readTextValue true cs
  match name with
  | none => throw (.otherType (.wrongLength 0 (.record "RemoteAction" 4)))
  | some name =>
    let (type, cs) ← readField? (readOptional readTextValue) false cs
    let (createdAt, cs) ← readField? Draft.readTime false cs
    let (lastModifiedAt, cs) ← readField? Draft.readTime false cs
    return (⟨name, type.join, createdAt.join, lastModifiedAt.join⟩, ← endList cs)

/-- An action. -/
def read (cs : List Char) : Except TextFault (RemoteAction × List Char) :=
  match skipSpace cs with
  | '[' :: cs => readFields cs
  | '\x7b' :: cs => do
    let (d, cs) ← Draft.readMembers (cs.length + 1) true .empty cs
    return (← d.finish, cs)
  | cs => .error (otherType (.record "RemoteAction") cs)

/-- The actions of a list up to its closing bracket; `done` holds those read, in reverse. -/
def readItems : Nat → Bool → List RemoteAction → Reader (List RemoteAction)
  | 0, _, _, _ => .error (.unreadable .listUnfinished)
  | fuel + 1, first, done, cs => do
    match ← nextItem first cs with
    | none => return (done.reverse, ← endList cs)
    | some cs =>
      let (a, cs) ← read cs
      readItems fuel false (a :: done) cs

/-- The actions that a text lists. -/
def readAll (s : String) : Except TextFault (List RemoteAction) :=
  match skipSpace s.toList with
  | '[' :: cs => do
    let (actions, cs) ← readItems (cs.length + 1) true [] cs
    if (skipSpace cs).isEmpty then return actions else throw (.unreadable .textTrailing)
  | cs => .error (otherType .sequence cs)

end RemoteAction

end Telemetry
