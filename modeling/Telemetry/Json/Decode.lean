import Telemetry.Json.Reader
import Telemetry.Json.Writer

/-!
# Typed values from JSON values

* `DecodeFault`: why a value is not of a type, and `DecodeFault.message` its wording.
* `Json.decodeText`, `Json.decodeBool`, `Json.decodeUnsigned`, `Json.decodeList`: the simple types.
* `Json.decodeName`: one of some names.
* `Json.decodeRecord`: a record is an object or the list of its fields in their declared order.
* `Entries.field?`, `Entries.need`: a field of an object. The fields are read in the order of their
  keys, and only then is a missing one reported.
* `Json.item?`, `Json.needItem`: a field of a list.
* `Json.readObject`: the object that a text writes.
-/

namespace Telemetry

namespace Json

/-- What a value should have been. -/
inductive Expected where
  | text
  | boolean
  | sequence
  | map
  | record (name : String)
  | unsigned (name : String)
  | unit
  | textOrMap
  | singleKeyMap
  | path

/-- How long a list should have been. -/
inductive LengthExpected where
  | record (name : String) (arity : Nat)
  | fewer
  | exactly (n : Nat)

end Json

/-- Why a value is not of a type. -/
inductive DecodeFault where
  | wrongType (found : Json) (expected : Json.Expected)
  | wrongValue (found : Json) (expected : Json.Expected)
  | wrongLength (found : Nat) (expected : Json.LengthExpected)
  | missingField (name : String)
  | repeatedField (name : String)
  | unknownVariant (found : String) (known : List String)
  | malformed (message : String)

/-- A typed value, or why there is none. -/
abbrev Decoded := Except DecodeFault

namespace Json

/-- A word between backticks. -/
def ticked (s : String) : String := "`" ++ s ++ "`"

/-- A value as messages show it: simple values with their text, others by their kind. -/
def describe : Json → String
  | null => "null"
  | bool b => "boolean " ++ ticked (if b then "true" else "false")
  | int i => "integer " ++ ticked (String.ofList (intChars i))
  | float x => "floating point " ++ ticked (floatFormat.write x)
  | text s => "string " ++ Text.quoted s
  | list _ => "sequence"
  | object _ => "map"

/-- The wording of an expectation. -/
def Expected.message : Expected → String
  | text => "a string"
  | boolean => "a boolean"
  | sequence => "a sequence"
  | map => "a map"
  | record name => "struct " ++ name
  | unsigned name => name
  | unit => "unit"
  | textOrMap => "string or map"
  | singleKeyMap => "map with a single key"
  | path => "path string"

/-- A number of elements. -/
def elements (n : Nat) : String := toString n ++ (if n = 1 then " element" else " elements")

/-- The wording of an expected length. -/
def LengthExpected.message : LengthExpected → String
  | record name arity => "struct " ++ name ++ " with " ++ elements arity
  | fewer => "fewer elements in array"
  | exactly n => elements n ++ " in sequence"

end Json

/-- The known names, as messages list them. -/
def DecodeFault.oneOf : List String → String
  | [] => "there are no variants"
  | [a] => "expected " ++ Json.ticked a
  | [a, b] => "expected " ++ Json.ticked a ++ " or " ++ Json.ticked b
  | names => "expected one of " ++ ", ".intercalate (names.map Json.ticked)

/-- The wording of a fault. -/
def DecodeFault.message : DecodeFault → String
  | wrongType found expected =>
    "invalid type: " ++ found.describe ++ ", expected " ++ expected.message
  | wrongValue found expected =>
    "invalid value: " ++ found.describe ++ ", expected " ++ expected.message
  | wrongLength found expected =>
    "invalid length " ++ toString found ++ ", expected " ++ expected.message
  | missingField name => "missing field " ++ Json.ticked name
  | repeatedField name => "duplicate field " ++ Json.ticked name
  | unknownVariant found known => "unknown variant " ++ Json.ticked found ++ ", " ++ oneOf known
  | malformed message => message

namespace Json

/-! ## Simple types -/

def decodeText : Json → Decoded String
  | text s => .ok s
  | v => .error (.wrongType v .text)

def decodeBool : Json → Decoded Bool
  | bool b => .ok b
  | v => .error (.wrongType v .boolean)

/-- The path of a file. -/
def decodePath : Json → Decoded String
  | text s => .ok s
  | v => .error (.wrongType v .path)

/-- The largest unsigned 64-bit integer. -/
def unsignedMax : Int := Int.ofNat (Nat.pow 2 64 - 1)

/-- An unsigned 64-bit integer, called `name` in messages. -/
def decodeUnsigned (name : String) : Json → Decoded Nat
  | int i => if 0 ≤ i ∧ i ≤ unsignedMax then .ok i.toNat
    else .error (.wrongValue (int i) (.unsigned name))
  | v => .error (.wrongType v (.unsigned name))

/-- An optional value: null stands for an absent one. -/
def decodeOption {α : Type} (decode : Json → Decoded α) : Json → Decoded (Option α)
  | null => .ok none
  | v => some <$> decode v

/-- A value of any kind that is present unless it is null. -/
def decodePresent (v : Json) : Decoded (Option Json) := decodeOption .ok v

/-- Every item of a list, from the first. -/
def decodeItems {α : Type} (decode : Json → Decoded α) : List Json → Decoded (List α)
  | [] => .ok []
  | v :: vs => do
    let x ← decode v
    let xs ← decodeItems decode vs
    return x :: xs

def decodeList {α : Type} (decode : Json → Decoded α) : Json → Decoded (List α)
  | list vs => decodeItems decode vs
  | v => .error (.wrongType v .sequence)

def decodeMap : Json → Decoded (Entries Json)
  | object m => .ok m
  | v => .error (.wrongType v .map)

/-! ## Names and records -/

/-- Where a value stands: in a document, among the keys that a record keeps aside until its own
fields are read, or in a settings file. -/
inductive Standing where
  | direct
  | setAside
  | settingsFile

/-- The expected length of a list with more items than a record has fields; a settings file may have
more. -/
def Standing.excess? (standing : Standing) (arity : Nat) : Option LengthExpected :=
  match standing with
  | direct => some .fewer
  | setAside => some (.exactly arity)
  | settingsFile => none

/-- The value that stands for nothing: null, or in a settings file an empty list or object. -/
def Standing.isUnit (standing : Standing) (v : Json) : Bool :=
  match standing, v with
  | settingsFile, list [] => true
  | settingsFile, object [] => true
  | _, null => true
  | _, _ => false

/-- One of some names. A name may also be the only key of an object, whose value then stands for
nothing. -/
def decodeName {α : Type} (standing : Standing) (names : List (String × α)) (v : Json) :
    Decoded α := do
  let (name, content) ← match v with
    | text s => pure (s, none)
    | object [(key, content)] => pure (key, some content)
    | object _ => throw (.wrongValue v .singleKeyMap)
    | _ => throw (.wrongType v .textOrMap)
  match names.lookup name, content with
  | none, _ => throw (.unknownVariant name (names.map (·.1)))
  | some x, none => return x
  | some x, some content =>
    if standing.isUnit content then return x else throw (.wrongType content .unit)

/-- A record, from an object or from a list of at most `arity` items. -/
def decodeRecord {α : Type} (name : String) (arity : Nat) (standing : Standing)
    (ofMembers : Entries Json → Decoded α) (ofItems : List Json → Decoded α) :
    Json → Decoded α
  | object m => ofMembers m
  | list vs => do
    let x ← ofItems vs
    match standing.excess? arity with
    | none => return x
    | some expected =>
      if arity < vs.length then throw (.wrongLength vs.length expected) else return x
  | v => .error (.wrongType v (.record name))

/-- The item at a place, if the list is long enough. -/
def item? {α : Type} (vs : List Json) (i : Nat) (decode : Json → Decoded α) : Decoded (Option α) :=
  match vs[i]? with
  | some v => some <$> decode v
  | none => .ok none

/-- The item at a place of a record with `arity` fields. -/
def needItem {α : Type} (name : String) (arity : Nat) (vs : List Json) (i : Nat)
    (decode : Json → Decoded α) : Decoded α :=
  match vs[i]? with
  | some v => decode v
  | none => .error (.wrongLength i (.record name arity))

/-- A member that is written only if there is a value. -/
def member? {α : Type} (key : String) (encode : α → Json) : Option α → List (String × Json)
  | some x => [(key, encode x)]
  | none => []

end Json

namespace Entries

/-- A field of an object, if its key is there. -/
def field? {α : Type} (m : Entries Json) (key : String) (decode : Json → Decoded α) :
    Decoded (Option α) :=
  match m.get? key with
  | some v => some <$> decode v
  | none => .ok none

/-- A field that has to be there. -/
def need {α : Type} (key : String) : Option α → Decoded α
  | some x => .ok x
  | none => .error (.missingField key)

end Entries

namespace Json

/-- Why a text does not write a value of a type. -/
inductive TextFault where
  | unreadable (fault : Fault)
  | otherType (fault : DecodeFault)

/-- The wording of a fault. -/
def TextFault.message : TextFault → String
  | unreadable fault => fault.message
  | otherType fault => fault.message

/-- Why a text does not start with a value of a type, if it starts like one of another type. Of a
list or an object only the bracket is read. -/
def otherType (expected : Expected) : List Char → TextFault
  | [] => .unreadable .valueUnfinished
  | '[' :: _ => .otherType (.wrongType (list []) expected)
  | '\x7b' :: _ => .otherType (.wrongType (object []) expected)
  | c :: cs =>
    match readLiteral c cs with
    | .ok (v, _) => .otherType (.wrongType v expected)
    | .error fault => .unreadable fault

/-- The object that a text writes. A text that starts like a value of another type is refused for
its type, whatever follows. -/
def readObject (s : String) : Except TextFault (Entries Json) :=
  match skipSpace s.toList with
  | '\x7b' :: _ =>
    match read s with
    | .ok (object m) => .ok m
    | .ok v => .error (.otherType (.wrongType v .map))
    | .error fault => .error (.unreadable fault)
  | cs => .error (otherType .map cs)

end Json

end Telemetry
