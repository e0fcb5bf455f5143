import Telemetry.Json.Decode

/-!
# Fields

A field is one number that a payload holds: its name, where it stands in the payload and its type.

* `Field.path?`: the path of a field, if it has one that is not empty.
* `Field.isInteger`: the type `integer` is the only one that makes a difference.
-/

namespace Telemetry

/-- One number of a payload. -/
structure Field where
  name : String
  path : Option String := none
  kind : Option String := none
  deriving DecidableEq

namespace Field

/-- The field is written as an integer. -/
def isInteger (f : Field) : Bool := f.kind == some "integer"

/-- The path of a field; an empty one counts as none. -/
def path? (f : Field) : Option String := f.path.filter (· ≠ "")

def ofMembers (m : Entries Json) : Decoded Field := do
  let name ← m.field? "name" Json.decodeText
  let path ← m.field? "path" (Json.decodeOption Json.decodeText)
  let kind ← m.field? "type" (Json.decodeOption Json.decodeText)
  return ⟨← Entries.need "name" name, path.join, kind.join⟩

def ofItems (vs : List Json) : Decoded Field := do
  let name ← Json.needItem "Field" 3 vs 0 Json.decodeText
  let path ← Json.item? vs 1 (Json.decodeOption Json.decodeText)
  let kind ← Json.item? vs 2 (Json.decodeOption Json.decodeText)
  return ⟨name, path.join, kind.join⟩

def decode (standing : Json.Standing) : Json → Decoded Field :=
  Json.decodeRecord "Field" 3 standing ofMembers ofItems

def toJson (f : Field) : Json :=
  .object ([("name", .text f.name)] ++ Json.member? "path" .text f.path ++
    Json.member? "type" .text f.kind)

end Field

end Telemetry
