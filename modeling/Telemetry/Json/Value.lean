import Telemetry.Entries
import Telemetry.Number.Binary64

/-!
# JSON values

* `Json`: a value. A number is an integer or a 64-bit float, and the two are never equal. An object
  lists its members; values that were read from text have them in ascending order of the keys.
* `Json.same`: equality of values, in which the two zeros of floats are equal.
-/

namespace Telemetry

/-- A JSON value. -/
inductive Json where
  | null
  | bool (b : Bool)
  | int (i : Int)
  | float (x : Binary64)
  | text (s : String)
  | list (items : List Json)
  | object (members : List (String × Json))

instance : Inhabited Json := ⟨.null⟩

namespace Json

mutual

/-- Equality of values: floats are compared as numbers, everything else as it stands. -/
def same : Json → Json → Bool
  | null, null => true
  | bool a, bool b => a == b
  | int a, int b => a == b
  | float a, float b => a.same b
  | text a, text b => a == b
  | list a, list b => sameItems a b
  | object a, object b => sameMembers a b
  | _, _ => false

/-- Two lists are equal item by item. -/
def sameItems : List Json → List Json → Bool
  | [], [] => true
  | a :: as, b :: bs => same a b && sameItems as bs
  | _, _ => false

/-- Two lists of members are equal member by member. -/
def sameMembers : List (String × Json) → List (String × Json) → Bool
  | [], [] => true
  | (k, a) :: as, (l, b) :: bs => k == l && same a b && sameMembers as bs
  | _, _ => false

end

/-- The text of a text value. -/
def text? : Json → Option String
  | text s => some s
  | _ => none

/-- The members of an object. -/
def members? : Json → Option (Entries Json)
  | object m => some m
  | _ => none

/-- The items of a list. -/
def items? : Json → Option (List Json)
  | list xs => some xs
  | _ => none

/-- A member of an object; other values have none. -/
def get? (v : Json) (key : String) : Option Json := v.members?.bind (·.get? key)

/-- An optional text, with null for an absent one. -/
def ofOption : Option String → Json
  | some s => text s
  | none => null

/-- A list of texts. -/
def texts (xs : List String) : Json := list (xs.map text)

/-- A natural number. -/
def nat (n : Nat) : Json := int n

end Json

end Telemetry
