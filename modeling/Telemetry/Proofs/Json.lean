import Telemetry.Json.Value

/-!
# Identity of JSON values

`Json.same` takes the two zeros of floats for one number and a NaN for none. Identity of values does
neither, and it is decided by recursion on the value.
-/

namespace Telemetry

namespace Json

mutual

/-- Two values are one. -/
def identical : Json → Json → Bool
  | null, null => true
  | bool a, bool b => a == b
  | int a, int b => a == b
  | float a, float b => a == b
  | text a, text b => a == b
  | list a, list b => identicalItems a b
  | object a, object b => identicalMembers a b
  | _, _ => false

/-- Two lists of values are one. -/
def identicalItems : List Json → List Json → Bool
  | [], [] => true
  | a :: as, b :: bs => identical a b && identicalItems as bs
  | _, _ => false

/-- Two lists of members are one. -/
def identicalMembers : List (String × Json) → List (String × Json) → Bool
  | [], [] => true
  | (k, a) :: as, (l, b) :: bs => k == l && identical a b && identicalMembers as bs
  | _, _ => false

end

mutual

theorem identical_iff (v w : Json) : v.identical w = true ↔ v = w := by
  cases v with
  | list as => cases w <;> simp [identical, identicalItems_iff as]
  | object as => cases w <;> simp [identical, identicalMembers_iff as]
  | _ => cases w <;> simp [identical]

theorem identicalItems_iff (as bs : List Json) : identicalItems as bs = true ↔ as = bs := by
  cases as with
  | nil => cases bs <;> simp [identicalItems]
  | cons a as => cases bs <;> simp [identicalItems, identical_iff a, identicalItems_iff as]

theorem identicalMembers_iff (as bs : List (String × Json)) :
    identicalMembers as bs = true ↔ as = bs := by
  cases as with
  | nil => cases bs <;> simp [identicalMembers]
  | cons a as =>
    obtain ⟨k, a⟩ := a
    cases bs with
    | nil => simp [identicalMembers]
    | cons b bs =>
      simp [identicalMembers, identical_iff a, identicalMembers_iff as, Prod.ext_iff]

end

instance : DecidableEq Json := fun v w => decidable_of_iff _ (identical_iff v w)

end Json

end Telemetry
