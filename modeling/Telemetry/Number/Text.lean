import Telemetry.Number.Scientific

/-!
# Numbers from their text

* `readFloat?`: a decimal number with an optional sign, point and exponent, or the words for
  infinity and for what is no number, in letters of either case.
* `readInt64?`: a signed 64-bit integer with an optional sign.
* `readUnsigned?`: an unsigned 64-bit integer, which may have a plus sign.
-/

namespace Telemetry

/-- A sign and what follows it. -/
def splitSign : List Char → Bool × List Char
  | '+' :: cs => (false, cs)
  | '-' :: cs => (true, cs)
  | cs => (false, cs)

/-- The number that some digits write. -/
def digitsValue (ds : List Char) : Nat := ds.foldl (fun n d => 10 * n + (d.toNat - '0'.toNat)) 0

/-- A natural number written in digits only. -/
def readDigits? (cs : List Char) : Option Nat :=
  if cs ≠ [] ∧ cs.all Char.isDigit then some (digitsValue cs) else none

/-- The exponent at the end of a number; nothing stands for zero. -/
def readExponent? : List Char → Option Int
  | [] => some 0
  | c :: cs =>
    if c = 'e' ∨ c = 'E' then
      let (negative, cs) := splitSign cs
      (readDigits? cs).map fun n => if negative then -(n : Int) else n
    else none

/-- A decimal number without sign: digits, a point and more digits, an exponent. -/
def readDecimal? (negative : Bool) (cs : List Char) : Option Binary64 :=
  let whole := cs.takeWhile Char.isDigit
  let rest := cs.dropWhile Char.isDigit
  let (places, rest) := match rest with
    | '.' :: rest => (rest.takeWhile Char.isDigit, rest.dropWhile Char.isDigit)
    | rest => ([], rest)
  if whole = [] ∧ places = [] then none
  else
    (readExponent? rest).map fun e =>
      .nearest negative (digitsValue (whole ++ places)) (e - places.length)

/-- The bits of what is no number. -/
def Binary64.notANumber : Binary64 := ⟨0x7FF8000000000000⟩

/-- A floating-point number. -/
def readFloat? (s : String) : Option Binary64 :=
  let (negative, cs) := splitSign s.toList
  let word := String.ofList (cs.map Char.toLower)
  if word = "inf" ∨ word = "infinity" then some (.infinity negative)
  else if word = "nan" then some .notANumber
  else readDecimal? negative cs

/-- A signed 64-bit integer. -/
def readInt64? (s : String) : Option Int :=
  let (negative, cs) := splitSign s.toList
  (readDigits? cs).bind fun n =>
    if negative then (if n ≤ Nat.pow 2 63 then some (-(n : Int)) else none)
    else if n < Nat.pow 2 63 then some (n : Int) else none

/-- An unsigned 64-bit integer. -/
def readUnsigned? (s : String) : Option Nat :=
  let digits := match s.toList with
    | '+' :: cs => cs
    | cs => cs
  (readDigits? digits).bind fun n => if n < Nat.pow 2 64 then some n else none

end Telemetry
