import Telemetry.Number.Text
import Telemetry.Toml.Text

/-!
# Numbers, dates and times

* `readNumber`: an integer of 64 bits or a float.
* `readMoment?`: a date, a time, or both with an offset.
* `momentKey`: a moment is an object with this key only.
-/

namespace Telemetry.Toml

/-! ## Digits -/

/-- Digits after a digit, with single underscores between them. -/
def readMoreDigits (isDigit : Char → Bool) : List Char → Except Fault (List Char × List Char)
  | '_' :: d :: cs =>
    if isDigit d then (readMoreDigits isDigit cs).map fun (ds, rest) => (d :: ds, rest)
    else .error .numberInvalid
  | c :: cs =>
    if isDigit c then (readMoreDigits isDigit cs).map fun (ds, rest) => (c :: ds, rest)
    else if c = '_' then .error .numberInvalid
    else .ok ([], c :: cs)
  | [] => .ok ([], [])

/-- One digit or more. -/
def readDigits (isDigit : Char → Bool) : List Char → Except Fault (List Char × List Char)
  | c :: cs =>
    if isDigit c then (readMoreDigits isDigit cs).map fun (ds, rest) => (c :: ds, rest)
    else .error .numberInvalid
  | [] => .error .numberInvalid

/-- The digits before a point. A zero stands alone. -/
def readWhole : List Char → Except Fault (List Char × List Char)
  | '0' :: cs => .ok (['0'], cs)
  | cs => readDigits Char.isDigit cs

/-! ## Integers and floats -/

/-- The largest integer. -/
def integerMax : Nat := Nat.pow 2 63 - 1

/-- A number in another base than ten. -/
def readBased (base : Nat) (cs : List Char) : Except Fault (Json × List Char) := do
  let isDigit (c : Char) : Bool := (Json.hexValue? c).any (· < base)
  let (ds, cs) ← readDigits isDigit cs
  let n := (ds.filterMap Json.hexValue?).foldl (fun n d => base * n + d) 0
  if integerMax < n then throw .numberInvalid
  return (.int n, cs)

/-- The places after a point, if there is one. -/
def readPlaces : List Char → Except Fault (Option (List Char) × List Char)
  | '.' :: cs => (readDigits Char.isDigit cs).map fun (ds, rest) => (some ds, rest)
  | cs => .ok (none, cs)

/-- An exponent, if there is one. -/
def readExponent : List Char → Except Fault (Option Int × List Char)
  | [] => .ok (none, [])
  | c :: cs =>
    if c = 'e' ∨ c = 'E' then
      let (negative, cs) := splitSign cs
      (readDigits Char.isDigit cs).map fun (ds, rest) =>
        let n : Int := digitsValue ds
        (some (if negative then -n else n), rest)
    else .ok (none, c :: cs)

/-- An integer of 64 bits. -/
def integer (negative : Bool) (n : Nat) : Except Fault Json :=
  if negative then if n ≤ integerMax + 1 then .ok (.int (-n)) else .error .numberInvalid
  else if n ≤ integerMax then .ok (.int n) else .error .numberInvalid

/-- A float; digits that are too large for one are refused. -/
def float (negative : Bool) (digits : List Char) (exponent : Int) : Except Fault Json :=
  let x := Binary64.nearest negative (digitsValue digits) exponent
  if x.bits = (Binary64.infinity false).bits then .error .numberInvalid else .ok (.float x)

/-- A decimal number, after its sign. -/
def readDecimal (negative : Bool) (cs : List Char) : Except Fault (Json × List Char) := do
  let (whole, cs) ← readWhole cs
  let (places, cs) ← readPlaces cs
  let (exponent, cs) ← readExponent cs
  match places, exponent with
  | none, none => return (← integer negative (digitsValue whole), cs)
  | _, _ =>
    let places := places.getD []
    return (← float negative (whole ++ places) (exponent.getD 0 - places.length), cs)

/-- A number. Only a decimal number or a word may have a sign. -/
def readNumber (cs : List Char) : Except Fault (Json × List Char) :=
  match cs with
  | '0' :: 'x' :: cs => readBased 16 cs
  | '0' :: 'o' :: cs => readBased 8 cs
  | '0' :: 'b' :: cs => readBased 2 cs
  | cs =>
    let (negative, cs) := splitSign cs
    match cs with
    | 'i' :: 'n' :: 'f' :: cs => .ok (.float (.infinity negative), cs)
    | 'n' :: 'a' :: 'n' :: cs => .ok (.float .notANumber, cs)
    | cs => readDecimal negative cs

/-! ## Dates and times -/

/-- The only key of the object that a date or time is read as. -/
def momentKey : String := "$moment"

/-- A fixed count of digits, with a value in a range. -/
def fixedDigits? (count low high : Nat) (cs : List Char) : Option (Nat × List Char) :=
  let ds := cs.take count
  let n := digitsValue ds
  if ds.length = count ∧ ds.all Char.isDigit ∧ low ≤ n ∧ n ≤ high then some (n, cs.drop count)
  else none

/-- How many days a month has. -/
def daysOf (year month : Nat) : Nat :=
  if month = 2 then if year % 4 = 0 ∧ (year % 100 ≠ 0 ∨ year % 400 = 0) then 29 else 28
  else if month = 4 ∨ month = 6 ∨ month = 9 ∨ month = 11 then 30
  else 31

/-- What follows the month and the day of a date. -/
def afterDate? (year : Nat) (cs : List Char) : Option (List Char) := do
  let (month, cs) ← fixedDigits? 2 1 12 cs
  let (_, cs) ← fixedDigits? 2 1 (daysOf year month) (← after? '-' cs)
  return cs

/-- What follows the digits after the point of a second. -/
def afterSecondPlaces (cs : List Char) : List Char :=
  match cs with
  | '.' :: d :: rest => if d.isDigit then rest.dropWhile Char.isDigit else cs
  | _ => cs

/-- What follows the minutes and the seconds of a time. -/
def afterMinutes? (cs : List Char) : Option (List Char) := do
  let (_, cs) ← fixedDigits? 2 0 59 cs
  let (_, cs) ← fixedDigits? 2 0 60 (← after? ':' cs)
  return afterSecondPlaces cs

/-- What follows an hour and its colon. -/
def afterHour? (cs : List Char) : Option (List Char) := do
  let (_, cs) ← fixedDigits? 2 0 23 cs
  after? ':' cs

/-- What follows an offset, if there is one. -/
def afterOffset? (cs : List Char) : Option (List Char) :=
  match cs with
  | 'Z' :: cs => some cs
  | 'z' :: cs => some cs
  | '+' :: cs => (afterHour? cs).bind fun cs => (fixedDigits? 2 0 59 cs).map (·.2)
  | '-' :: cs => (afterHour? cs).bind fun cs => (fixedDigits? 2 0 59 cs).map (·.2)
  | cs => some cs

/-- What follows a date: nothing, or a time with or without an offset. -/
def afterDateTime? (cs : List Char) : Option (List Char) :=
  match cs with
  | c :: rest =>
    if c = 'T' ∨ c = 't' ∨ c = ' ' then
      match afterHour? rest with
      | some rest => (afterMinutes? rest).bind afterOffset?
      | none => some cs
    else some cs
  | [] => some []

/-- What follows a date or a time, if the text starts like one. -/
def afterMoment? (cs : List Char) : Option (Except Fault (List Char)) :=
  let settled (rest : Option (List Char)) : Except Fault (List Char) :=
    match rest with
    | some rest => .ok rest
    | none => .error .momentInvalid
  match (fixedDigits? 4 0 9999 cs).bind fun (year, cs) => (after? '-' cs).map (year, ·) with
  | some (year, cs) => some (settled ((afterDate? year cs).bind afterDateTime?))
  | none => (afterHour? cs).map fun cs => settled (afterMinutes? cs)

/-- A date, a time, or both. -/
def readMoment? (cs : List Char) : Option (Except Fault (Json × List Char)) :=
  (afterMoment? cs).map fun rest => rest.map fun rest =>
    let written := String.ofList (cs.take (cs.length - rest.length))
    (.object [(momentKey, .text written)], rest)

end Telemetry.Toml
