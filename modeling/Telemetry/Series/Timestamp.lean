import Telemetry.Number.Text

/-!
# Timestamps

* `wholeSeconds?`: a point in time, written as a date, a time of day and an offset, without its
  fraction of a second and in the one usual form: the date and the time are separated by `T`, and an
  offset of zero is written `Z`.
-/

namespace Telemetry.Timestamp

/-- Exactly `n` digits from the front of a text. -/
def digits? (n : Nat) (cs : List Char) : Option (List Char × List Char) :=
  let front := cs.take n
  if front.length = n ∧ front.all Char.isDigit then some (front, cs.drop n) else none

/-- A given character from the front of a text. -/
def sign? (c : Char) : List Char → Option (List Char)
  | d :: cs => if d = c then some cs else none
  | [] => none

/-- A fraction of a second, if there is one, is passed over. -/
def dropFraction? : List Char → Option (List Char)
  | '.' :: c :: cs => if c.isDigit then some (cs.dropWhile Char.isDigit) else none
  | '.' :: [] => none
  | cs => some cs

/-- The offset that ends a timestamp. It is less than a day, its sign may be a minus sign proper,
and zero is written `Z` whatever its sign. -/
def offset? (cs : List Char) : Option (List Char) :=
  match cs with
  | ['Z'] => some ['Z']
  | ['z'] => some ['Z']
  | c :: cs => do
    let sign ← if c = '+' then some '+' else if c = '-' ∨ c = '−' then some '-' else none
    let (hours, cs) ← digits? 2 cs
    let cs ← sign? ':' cs
    let (minutes, cs) ← digits? 2 cs
    if cs ≠ [] ∨ 23 < digitsValue hours ∨ 59 < digitsValue minutes then none
    else if digitsValue hours = 0 ∧ digitsValue minutes = 0 then some ['Z']
    else some (sign :: hours ++ ':' :: minutes)
  | [] => none

/-- The length of a month. -/
def daysIn (year month : Nat) : Nat :=
  if month = 2 then
    if year % 4 = 0 ∧ (year % 100 ≠ 0 ∨ year % 400 = 0) then 29 else 28
  else if month = 4 ∨ month = 6 ∨ month = 9 ∨ month = 11 then 30 else 31

/-- A point in time to the second. The date has to exist, and a minute may have a sixty-first
second. -/
def chars? (cs : List Char) : Option (List Char) := do
  let (year, cs) ← digits? 4 cs
  let cs ← sign? '-' cs
  let (month, cs) ← digits? 2 cs
  let cs ← sign? '-' cs
  let (day, cs) ← digits? 2 cs
  let cs ← match cs with
    | 'T' :: cs => some cs
    | 't' :: cs => some cs
    | ' ' :: cs => some cs
    | _ => none
  let (hour, cs) ← digits? 2 cs
  let cs ← sign? ':' cs
  let (minute, cs) ← digits? 2 cs
  let cs ← sign? ':' cs
  let (second, cs) ← digits? 2 cs
  let cs ← dropFraction? cs
  let offset ← offset? cs
  let m := digitsValue month
  let d := digitsValue day
  if m < 1 ∨ 12 < m ∨ d < 1 ∨ daysIn (digitsValue year) m < d ∨ 23 < digitsValue hour ∨
      59 < digitsValue minute ∨ 60 < digitsValue second then none
  else
    some (year ++ '-' :: month ++ '-' :: day ++ 'T' :: hour ++ ':' :: minute ++ ':' :: second ++
      offset)

/-- A point in time to the second, in the usual form. -/
def wholeSeconds? (s : String) : Option String := (chars? s.toList).map String.ofList

end Telemetry.Timestamp
