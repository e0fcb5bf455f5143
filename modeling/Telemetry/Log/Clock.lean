/-!
# The time of an event

* `Clock.text`: a time as a date and a time of day in UTC, to the microsecond.
* `Clock.date`: the date of a number of days after the first of January 1970.
-/

namespace Telemetry.Clock

/-- The year, the month and the day of a number of days after the first of January 1970. Years are
counted from March on, so that the day that some years add is the last of its year. -/
def date (days : Nat) : Nat × Nat × Nat :=
  let n := days + 719468
  let era := n / 146097
  let inEra := n % 146097
  let year := (inEra - inEra / 1460 + inEra / 36524 - inEra / 146096) / 365
  let inYear := inEra - (365 * year + year / 4 - year / 100)
  let month := (5 * inYear + 2) / 153
  let day := inYear - (153 * month + 2) / 5 + 1
  if month < 10 then (400 * era + year, month + 3, day) else (400 * era + year + 1, month - 9, day)

/-- A number in decimal digits, with leading zeros up to a width. -/
def padded (width n : Nat) : String :=
  let digits := toString n
  String.ofList (List.replicate (width - digits.length) '0') ++ digits

/-- The time that is this many microseconds after the start of 1970. -/
def text (microseconds : Nat) : String :=
  let seconds := microseconds / 1000000
  let (year, month, day) := date (seconds / 86400)
  let hour := seconds / 3600 % 24
  let minute := seconds / 60 % 60
  s!"{padded 4 year}-{padded 2 month}-{padded 2 day}T{padded 2 hour}:{padded 2 minute}:" ++
    s!"{padded 2 (seconds % 60)}.{padded 6 (microseconds % 1000000)}Z"

end Telemetry.Clock
