/-!
Instants in universal time, read from and written as RFC 3339 texts.
-/
namespace AgentSpec

/-- A day, counted from the first of January 1970, and the time on it.  In a leap second the
nanoseconds go on beyond 10^9. -/
structure Instant where
  day : Int
  second : Nat
  nano : Nat
deriving DecidableEq, Repr, Inhabited

/-- A date of the Gregorian calendar. -/
structure Date where
  year : Int
  month : Nat
  day : Nat
deriving DecidableEq, Repr

namespace Date

/-- Days in 400 years. -/
def daysPerEra : Int := 146097

/-- Days before a month in a year that begins with March, counting March as 0. -/
def daysBeforeMonth (m : Nat) : Nat := (153 * m + 2) / 5

/-- The number of the day, 0 on the first of January 1970. -/
def toDay (d : Date) : Int :=
  let y : Int := if d.month ≤ 2 then d.year - 1 else d.year
  let m := if d.month ≤ 2 then d.month + 9 else d.month - 3
  let era := y.fdiv 400
  let yearOfEra := y - era * 400
  let dayOfYear : Int := daysBeforeMonth m + d.day - 1
  era * daysPerEra + yearOfEra * 365 + yearOfEra.fdiv 4 - yearOfEra.fdiv 100 + dayOfYear - 719468

/-- The date of a day. -/
def ofDay (n : Int) : Date :=
  let z := n + 719468
  let era := z.fdiv daysPerEra
  let dayOfEra := (z - era * daysPerEra).toNat
  let yearOfEra := (dayOfEra - dayOfEra / 1460 + dayOfEra / 36524 - dayOfEra / 146096) / 365
  let dayOfYear := dayOfEra - (365 * yearOfEra + yearOfEra / 4 - yearOfEra / 100)
  let m := (5 * dayOfYear + 2) / 153
  let month := if m < 10 then m + 3 else m - 9
  let year := era * 400 + yearOfEra + (if month ≤ 2 then 1 else 0)
  ⟨year, month, dayOfYear - daysBeforeMonth m + 1⟩

/-- A day of the calendar in a year within reach. -/
def isValid (d : Date) : Bool :=
  -262143 ≤ d.year && d.year ≤ 262142 && ofDay d.toDay == d

end Date

/-- At least `width` digits. -/
def padded (width n : Nat) : String :=
  let s := toString n
  String.ofList (List.replicate (width - s.length) '0') ++ s

namespace Instant

/-- The year with four digits, and with a sign beyond them. -/
def yearText (y : Int) : String :=
  if 0 ≤ y ∧ y ≤ 9999 then padded 4 y.toNat
  else (if y < 0 then "-" else "+") ++ padded 4 y.natAbs

/-- The fraction of a second in 0, 3, 6 or 9 digits. -/
def fractionText (nano : Nat) : String :=
  if nano = 0 then ""
  else if nano % 1000000 = 0 then "." ++ padded 3 (nano / 1000000)
  else if nano % 1000 = 0 then "." ++ padded 6 (nano / 1000)
  else "." ++ padded 9 nano

/-- Date and time without the offset. -/
def localText (t : Instant) : String :=
  let d := Date.ofDay t.day
  let leap := t.nano / 1000000000
  yearText d.year ++ "-" ++ padded 2 d.month ++ "-" ++ padded 2 d.day ++ "T" ++
    padded 2 (t.second / 3600) ++ ":" ++ padded 2 (t.second / 60 % 60) ++ ":" ++
    padded 2 (t.second % 60 + leap) ++ fractionText (t.nano % 1000000000)

def toText (t : Instant) : String := t.localText ++ "Z"

/-- The text with the offset in digits, as rows keep it. -/
def toOffsetText (t : Instant) : String := t.localText ++ "+00:00"

/-- The date as month, day and year. -/
def toDateText (t : Instant) : String :=
  let d := Date.ofDay t.day
  s!"{d.month}/{d.day}/" ++ yearText d.year

end Instant
end AgentSpec
