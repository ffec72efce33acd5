import AgentSpec.Decimal.Digits
import AgentSpec.Decimal.Power
import AgentSpec.Text.Blank
import AgentSpec.Time.Instant

/-!
Reading instants.  The strict form is that of RFC 3339.  The relaxed one also takes white space
between the parts, parts with fewer digits, signed years and the word UTC for an offset.
-/
namespace AgentSpec

/-- Why a text is no instant. -/
inductive InstantFault
  | tooShort
  | invalid
  | tooLong
  | outOfRange
  | impossible
deriving DecidableEq, Repr

def InstantFault.message : InstantFault → String
  | .tooShort => "premature end of input"
  | .invalid => "input contains invalid characters"
  | .tooLong => "trailing input"
  | .outOfRange => "input is out of range"
  | .impossible => "no possible date and time matching input"

namespace Instant

/-- A part of the text and what stands behind it. -/
abbrev Scan (α : Type) := List Char → Except InstantFault (α × List Char)

/-- At least `least` digits, of which up to `most` are taken. -/
def scanNumber (least : Nat) (most : Option Nat) : Scan Nat := fun cs =>
  let all := cs.takeWhile Char.isDigit
  let ds := match most with
    | some n => all.take n
    | none => all
  let rest := cs.drop ds.length
  if least ≤ ds.length then .ok (digitsValue ds, rest)
  else if rest.isEmpty then .error .tooShort
  else .error .invalid

/-- A number of some digits that lies in a range. -/
def scanPart (least most low high : Nat) : Scan Nat := fun cs => do
  let (n, rest) ← scanNumber least (some most) cs
  if low ≤ n ∧ n ≤ high then .ok (n, rest) else .error .outOfRange

def scanLetter (admits : Char → Bool) : Scan Unit
  | [] => .error .tooShort
  | c :: rest => if admits c then .ok ((), rest) else .error .invalid

/-- The digits behind a point in nanoseconds; those behind the ninth do not count. -/
def scanFraction : Scan Nat
  | '.' :: cs => do
    let (_, rest) ← scanNumber 1 none cs
    let ds := (cs.takeWhile Char.isDigit).take 9
    .ok (digitsValue ds * tenTo (9 - ds.length), rest)
  | cs => .ok (0, cs)

/-- Hours and minutes from universal time, in seconds, or a Z. -/
def scanOffset (separator : Scan Unit) : Scan Int
  | [] => .error .tooShort
  | c :: rest => do
    if c = 'Z' ∨ c = 'z' then return (0, rest)
    let sign : Int ←
      if c = '+' then pure 1
      else if c = '-' ∨ c.toNat = 0x2212 then pure (-1)
      else throw .invalid
    let (hours, rest) ← twoDigits rest
    let ((), rest) ← separator rest
    let (minutes, rest) ← twoDigits rest
    if minutes < 60 then return (sign * (hours * 3600 + minutes * 60), rest)
    throw .outOfRange
where
  twoDigits : Scan Nat
    | a :: b :: rest =>
      if a.isDigit && b.isDigit then .ok (digitsValue [a, b], rest) else .error .invalid
    | [a] => if a.toNat < 0x80 then .error .tooShort else .error .invalid
    | [] => .error .tooShort

/-- The instant of a local date and time at an offset from universal time. -/
def ofLocal (date : Date) (second nano : Nat) (offset : Int) : Except InstantFault Instant :=
  if !date.isValid then .error .outOfRange
  else if offset.natAbs ≥ 86400 then .error .outOfRange
  else
    let s : Int := second - offset
    let day := date.toDay + s.fdiv 86400
    if (Date.ofDay day).isValid then .ok ⟨day, (s - s.fdiv 86400 * 86400).toNat, nano⟩
    else .error .impossible

/-- The second of the day and the nanoseconds of a time, where the 60th second is a leap second. -/
def ofClock (hour minute second fraction : Nat) : Nat × Nat :=
  if second = 60 then (hour * 3600 + minute * 60 + 59, fraction + 1000000000)
  else (hour * 3600 + minute * 60 + second, fraction)

def isBetween (c : Char) : Bool := c == 'T' || c == 't' || c == ' '

def skipSpaces (cs : List Char) : List Char := cs.dropWhile Text.isSpace

/-- A year, which may have a sign and then any number of digits. -/
def scanYear (cs : List Char) : Except InstantFault (Int × List Char) := do
  let (year, rest) ← match cs with
    | '-' :: cs => do
      let (n, rest) ← scanNumber 1 none cs
      pure (-(n : Int), rest)
    | '+' :: cs => do
      let (n, rest) ← scanNumber 1 none cs
      pure ((n : Int), rest)
    | cs => do
      let (n, rest) ← scanNumber 1 (some 4) cs
      pure ((n : Int), rest)
  if -2147483648 ≤ year ∧ year ≤ 2147483647 then return (year, rest)
  throw .outOfRange

/-- A colon or nothing, and white space around it. -/
def skipSeparator : Scan Unit := fun cs =>
  .ok ((), cs.dropWhile fun c => c == ':' || Text.isSpace c)

/-- The instant of a relaxed text. -/
def ofRelaxed (s : String) : Except InstantFault Instant := do
  let (year, cs) ← scanYear (skipSpaces s.toList)
  let ((), cs) ← scanLetter (· == '-') (skipSpaces cs)
  let (month, cs) ← scanPart 1 2 1 12 (skipSpaces cs)
  let ((), cs) ← scanLetter (· == '-') (skipSpaces cs)
  let (day, cs) ← scanPart 1 2 1 31 (skipSpaces cs)
  let ((), cs) ← scanLetter isBetween cs
  let (hour, cs) ← scanPart 1 2 0 23 (skipSpaces cs)
  let ((), cs) ← scanLetter (· == ':') (skipSpaces cs)
  let (minute, cs) ← scanPart 1 2 0 59 (skipSpaces cs)
  let ((), cs) ← scanLetter (· == ':') (skipSpaces cs)
  let (second, cs) ← scanPart 1 2 0 60 (skipSpaces cs)
  let (fraction, cs) ← scanFraction cs
  let cs := skipSpaces cs
  let (offset, cs) ←
    if (cs.take 3).map Char.toUpper == ['U', 'T', 'C'] then pure ((0 : Int), cs.drop 3)
    else scanOffset skipSeparator cs
  if !(skipSpaces cs).isEmpty then throw .tooLong
  let (second, nano) := ofClock hour minute second fraction
  ofLocal ⟨year, month, day⟩ second nano offset

/-- The instant of a strict text. -/
def ofText (s : String) : Except InstantFault Instant := do
  let (year, cs) ← scanPart 4 4 0 9999 s.toList
  let ((), cs) ← scanLetter (· == '-') cs
  let (month, cs) ← scanPart 2 2 1 12 cs
  let ((), cs) ← scanLetter (· == '-') cs
  let (day, cs) ← scanPart 2 2 1 31 cs
  let ((), cs) ← scanLetter isBetween cs
  let (hour, cs) ← scanPart 2 2 0 23 cs
  let ((), cs) ← scanLetter (· == ':') cs
  let (minute, cs) ← scanPart 2 2 0 59 cs
  let ((), cs) ← scanLetter (· == ':') cs
  let (second, cs) ← scanPart 2 2 0 60 cs
  let (fraction, cs) ← scanFraction cs
  let (offset, cs) ← scanOffset (scanLetter (· == ':')) cs
  if !cs.isEmpty then throw .tooLong
  let (second, nano) := ofClock hour minute second fraction
  ofLocal ⟨year, month, day⟩ second nano offset

end Instant
end AgentSpec
