import AgentSpec.Decimal.Digits
import AgentSpec.Store.Row

/-!
Texts in a column for numbers.

A text that is a numeral becomes a number, and an integer if it is a whole number of 64 bits; every
other text stays what it is.  Digits that no longer fit 64 bits count only for the magnitude.
-/
namespace AgentSpec

/-- Digits, perhaps with a point and an exponent. -/
structure Numeral where
  negative : Bool
  whole : List Char
  fraction : Option (List Char)
  /-- Whether the exponent is negative, and its digits. -/
  exponent : Option (Bool × List Char)
deriving DecidableEq, Repr

namespace Numeral

/-- Blanks that may stand around a numeral. -/
def isBlank (c : Char) : Bool :=
  c == ' ' || (0x09 ≤ c.toNat && c.toNat ≤ 0x0D)

/-- Whether a minus stands in front, and what follows the sign. -/
def readSign : List Char → Bool × List Char
  | '-' :: cs => (true, cs)
  | '+' :: cs => (false, cs)
  | cs => (false, cs)

/-- The digits behind a point, if there is a point, and what follows them. -/
def readFraction : List Char → Option (List Char) × List Char
  | '.' :: cs => (spanDigits cs).map some id
  | cs => (none, cs)

/-- The exponent, if there is one, and what follows it. -/
def readExponent : List Char → Option (Bool × List Char) × List Char
  | [] => (none, [])
  | c :: cs =>
    if c = 'e' ∨ c = 'E' then
      let (negative, cs) := readSign cs
      let (digits, rest) := spanDigits cs
      (some (negative, digits), rest)
    else (none, c :: cs)

/-- The numeral that a text is, between blanks: it has a digit before or behind the point, and one
in its exponent. -/
def ofText? (s : String) : Option Numeral :=
  let (negative, cs) := readSign (s.toList.dropWhile isBlank)
  let (whole, cs) := spanDigits cs
  let (fraction, cs) := readFraction cs
  let (exponent, cs) := readExponent cs
  if (whole ++ fraction.getD []).isEmpty || exponent.any (·.2.isEmpty) || !cs.all isBlank then none
  else some ⟨negative, whole, fraction, exponent⟩

/-- A significand below this takes another digit. -/
def fullFrom : Nat := (twoTo 64 - 10) / 10

/-- Append digits to a significand while it takes them; also the number of digits appended. -/
def appendDigits (n : Nat) : List Char → Nat × Nat
  | [] => (n, 0)
  | c :: cs =>
    if n < fullFrom then
      let (m, k) := appendDigits (10 * n + digitValue c) cs
      (m, k + 1)
    else (n, 0)

/-- The exponent as far as it matters: no number is that large or that small. -/
def readTo10000 (cs : List Char) : Nat :=
  cs.foldl (fun e c => if e < 10000 then 10 * e + digitValue c else 10000) 0

/-- The digits that count, as an integer and a power of ten. -/
def scaled (x : Numeral) : Nat × Int :=
  let (n, taken) := appendDigits 0 x.whole
  let (n, places) := appendDigits n (x.fraction.getD [])
  let e : Int := match x.exponent with
    | none => 0
    | some (negative, cs) => if negative then -(readTo10000 cs : Int) else readTo10000 cs
  (n, e + (x.whole.length - taken : Nat) - places)

/-- The nearest binary64. -/
def toReal (x : Numeral) : Cell :=
  let (n, e) := x.scaled
  let (num, den) := if n = 0 then (0, 1) else if 0 ≤ e then (n * tenTo e.toNat, 1)
    else (n, tenTo (-e).toNat)
  match Binary64.nearest? x.negative num den with
  | some r => .real r
  | none => .infinite x.negative

/-- The integer that digits without point and exponent denote, if 64 bits hold it. -/
def toInt? (x : Numeral) : Option Int :=
  let n : Int := if x.negative then -(digitsValue x.whole : Int) else digitsValue x.whole
  if x.fraction.isNone && x.exponent.isNone && -(twoTo 63 : Int) ≤ n && n < twoTo 63 then some n
  else none

/-- The number as a column holds it. -/
def toCell (x : Numeral) : Cell :=
  match x.toInt? with
  | some n => .int n
  | none => x.toReal.narrow

end Numeral
end AgentSpec
