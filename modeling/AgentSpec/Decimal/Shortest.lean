import AgentSpec.Decimal.Binary64

/-!
The shortest decimal text of a binary64.

The reals that round to a number form an interval around it; its ends belong to it when the
significand is even.  Of the decimal grids with one, two, … 17 digits the first one with a point in
the interval is taken, and on it the point nearest to the number.
-/
namespace AgentSpec

/-- A decimal number: `digits * 10^exponent`. -/
structure Decimal where
  digits : Nat
  exponent : Int
deriving DecidableEq, Repr

namespace Decimal

/-- Number of decimal digits, at least one. -/
def size (n : Nat) : Nat := (Nat.toDigits 10 n).length

/-- The decimal without zeros at the end of its digits. -/
def strip (d : Decimal) : Decimal :=
  let ds := (Nat.toDigits 10 d.digits).reverse
  let zeros := (ds.takeWhile (· == '0')).length
  if d.digits = 0 then ⟨0, 0⟩ else ⟨d.digits / tenTo zeros, d.exponent + zeros⟩

end Decimal

namespace Binary64

/-- Numerators, over one denominator, of the interval's lower end, the number and the upper end. -/
structure Interval where
  low : Nat
  mid : Nat
  high : Nat
  den : Nat
  closed : Bool

/-- The interval of reals that round to the number's magnitude. -/
def interval (x : Binary64) : Interval :=
  -- in quarters of the last place; below a power of two the neighbour is half as far
  let m := 4 * x.significand
  let low := if x.significand = twoTo 52 ∧ x.exponent > minExponent then m - 1 else m - 2
  let e := x.exponent - 2
  let (scale, den) := if 0 ≤ e then (twoTo e.toNat, 1) else (1, twoTo (-e).toNat)
  ⟨low * scale, m * scale, (m + 2) * scale, den, x.significand % 2 == 0⟩

/-- `k * 10^p` lies in the interval. -/
def Interval.holds (i : Interval) (k : Nat) (p : Int) : Bool :=
  let (a, b) := if 0 ≤ p then (k * tenTo p.toNat * i.den, 1) else (k * i.den, tenTo (-p).toNat)
  if i.closed then i.low * b ≤ a && a ≤ i.high * b else i.low * b < a && a < i.high * b

/-- The floor of the number over `10^p`, and whether the next grid point is nearer. -/
def Interval.floorAt (i : Interval) (p : Int) : Nat × Bool :=
  let (n, d) := if 0 ≤ p then (i.mid, i.den * tenTo p.toNat) else (i.mid * tenTo (-p).toNat, i.den)
  let k := n / d
  let r := n % d
  (k, if 2 * r = d then k % 2 == 1 else 2 * r > d)

/-- The power of ten of the first digit. -/
def leadingPower (x : Binary64) : Int :=
  let (n, d) := x.fraction
  let k := n / d
  if 0 < k then (Decimal.size k : Int) - 1
  else
    -- the first power at which the scaled number reaches one
    let rec go : Nat → Nat → Int
      | 0, p => -(p : Int)
      | fuel + 1, p => if n * tenTo p ≥ d then -(p : Int) else go fuel (p + 1)
    go 330 1

/-- The grid point of `n` significant digits nearest to the number, if one lies in the interval. -/
def onGrid? (x : Binary64) (n : Nat) : Option Decimal :=
  let i := x.interval
  let p := x.leadingPower - (n : Int) + 1
  let (k, up) := i.floorAt p
  let first := if up then k + 1 else k
  let second := if up then k else k + 1
  if i.holds first p then some ⟨first, p⟩
  else if i.holds second p then some ⟨second, p⟩
  else none

/-- The decimal with the fewest digits that rounds to the number's magnitude. -/
def shortest (x : Binary64) : Decimal :=
  if x.isZero then ⟨0, 0⟩
  else
    match (List.range 17).findSome? fun n => x.onGrid? (n + 1) with
    | some d => d.strip
    | none => ⟨x.significand, 0⟩

/-- How a shortest decimal is laid out: positional while the power of the first digit lies between
the bounds; else one digit before the point and an exponent with its sign. -/
structure Layout where
  lowestPositional : Int
  highestPositional : Int
  /-- What follows a whole number in positional form. -/
  afterWhole : String

/-- The layout of numbers in data texts and in messages about them. -/
def dataLayout : Layout := ⟨-5, 15, ".0"⟩

/-- The layout of measures in sentences, which is always positional. -/
def plainLayout : Layout := ⟨-400, 400, ""⟩

def render (l : Layout) (x : Binary64) : String :=
  let d := x.shortest
  let ds := Nat.toDigits 10 d.digits
  let lead : Int := d.exponent + (ds.length : Int) - 1
  let sign := if x.negative then "-" else ""
  let body :=
    if d.digits = 0 then "0" ++ l.afterWhole
    else if l.lowestPositional ≤ lead ∧ lead ≤ l.highestPositional then
      if 0 ≤ d.exponent then
        String.ofList (ds ++ List.replicate d.exponent.toNat '0') ++ l.afterWhole
      else if 0 ≤ lead then
        let (whole, part) := ds.splitAt (lead.toNat + 1)
        String.ofList whole ++ "." ++ String.ofList part
      else
        "0." ++ String.ofList (List.replicate (-lead - 1).toNat '0' ++ ds)
    else
      let mantissa := match ds with
        | [] => "0"
        | [c] => String.ofList [c]
        | c :: rest => String.ofList (c :: '.' :: rest)
      mantissa ++ "e" ++ (if lead < 0 then "-" else "+") ++ toString lead.natAbs
  sign ++ body

def toText (x : Binary64) : String := render dataLayout x

/-- A count of thousandths as a number of units, the whole units and the rest rounded one by one. -/
def ofThousandths (n : Nat) : Binary64 :=
  let whole := nearest? false (n / 1000) 1
  let part := nearest? false (n % 1000) 1000
  (do add? (← whole) (← part)).getD (zero false)

def toPlainText (x : Binary64) : String := render plainLayout x

end Binary64
end AgentSpec
