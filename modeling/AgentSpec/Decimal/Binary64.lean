import AgentSpec.Decimal.Power

/-!
Finite numbers of the 64-bit binary floating point format, in exact arithmetic on naturals.

A number is a sign, a significand below 2^53 and a power of two.  The smallest power is -1074, and a
significand below 2^52 comes with that power only, so equal numbers of one sign are equal values.
-/
namespace AgentSpec

structure Binary64 where
  negative : Bool
  significand : Nat
  exponent : Int
deriving DecidableEq, Repr, Inhabited

namespace Binary64

def minExponent : Int := -1074

/-- The largest power of two of a finite number. -/
def maxExponent : Int := 971

def zero (negative : Bool) : Binary64 := ⟨negative, 0, minExponent⟩

def isZero (x : Binary64) : Bool := x.significand == 0

/-- `n / d` rounded to a natural, a half going to the even neighbour. -/
def divRound (n d : Nat) : Nat :=
  let q := n / d
  let r := n % d
  if 2 * r < d then q else if 2 * r > d then q + 1 else q + q % 2

/-- The magnitude as a fraction of naturals. -/
def fraction (x : Binary64) : Nat × Nat :=
  if 0 ≤ x.exponent then (x.significand * twoTo x.exponent.toNat, 1)
  else (x.significand, twoTo (-x.exponent).toNat)

/-- The number as a fraction. -/
def signedFraction (x : Binary64) : Int × Int :=
  (if x.negative then -(x.fraction.1 : Int) else x.fraction.1, x.fraction.2)

/-- The power of two at which `n / d` has a significand of 53 bits, or the smallest one. -/
def powerFor (n d : Nat) : Int :=
  let guess : Int := (n.log2 : Int) - (d.log2 : Int) - 52
  -- `n / d` lies between 2^(guess + 51) and 2^(guess + 53)
  let low := if 0 ≤ guess + 52 then n < d * twoTo (guess + 52).toNat
    else n * twoTo (-(guess + 52)).toNat < d
  max (if low then guess - 1 else guess) minExponent

/-- The number nearest to `n / d`, ties going to the even significand; none beyond the largest
finite number. -/
def nearest? (negative : Bool) (n d : Nat) : Option Binary64 :=
  if n = 0 then some (zero negative)
  else
    let q := powerFor n d
    let s := if 0 ≤ q then divRound n (d * twoTo q.toNat) else divRound (n * twoTo (-q).toNat) d
    let (s, q) := if s = twoTo 53 then (twoTo 52, q + 1) else (s, q)
    if s = 0 then some (zero negative)
    else if q > maxExponent then none
    else some ⟨negative, s, q⟩

/-- The rounded sum of two magnitudes. -/
def add? (x y : Binary64) : Option Binary64 :=
  let (a, b) := x.fraction
  let (c, d) := y.fraction
  nearest? false (a * d + c * b) (b * d)

/-- The rounded product. -/
def mul? (x y : Binary64) : Option Binary64 :=
  nearest? (x.negative != y.negative) (x.fraction.1 * y.fraction.1) (x.fraction.2 * y.fraction.2)

/-- The rounded quotient. -/
def div? (x y : Binary64) : Option Binary64 :=
  nearest? (x.negative != y.negative) (x.fraction.1 * y.fraction.2) (x.fraction.2 * y.fraction.1)

/-- The number nearest to ten to the power `k`. -/
def tenTo? (k : Nat) : Option Binary64 :=
  nearest? false (tenTo k) 1

/-- The largest power of ten that is finite. -/
def maxPowerOfTen : Nat := 308

/-- `x / 10^k`, where a power beyond the largest finite one is taken in steps. -/
def divTen? (x : Binary64) (k : Nat) : Option Binary64 :=
  if k ≤ maxPowerOfTen then do div? x (← tenTo? k)
  else if x.isZero then some x
  else do
    let y ← div? x (← tenTo? maxPowerOfTen)
    divTen? y (k - maxPowerOfTen)
termination_by k
decreasing_by simp_all [maxPowerOfTen]; omega

/-- `s * 10^e` for a significand read from a decimal text.  The significand, the power of ten and
their product or quotient are each rounded; none beyond the largest finite number. -/
def ofDecimal? (negative : Bool) (s : Nat) (e : Int) : Option Binary64 := do
  let x ← nearest? false s 1
  let y ← if e < 0 then divTen? x (-e).toNat
    else if e.toNat ≤ maxPowerOfTen then do mul? x (← tenTo? e.toNat)
    else if x.isZero then some x
    else none
  return { y with negative }

end Binary64
end AgentSpec
