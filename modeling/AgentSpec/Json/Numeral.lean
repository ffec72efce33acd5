import AgentSpec.Decimal.Binary64
import AgentSpec.Decimal.Digits
import AgentSpec.Json.Basic
import AgentSpec.Json.Cursor

/-!
Numbers of JSON texts.

Integers of 64 bits are kept, other numbers become binary64.  Digits beyond 64 bits count only for
the magnitude.
-/
namespace AgentSpec.Document

/-- Largest unsigned and signed 64-bit integers. -/
def maxUnsigned : Nat := twoTo 64 - 1

/-- Append digits to a significand while it fits 64 bits; also the number of digits appended. -/
def appendDigits (s : Nat) : List Char → Nat × Nat
  | [] => (s, 0)
  | c :: rest =>
    let t := s * 10 + digitValue c
    if t ≤ maxUnsigned then
      let (u, n) := appendDigits t rest
      (u, n + 1)
    else (s, 0)

/-- The largest exponent that is read as written. -/
def maxExponentText : Nat := twoTo 31 - 1

/-- Digits of an exponent up to the one that exceeds the limit: the value, or how many were
taken. -/
def readExponent (e taken : Nat) : List Char → Except Nat Nat
  | [] => .ok e
  | c :: rest =>
    let f := e * 10 + digitValue c
    if f ≤ maxExponentText then readExponent f (taken + 1) rest else .error (taken + 1)

/-- The parts of a number's text. -/
structure NumeralParts where
  negative : Bool
  whole : List Char
  fraction : Option (List Char)
  /-- Sign of the exponent and its digits. -/
  exponent : Option (Bool × List Char)

/-- The number that the parts denote; `exponentAt` and `stop` are where its exponent's digits begin
and where the number ends. -/
def NumeralParts.value (p : NumeralParts) (exponentAt stop : Place) : Except Flaw JsonNumber :=
  let (s, n) := appendDigits 0 p.whole
  if p.fraction.isNone && p.exponent.isNone && n == p.whole.length then
    if !p.negative then .ok (.int s)
    else if s = 0 || s > twoTo 63 then
      match Binary64.ofDecimal? true s 0 with
      | some x => .ok (.float x)
      | none => .error ⟨.numberOutOfRange, stop⟩
    else .ok (.int (-(s : Int)))
  else
    let dropped : Int := p.whole.length - n
    let (s, m) := appendDigits s (p.fraction.getD [])
    let lead := dropped - (m : Int)
    let final : Except Flaw (Option Int) := match p.exponent with
      | none => .ok (some lead)
      | some (positive, ds) =>
        match readExponent 0 0 ds with
        | .ok e => .ok (some (if positive then lead + e else lead - e))
        | .error taken =>
          if s ≠ 0 && positive then
            .error ⟨.numberOutOfRange, exponentAt.afterAll (ds.take taken)⟩
          else .ok none
    match final with
    | .error flaw => .error flaw
    | .ok none => .ok (.float (.zero p.negative))
    | .ok (some e) =>
      match Binary64.ofDecimal? p.negative s e with
      | some x => .ok (.float x)
      | none => .error ⟨.numberOutOfRange, stop⟩

/-- The digits before the point, no zero before another digit. -/
def scanWhole (k : Cursor) : Except Flaw (List Char × Cursor) :=
  match k.chars with
  | [] => .error (k.flawHere .endInValue)
  | c :: rest =>
    if c = '0' then
      if rest.head?.any Char.isDigit then .error (k.next.flawAhead .invalidNumber)
      else .ok ([c], k.next)
    else if c.isDigit then .ok (k.digits, k.drop k.digits.length)
    else .error (k.flawTaken .invalidNumber)

/-- The point and the digits behind it, if there is a point. -/
def scanFraction (k : Cursor) : Except Flaw (Option (List Char) × Cursor) :=
  match k.chars with
  | '.' :: _ =>
    let k := k.next
    if k.digits.isEmpty then
      .error (k.flawAhead (if k.chars.isEmpty then .endInValue else .invalidNumber))
    else .ok (some k.digits, k.drop k.digits.length)
  | _ => .ok (none, k)

/-- The exponent, if there is one, and where its digits begin. -/
def scanExponent (k : Cursor) : Except Flaw (Option (Bool × List Char) × Place × Cursor) :=
  match k.chars with
  | c :: _ =>
    if c = 'e' || c = 'E' then
      let k := k.next
      let (positive, k) := match k.chars with
        | '+' :: _ => (true, k.next)
        | '-' :: _ => (false, k.next)
        | _ => (true, k)
      if k.chars.isEmpty then .error (k.flawHere .endInValue)
      else if k.digits.isEmpty then .error (k.flawTaken .invalidNumber)
      else .ok (some (positive, k.digits), k.place, k.drop k.digits.length)
    else .ok (none, k.place, k)
  | [] => .ok (none, k.place, k)

/-- The parts of a number, its places and what follows it. -/
def scanParts (k : Cursor) : Except Flaw (NumeralParts × Place × Cursor) := do
  let (negative, k) := match k.chars with
    | '-' :: _ => (true, k.next)
    | _ => (false, k)
  let (whole, k) ← scanWhole k
  let (fraction, k) ← scanFraction k
  let (exponent, at_, k) ← scanExponent k
  return (⟨negative, whole, fraction, exponent⟩, at_, k)

/-- A number.  One that is too large is a fault; who skips a number does not tell its end from any
other thing that is no digit. -/
def scanNumber (k : Cursor) : Lexeme JsonNumber :=
  match scanParts k with
  | .ok (parts, at_, k) => ⟨parts.value at_ k.place, .ok k⟩
  | .error flaw => .broken flaw { flaw with kind := .invalidNumber }

end AgentSpec.Document
