import AgentSpec.Decimal.Digits
import AgentSpec.Json.Cursor

/-!
Strings of JSON texts.

A lone surrogate breaks no grammar.  It is a fault, and the text goes on behind it.
-/
namespace AgentSpec.Document

def hexValue (c : Char) : Option Nat :=
  if c.isDigit then some (digitValue c)
  else if 'a' ≤ c && c ≤ 'f' then some (c.toNat - 'a'.toNat + 10)
  else if 'A' ≤ c && c ≤ 'F' then some (c.toNat - 'A'.toNat + 10)
  else none

/-- Four hexadecimal digits.  Four bytes are taken whatever they are. -/
def scanHex (k : Cursor) : Except Flaw (Nat × Cursor) :=
  match k.chars.take 4, (k.chars.take 4).map hexValue with
  | _, [some a, some b, some c, some d] => .ok (((a * 16 + b) * 16 + c) * 16 + d, k.drop 4)
  | cs, _ =>
    if cs.foldl (fun n c => n + c.utf8Size) 0 < 4 then
      .error ⟨.endInString, k.place.afterAll cs⟩
    else .error ⟨.invalidEscape, k.place.afterBytes 4 cs⟩

def isLeading (n : Nat) : Bool := 0xD800 ≤ n && n ≤ 0xDBFF

def isTrailing (n : Nat) : Bool := 0xDC00 ≤ n && n ≤ 0xDFFF

/-- The character of a `\u` escape whose first four digits are `n`.  A leading surrogate takes the
escape behind it along; without one it is a fault, and only its own digits are taken. -/
def scanUnit (n : Nat) (k : Cursor) : Except Flaw Char × Cursor :=
  if isTrailing n then (.error (k.flawHere .loneSurrogate), k)
  else if !isLeading n then (.ok (Char.ofNat n), k)
  else
    match k.chars with
    | '\\' :: 'u' :: _ =>
      match scanHex (k.drop 2) with
      | .ok (m, k') =>
        if isTrailing m then
          (.ok (Char.ofNat (0x10000 + (n - 0xD800) * 0x400 + (m - 0xDC00))), k')
        else (.error (k'.flawHere .loneSurrogate), k)
      | .error flaw => (.error flaw, k)
    | '\\' :: _ :: _ => (.error ((k.next).flawTaken .endOfEscapeUnexpected), k)
    | ['\\'] => (.error (k.next.flawHere .endInString), k)
    | [] => (.error (k.flawHere .endInString), k)
    | _ :: _ => (.error (k.flawTaken .endOfEscapeUnexpected), k)

/-- The rest of a string behind its opening quote.  Of several faults the first one counts. -/
def scanString (fuel : Nat) (acc : List Char) (fault : Option Flaw) (k : Cursor) : Lexeme String :=
  let broken (reading skipping : Flaw) : Lexeme String := .broken (fault.getD reading) skipping
  match fuel with
  | 0 => broken (k.flawHere .endInString) (k.flawHere .endInString)
  | fuel + 1 =>
    match k.chars with
    | [] => broken (k.flawHere .endInString) (k.flawHere .endInString)
    | '"' :: _ =>
      match fault with
      | some flaw => .faulty flaw k.next
      | none => .read (String.ofList acc.reverse) k.next
    | '\\' :: rest =>
      let k := k.next
      let simple (c : Char) := scanString fuel (c :: acc) fault k.next
      match rest with
      | [] => broken (k.flawHere .endInString) (k.flawHere .endInString)
      | '"' :: _ => simple '"'
      | '\\' :: _ => simple '\\'
      | '/' :: _ => simple '/'
      | 'b' :: _ => simple '\x08'
      | 'f' :: _ => simple '\x0c'
      | 'n' :: _ => simple '\n'
      | 'r' :: _ => simple '\r'
      | 't' :: _ => simple '\t'
      | 'u' :: _ =>
        match scanHex k.next with
        | .error flaw => broken flaw flaw
        | .ok (n, k) =>
          match scanUnit n k with
          | (.ok c, k) => scanString fuel (c :: acc) fault k
          | (.error flaw, k) => scanString fuel acc (fault <|> some flaw) k
      | _ :: _ => broken (k.flawTaken .invalidEscape) (k.flawTaken .invalidEscape)
    | c :: _ =>
      if c.toNat < 0x20 then
        broken (k.flawTaken .controlCharacter) (k.flawHere .controlCharacter)
      else scanString fuel (c :: acc) fault k.next

/-- A string, from its opening quote on. -/
def scanQuoted (k : Cursor) : Lexeme String :=
  scanString (k.chars.length + 1) [] none k.next

end AgentSpec.Document
