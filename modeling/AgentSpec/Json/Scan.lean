import AgentSpec.Json.Document
import AgentSpec.Json.Numeral
import AgentSpec.Json.Quote

/-!
Reading a text into a document.

The text is read once, from left to right.  Where its grammar is broken nothing behind the flaw is
read, and every array and object still open is cut there.  Three faults break no grammar: a lone
surrogate, a number too large for a binary64 and nesting beyond the limit.  The value with the fault
is flawed, and reading goes on behind it, because a value that is skipped may have them.
-/
namespace AgentSpec.Document

/-- Arrays and objects that may be open at once. -/
def depthLimit : Nat := 127

/-- A value, and what follows it unless the text is broken. -/
structure Scanned where
  doc : Document
  rest : Except Flaw Cursor

namespace Scanned

/-- A value that the text breaks off in. -/
def broken (k : Cursor) (reading skipping : Flaw) : Scanned :=
  ⟨.flawed k.place k.chars.head? reading (some skipping), .error skipping⟩

/-- A single value that begins at a place. -/
def ofLexeme (k : Cursor) (doc : Origin → α → Document) (l : Lexeme α) : Scanned :=
  match l.value, l.rest with
  | .ok a, .ok rest => ⟨doc (.text k.place rest.place) a, .ok rest⟩
  | .error flaw, .ok rest => ⟨.flawed k.place k.chars.head? flaw none, .ok rest⟩
  | .ok _, .error skipping => .broken k skipping skipping
  | .error reading, .error skipping => .broken k reading skipping

/-- An array or object; one nested too deeply is flawed. -/
def nested (depth : Nat) (k : Cursor) (doc : Document) (rest : Except Flaw Cursor) : Scanned :=
  if depth < depthLimit then ⟨doc, rest⟩
  else ⟨.flawed k.place k.chars.head? (k.flawAhead .tooDeep) doc.skip, rest⟩

end Scanned

/-- The parts of an array or object, and what follows it unless the text breaks off. -/
structure Parts (α : Type) where
  parts : List α
  rest : Except Break Cursor

namespace Parts

/-- Nothing more, because the text is wrong here. -/
def cut (b : Break) : Parts α := ⟨[], .error b⟩

def cons (a : α) (p : Parts α) : Parts α := ⟨a :: p.parts, p.rest⟩

/-- One part, in which the text breaks off. -/
def last (a : α) (flaw : Flaw) : Parts α := ⟨[a], .error (.all flaw)⟩

def cut? (p : Parts α) : Option Break :=
  match p.rest with
  | .ok _ => none
  | .error b => some b

/-- What follows, for one who skips it all. -/
def skipped (p : Parts α) : Except Flaw Cursor := p.rest.mapError (·.skipping)

/-- Where the parts stand, if they begin at a place. -/
def origin (p : Parts α) (start : Place) : Origin :=
  .text start (match p.rest with
    | .ok k => k.place
    | .error b => b.reading.place)

end Parts

mutual

def scanValue (fuel depth : Nat) (k : Cursor) : Scanned :=
  let endHere := k.flawAhead .endInValue
  match fuel with
  | 0 => .broken k endHere endHere
  | fuel + 1 =>
    let word (w : List Char) (doc : Origin → Document) : Scanned :=
      match scanWord w k.next with
      | .ok rest => ⟨doc (.text k.place rest.place), .ok rest⟩
      | .error flaw => .broken k flaw flaw
    match k.chars with
    | [] => .broken k endHere endHere
    | 'n' :: _ => word ['u', 'l', 'l'] .null
    | 't' :: _ => word ['r', 'u', 'e'] (.bool · true)
    | 'f' :: _ => word ['a', 'l', 's', 'e'] (.bool · false)
    | '"' :: _ => .ofLexeme k .string (scanQuoted k)
    | '[' :: _ =>
      let p := scanItems fuel (depth + 1) true k.next
      .nested depth k (.array (p.origin k.place) p.parts p.cut?) p.skipped
    | '\x7b' :: _ =>
      let p := scanMembers fuel (depth + 1) true k.next
      .nested depth k (.object (p.origin k.place) p.parts p.cut?) p.skipped
    | c :: _ =>
      if c = '-' || c.isDigit then .ofLexeme k .number (scanNumber k)
      else .broken k (k.flawAhead .valueExpected) (k.flawAhead .valueExpected)

/-- The items up to the closing bracket. -/
def scanItems (fuel depth : Nat) (first : Bool) (k : Cursor) : Parts Document :=
  match fuel with
  | 0 => .cut (.all (k.flawAhead .endInArray))
  | fuel + 1 =>
    let k := k.skipGap
    let item (k : Cursor) : Parts Document :=
      let v := scanValue fuel depth k
      match v.rest with
      | .error flaw => .last v.doc flaw
      | .ok k => .cons v.doc (scanItems fuel depth false k)
    match k.chars with
    | [] => .cut (.all (k.flawAhead .endInArray))
    | ']' :: _ => ⟨[], .ok k.next⟩
    | c :: _ =>
      if first then item k
      else if c = ',' then
        let k := k.next.skipGap
        match k.chars with
        | [] =>
          let flaw := k.flawAhead .endInValue
          .cut ⟨flaw, flaw, k.flawAhead .trailingCharacters⟩
        | ']' :: _ =>
          let flaw := k.flawAhead .trailingComma
          .cut ⟨flaw, k.flawAhead .valueExpected, flaw⟩
        | _ => item k
      else
        let flaw := k.flawAhead .commaOrBracketExpected
        .cut ⟨flaw, flaw, k.flawAhead .trailingCharacters⟩

/-- The members up to the closing brace. -/
def scanMembers (fuel depth : Nat) (first : Bool) (k : Cursor) : Parts (Key × Document) :=
  match fuel with
  | 0 => .cut (.all (k.flawAhead .endInObject))
  | fuel + 1 =>
    let k := k.skipGap
    let member (k : Cursor) : Parts (Key × Document) :=
      let l := scanQuoted k
      match l.rest with
      | .error skipping =>
        .last ({ name := l.value, skipped := some skipping }, (Scanned.ofLexeme k .string l).doc)
          skipping
      | .ok stop =>
        let c := stop.skipGap
        -- a brace that closes the object instead is taken
        let closed := if c.chars.head? = some '\x7d' then c.next else c
        let key : Key := { name := l.value, stop := some stop.place, colon := some closed.place }
        match c.chars with
        | ':' :: _ =>
          let v := scanValue fuel depth c.next.skipGap
          match v.rest with
          | .error flaw => .last (key, v.doc) flaw
          | .ok k =>
            .cons ({ key with behind := some k.skipGap.place }, v.doc)
              (scanMembers fuel depth false k)
        | cs =>
          let flaw := c.flawAhead (if cs.isEmpty then .endInObject else .colonExpected)
          .last (key, .flawed c.place none flaw (some flaw)) flaw
    let noKey (k : Cursor) : Parts (Key × Document) :=
      let flaw := k.flawAhead .keyExpected
      .last ({ name := .error flaw, skipped := some flaw }, (scanValue fuel depth k).doc) flaw
    match k.chars with
    | [] => .cut (.all (k.flawAhead .endInObject))
    | '\x7d' :: _ => ⟨[], .ok k.next⟩
    | c :: _ =>
      if first then if c = '"' then member k else noKey k
      else if c = ',' then
        let k := k.next.skipGap
        match k.chars with
        | [] =>
          let flaw := k.flawAhead .endInValue
          .cut ⟨flaw, k.flawAhead .endInObject, flaw⟩
        | '"' :: _ => member k
        | '\x7d' :: _ =>
          let flaw := k.flawAhead .trailingComma
          .cut ⟨flaw, k.flawAhead .keyExpected, flaw⟩
        | _ => noKey k
      else .cut (.all (k.flawAhead .commaOrBraceExpected))

end

/-- The document of a text, and the flaw behind its value if something follows it. -/
def ofText (s : String) : Document × Option Flaw :=
  let cs := s.toList
  let v := scanValue (2 * cs.length + 2) 0 (Cursor.skipGap ⟨cs, Place.start⟩)
  match v.rest with
  | .error _ => (v.doc, none)
  | .ok k =>
    let k := k.skipGap
    (v.doc, if k.chars.isEmpty then none else some (k.flawAhead .trailingCharacters))

end Document

/-- The value of a text. -/
def Json.ofText? (s : String) : Except Flaw Json := do
  let (d, trailing) := Document.ofText s
  let v ← d.toJson
  match trailing with
  | some flaw => .error flaw
  | none => return v

end AgentSpec
