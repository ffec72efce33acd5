import AgentSpec.Json.Flaw

/-!
The place of a reader in a text, and what it may take there.
-/
namespace AgentSpec.Document

/-- What is left of a text, and where it begins. -/
structure Cursor where
  chars : List Char
  place : Place

namespace Cursor

/-- Past the next character. -/
def next (k : Cursor) : Cursor :=
  match k.chars with
  | [] => k
  | c :: rest => ⟨rest, k.place.after c⟩

/-- Past so many characters. -/
def drop (k : Cursor) (n : Nat) : Cursor :=
  ⟨k.chars.drop n, k.place.afterAll (k.chars.take n)⟩

def isGap (c : Char) : Bool := c == ' ' || c == '\n' || c == '\t' || c == '\r'

/-- Past the white space of the grammar. -/
def skipGap (k : Cursor) : Cursor :=
  k.drop (k.chars.takeWhile isGap).length

/-- A flaw at this place. -/
def flawHere (k : Cursor) (kind : FlawKind) : Flaw := ⟨kind, k.place⟩

/-- A flaw that looking one byte ahead finds. -/
def flawAhead (k : Cursor) (kind : FlawKind) : Flaw := ⟨kind, k.place.ahead k.chars⟩

/-- A flaw found after taking one byte. -/
def flawTaken (k : Cursor) (kind : FlawKind) : Flaw := k.flawAhead kind

def digits (k : Cursor) : List Char := k.chars.takeWhile Char.isDigit

end Cursor

/-- A single value of a text, unless it is at fault, and what follows it.  Whoever skips the value
has its faults go unseen, but not where the text breaks off. -/
structure Lexeme (α : Type) where
  value : Except Flaw α
  rest : Except Flaw Cursor

namespace Lexeme

def read (a : α) (rest : Cursor) : Lexeme α := ⟨.ok a, .ok rest⟩

/-- A value at fault in a text that goes on. -/
def faulty (flaw : Flaw) (rest : Cursor) : Lexeme α := ⟨.error flaw, .ok rest⟩

/-- The text breaks off, for a reader and for who skips the value. -/
def broken (reading skipping : Flaw) : Lexeme α := ⟨.error reading, .error skipping⟩

end Lexeme

/-- The remaining letters of `null`, `true` or `false`. -/
def scanWord : List Char → Cursor → Except Flaw Cursor
  | [], k => .ok k
  | w :: ws, k =>
    match k.chars with
    | [] => .error (k.flawHere .endInValue)
    | c :: _ =>
      if c = w then scanWord ws k.next else .error (k.flawTaken .literalExpected)

end AgentSpec.Document
