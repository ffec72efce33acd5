/-!
Flaws of JSON texts: what is wrong and where.
-/
namespace AgentSpec

/-- A place in a text: the line, counted from one, and the bytes before it on that line. -/
structure Place where
  line : Nat
  column : Nat
deriving DecidableEq, Repr

namespace Place

def start : Place := ⟨1, 0⟩

/-- The place behind a character. -/
def after (p : Place) (c : Char) : Place :=
  if c = '\n' then ⟨p.line + 1, 0⟩ else ⟨p.line, p.column + c.utf8Size⟩

def afterAll (p : Place) (cs : List Char) : Place :=
  cs.foldl after p

/-- The place so many bytes on, perhaps amid the bytes of a character. -/
def afterBytes (p : Place) (n : Nat) : List Char → Place
  | [] => p
  | c :: cs =>
    if c.utf8Size ≤ n then (p.after c).afterBytes (n - c.utf8Size) cs
    else ⟨p.line, p.column + n⟩

/-- The place one byte on, where a reader that looks ahead finds its fault. -/
def ahead (p : Place) : List Char → Place
  | [] => p
  | '\n' :: _ => ⟨p.line + 1, 0⟩
  | _ :: _ => ⟨p.line, p.column + 1⟩

end Place

inductive FlawKind
  | endInArray
  | endInObject
  | endInString
  | endInValue
  | colonExpected
  | commaOrBracketExpected
  | commaOrBraceExpected
  | literalExpected
  | valueExpected
  | invalidEscape
  | invalidNumber
  | numberOutOfRange
  | controlCharacter
  | keyExpected
  | loneSurrogate
  | endOfEscapeUnexpected
  | trailingComma
  | trailingCharacters
  | tooDeep
deriving DecidableEq, Repr

def FlawKind.message : FlawKind → String
  | .endInArray => "EOF while parsing a list"
  | .endInObject => "EOF while parsing an object"
  | .endInString => "EOF while parsing a string"
  | .endInValue => "EOF while parsing a value"
  | .colonExpected => "expected `:`"
  | .commaOrBracketExpected => "expected `,` or `]`"
  | .commaOrBraceExpected => "expected `,` or `\x7d`"
  | .literalExpected => "expected ident"
  | .valueExpected => "expected value"
  | .invalidEscape => "invalid escape"
  | .invalidNumber => "invalid number"
  | .numberOutOfRange => "number out of range"
  | .controlCharacter =>
    "control character (\\u0000-\\u001F) found while parsing a string"
  | .keyExpected => "key must be a string"
  | .loneSurrogate => "lone leading surrogate in hex escape"
  | .endOfEscapeUnexpected => "unexpected end of hex escape"
  | .trailingComma => "trailing comma"
  | .trailingCharacters => "trailing characters"
  | .tooDeep => "recursion limit exceeded"

structure Flaw where
  kind : FlawKind
  place : Place
deriving DecidableEq, Repr

end AgentSpec
