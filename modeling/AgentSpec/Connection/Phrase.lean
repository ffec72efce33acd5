import AgentSpec.Text.Blank
import AgentSpec.Text.Word

/-!
Phrases that stand for a service in a text.

A phrase occurs where its pieces follow one another, with a word boundary in front and behind.
Phrases begin and end with a word character.
-/
namespace AgentSpec

inductive Piece
  /-- The very characters. -/
  | exact (s : String)
  /-- The characters in either case, given in lower case. -/
  | anyCase (s : String)
  /-- One or more white space characters. -/
  | spaces
  /-- At most one white space character. -/
  | maybeSpace
deriving DecidableEq, Repr

abbrev Phrase := List Piece

/-- A letter that reads as the small ASCII letter when case is ignored.  The long s and the kelvin
sign are the only ones outside ASCII. -/
def foldsTo (c small : Char) : Bool :=
  c.toLower == small || (c == 'ſ' && small == 's') || (c.toNat == 0x212A && small == 'k')

/-- The rest of a text after characters that match the wanted ones one by one. -/
def stripWhile (same : Char → Char → Bool) : List Char → List Char → Option (List Char)
  | [], cs => some cs
  | _ :: _, [] => none
  | w :: ws, c :: cs => if same c w then stripWhile same ws cs else none

namespace Piece

/-- The rest of a text that begins with the piece. -/
def strip? : Piece → List Char → Option (List Char)
  | .exact s, cs => stripWhile (· == ·) s.toList cs
  | .anyCase s, cs => stripWhile foldsTo s.toList cs
  | .spaces, c :: cs => if Text.isSpace c then some (cs.dropWhile Text.isSpace) else none
  | .spaces, [] => none
  | .maybeSpace, c :: cs => some (if Text.isSpace c then cs else c :: cs)
  | .maybeSpace, [] => some []

end Piece

namespace Phrase

/-- The rest of a text that begins with the pieces. -/
def strip? : Phrase → List Char → Option (List Char)
  | [], cs => some cs
  | p :: ps, cs => (p.strip? cs).bind (strip? ps)

/-- The text begins with the phrase, and no word goes on behind it. -/
def begins (p : Phrase) (cs : List Char) : Bool :=
  (strip? p cs).any Text.endsWord

/-- The phrase occurs in a text that follows a word character or does not. -/
def occursAfter (p : Phrase) (inWord : Bool) : List Char → Bool
  | [] => false
  | c :: rest => (!inWord && begins p (c :: rest)) || occursAfter p (Text.isWordChar c) rest

def occursIn (p : Phrase) (text : String) : Bool :=
  occursAfter p false text.toList

end Phrase
end AgentSpec
