import AgentSpec.Text.LetterTable
import AgentSpec.Text.Ranges
import AgentSpec.Text.WordTable

/-!
Words.  A word boundary lies between a word character and anything else, so a text may be cut at a
boundary without touching a word.
-/
namespace AgentSpec.Text

def isWordChar (c : Char) : Bool :=
  if c.toNat < 0x80 then c.isAlphanum || c == '_' else inRanges wordRanges c.toNat

/-- Letters and numbers, without marks. -/
def isLetterOrNumber (c : Char) : Bool :=
  if c.toNat < 0x80 then c.isAlphanum else inRanges letterRanges c.toNat

/-- No word character comes next. -/
def endsWord (rest : List Char) : Bool :=
  !rest.head?.any isWordChar

end AgentSpec.Text
