/-!
Texts that stand somewhere inside another.
-/
namespace AgentSpec.Text

def hasFragment (fragment : List Char) : List Char → Bool
  | [] => fragment.isEmpty
  | c :: rest => fragment.isPrefixOf (c :: rest) || hasFragment fragment rest

/-- The fragment stands in the text. -/
def contains (s fragment : String) : Bool :=
  hasFragment fragment.toList s.toList

end AgentSpec.Text
