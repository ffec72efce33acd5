/-!
Sets of characters as ranges of code points.
-/
namespace AgentSpec.Text

/-- The code point lies in one of the ranges, which name their first and last code point. -/
def inRanges (rs : List (Nat × Nat)) (n : Nat) : Bool :=
  rs.any fun r => r.1 ≤ n && n ≤ r.2

end AgentSpec.Text
