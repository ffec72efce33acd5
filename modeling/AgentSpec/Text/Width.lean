import AgentSpec.Text.Width.Sequel

/-!
Columns that a text takes on a character grid.
-/
namespace AgentSpec.Text

/-- Columns of the characters, and what they are for the character before them. -/
def widthAndSequel : List Char → Int × Sequel
  | [] => (0, .plain)
  | c :: rest =>
    let (n, s) := widthAndSequel rest
    let (m, s) := s.before c
    (n + m, s)

def width (s : String) : Nat :=
  (widthAndSequel s.toList).1.toNat

end AgentSpec.Text
