/-!
The lines of a text.
-/
namespace AgentSpec.Text

/-- The pieces of a text, each up to and with its line feed. -/
def splitAfterFeeds : List Char → List (List Char)
  | [] => []
  | c :: rest =>
    if c = '\n' then [c] :: splitAfterFeeds rest
    else match splitAfterFeeds rest with
      | [] => [[c]]
      | line :: lines => (c :: line) :: lines

/-- A line without the line feed at its end and a carriage return before that. -/
def withoutEnd (line : List Char) : List Char :=
  match line.reverse with
  | '\n' :: '\r' :: rest => rest.reverse
  | '\n' :: rest => rest.reverse
  | _ => line

/-- The lines without their ends. -/
def lines (s : String) : List String :=
  (splitAfterFeeds s.toList).map fun line => String.ofList (withoutEnd line)

end AgentSpec.Text
