/-!
Lists of names in order.

`sorted` keeps repetitions, `sortedOnce` does not.  The order is that of the code points.
-/
namespace AgentSpec.Text

/-- Put a name in front of the first one that is not smaller. -/
def insertSorted (n : String) : List String → List String
  | [] => [n]
  | m :: rest => if m < n then m :: insertSorted n rest else n :: m :: rest

def sorted (names : List String) : List String :=
  names.foldr insertSorted []

/-- Put a name in its place unless it is there. -/
def insertOnce (n : String) : List String → List String
  | [] => [n]
  | m :: rest =>
    if m < n then m :: insertOnce n rest
    else if n < m then n :: m :: rest
    else m :: rest

def sortedOnce (names : List String) : List String :=
  names.foldr insertOnce []

end AgentSpec.Text
