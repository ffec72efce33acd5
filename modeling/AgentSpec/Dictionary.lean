/-!
Dictionaries: values by name, listed in the order of the names with no name twice.
-/
namespace AgentSpec

abbrev Dictionary (α : Type) := List (String × α)

namespace Dictionary

/-- Put a value in its place; a name that is there takes the new value. -/
def insert (name : String) (a : α) : Dictionary α → Dictionary α
  | [] => [(name, a)]
  | (other, b) :: rest =>
    if name < other then (name, a) :: (other, b) :: rest
    else if name = other then (name, a) :: rest
    else (other, b) :: insert name a rest

/-- The entries in order; of equal names the last one counts. -/
def ofList (entries : List (String × α)) : Dictionary α :=
  entries.foldl (fun d e => d.insert e.1 e.2) []

def names (d : Dictionary α) : List String := d.map (·.1)

end Dictionary
end AgentSpec
