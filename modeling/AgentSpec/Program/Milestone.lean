/-!
Milestones: what a run tells those who wait for it.
-/
namespace AgentSpec

/-- What a run did with an agent. -/
inductive Verb
  | compiled
  | updated
deriving DecidableEq, Repr

def Verb.toText : Verb → String
  | .compiled => "Compiled"
  | .updated => "Updated"

inductive Milestone
  | models (count : Nat)
  | actions (count steps : Nat)
  | schedules (count : Nat)
  | complete (verb : Verb) (agent : String)
deriving DecidableEq, Repr

namespace Milestone

/-- The part of the run that has ended. -/
def stage : Milestone → String
  | .models _ => "models"
  | .actions _ _ => "actions"
  | .schedules _ => "schedules"
  | .complete _ _ => "complete"

/-- How much of the run has been done. -/
def percent : Milestone → Nat
  | .models _ => 25
  | .actions _ _ => 50
  | .schedules _ => 75
  | .complete _ _ => 100

def message : Milestone → String
  | .models count => s!"Saved {count} models"
  | .actions count steps => s!"Saved {count} actions with {steps} steps"
  | .schedules count => s!"Saved {count} schedules"
  | .complete verb agent => verb.toText ++ " agent " ++ agent

end Milestone
end AgentSpec
