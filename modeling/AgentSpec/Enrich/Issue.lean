import AgentSpec.Graph.Basic

/-!
Names that do not resolve, or are taken.
-/
namespace AgentSpec

inductive EntityKind
  | model
  | action
  | schedule
deriving DecidableEq, Repr

/-- The kind with its article. -/
def EntityKind.phrase : EntityKind → String
  | .model => "a model"
  | .action => "an action"
  | .schedule => "a schedule"

inductive IssueCause
  /-- Nothing of that name exists; the names that would do are listed. -/
  | unresolved (what name : String) (candidates : List String)
  | nameTaken (kind : EntityKind)
  | wrongTarget (action target model : String)
  /-- An issue found elsewhere, in its own words. -/
  | reported (text : String)
deriving DecidableEq, Repr

namespace IssueCause

def message : IssueCause → String
  | .unresolved what name [] => s!"{what} '{name}' does not exist; no {what}s are defined"
  | .unresolved what name candidates =>
    s!"{what} '{name}' does not exist; valid {what}s: " ++ ", ".intercalate candidates
  | .nameTaken kind => kind.phrase ++ " with this name already exists"
  | .wrongTarget action target model =>
    s!"action '{action}' targets model '{target}', not '{model}'"
  | .reported text => text

def candidates : IssueCause → List String
  | .unresolved _ _ candidates => candidates
  | _ => []

end IssueCause

/-- An issue and the entity it was found at. -/
structure Issue where
  path : String
  cause : IssueCause
deriving DecidableEq, Repr

namespace Issue

def message (i : Issue) : String := i.cause.message

def line (i : Issue) : String := i.path ++ ": " ++ i.message

def summary (issues : List Issue) : String :=
  s!"{issues.length} referential integrity error(s): " ++ "; ".intercalate (issues.map line)

end Issue
end AgentSpec
