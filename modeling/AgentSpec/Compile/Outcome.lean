import AgentSpec.Agent.Encode
import AgentSpec.Compile.Persist

/-!
What a successful run hands back.
-/
namespace AgentSpec

/-- How much a run stored. -/
structure Counts where
  models : Nat
  actions : Nat
  steps : Nat
  schedules : Nat
  turns : Nat
  derivedFields : Nat
  connections : Nat
deriving DecidableEq, Repr

structure Outcome where
  agentId : String
  counts : Counts
  summary : String
  warnings : List Warning
  graph : StoredGraph
deriving DecidableEq, Repr

namespace Counts

/-- The counts of a stored graph; the agent's connections are all that it has. -/
def ofSaved (s : Saved) (derivedFields connections : Nat) : Counts where
  models := s.models.length
  actions := s.actions.length
  steps := (s.actions.flatMap (·.steps)).length
  schedules := s.schedules.length
  turns := (s.schedules.flatMap (·.steps)).length
  derivedFields := derivedFields
  connections := connections

def toJson (c : Counts) : Json :=
  .ofMembers
    [("models", .nat c.models), ("actions", .nat c.actions), ("steps", .nat c.steps),
      ("schedules", .nat c.schedules), ("scheduleSteps", .nat c.turns),
      ("derivedFields", .nat c.derivedFields), ("connections", .nat c.connections)]

end Counts

namespace Outcome

/-- A report in a few lines. -/
def report (verb : Verb) (agent : AgentRecord) (c : Counts) (warnings : List Warning) : String :=
  "\n".intercalate <|
    [s!"{verb.toText} agent '{agent.name}' ({agent.id})",
      s!"  {c.models} models, {c.actions} actions with {c.steps} steps, " ++
        s!"{c.schedules} schedules with {c.turns} steps",
      s!"  {c.derivedFields} derived fields"] ++
    (agent.rootModel.map fun root => "  root model: " ++ root).toList ++
    (if agent.connections.isEmpty then []
      else ["  connections: " ++ ", ".intercalate (agent.connections.map (·.title))]) ++
    warnings.map fun w => "  warning: " ++ w.message

def ofStored (verb : Verb) (graph : StoredGraph) (counts : Counts) (warnings : List Warning) :
    Outcome where
  agentId := graph.agent.id
  counts := counts
  summary := report verb graph.agent counts warnings
  warnings := warnings
  graph := graph

def toJson (o : Outcome) : Json :=
  .ofMembers
    [("agentId", .string o.agentId), ("counts", o.counts.toJson), ("summary", .string o.summary),
      ("warnings", .ofList Warning.toJson o.warnings), ("graph", o.graph.toJson)]

end Outcome
end AgentSpec
