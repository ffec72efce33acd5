import AgentSpec.Enrich.Addition
import AgentSpec.Text.Label

/-!
Step outputs as fields: what a step writes, its action's target model holds.
-/
namespace AgentSpec

/-- The text field for an output of a step. -/
def Field.ofOutput (name action step : String) : Field where
  name := name
  title := Text.label name
  type := .text
  description := some s!"Generated by step '{step}' of action '{action}'"
  derived := true

/-- The fields that an action's steps write. -/
def Action.outputs (a : Action) : List Field :=
  a.steps.flatMap fun s =>
    (s.outputFields.filter (!Text.isBlank ·)).map fun name => .ofOutput name a.name s.name

/-- The graph with a field for every output that the target model lacks. -/
def Draft.foldOutputs (existing : Graph) (d : Draft) : Draft :=
  d.graph.actions.foldl
    (fun d a => a.outputs.foldl (fun d f => d.addField existing a.targetModel f) d) d

end AgentSpec
