import AgentSpec.Graph.Basic
import AgentSpec.Text.Blank
import AgentSpec.Text.Names

/-!
Look-ups by name and counts.  Of several entities with one name the first is found.
-/
namespace AgentSpec

namespace Model

def field? (m : Model) (name : String) : Option Field :=
  m.fields.find? (·.name == name)

def hasField (m : Model) (name : String) : Bool :=
  m.fields.any (·.name == name)

def fieldNames (m : Model) : List String :=
  m.fields.map (·.name)

end Model

namespace Step

def kind (s : Step) : StepKind := s.config.kind

/-- The step can run as it is.  Custom code needs its code first. -/
def isReady (s : Step) : Bool :=
  match s.config with
  | .customCode code _ _ => code.any (!Text.isBlank ·)
  | _ => true

end Step

namespace Graph

def isEmpty (g : Graph) : Bool :=
  g.models.isEmpty && g.actions.isEmpty && g.schedules.isEmpty

def model? (g : Graph) (name : String) : Option Model :=
  g.models.find? (·.name == name)

def action? (g : Graph) (name : String) : Option Action :=
  g.actions.find? (·.name == name)

def schedule? (g : Graph) (name : String) : Option Schedule :=
  g.schedules.find? (·.name == name)

/-- The names of the models in order, each once. -/
def modelNames (g : Graph) : List String :=
  Text.sortedOnce (g.models.map (·.name))

/-- The names of the actions in order, each once. -/
def actionNames (g : Graph) : List String :=
  Text.sortedOnce (g.actions.map (·.name))

def stepCount (g : Graph) : Nat :=
  (g.actions.flatMap (·.steps)).length

def scheduleStepCount (g : Graph) : Nat :=
  (g.schedules.flatMap (·.steps)).length

def derivedFieldCount (g : Graph) : Nat :=
  (g.models.flatMap (·.fields)).countP (·.derived)

/-- The root of a graph that names none: its first model that is not the workspace. -/
def defaultRoot? (g : Graph) : Option String :=
  (g.models.find? (·.name != workspaceName)).map (·.name)

/-- The graph with its root filled in. -/
def withRoot (g : Graph) : Graph :=
  { g with rootModel := g.rootModel <|> g.defaultRoot? }

/-- The graph with a change to the first model of a name. -/
def changeModel (g : Graph) (name : String) (change : Model → Model) : Graph :=
  { g with models := go g.models }
where
  go : List Model → List Model
    | [] => []
    | m :: rest => if m.name == name then change m :: rest else m :: go rest

end Graph
end AgentSpec
