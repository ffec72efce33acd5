import AgentSpec.Dictionary
import AgentSpec.Graph.Lookup
import AgentSpec.Time.Instant

/-!
Agents as the store hands them out: every entity with its identifier.
-/
namespace AgentSpec

/-- Identifiers by the names of entities. -/
abbrev Ids := Dictionary String

structure AgentRecord where
  id : String
  name : String
  description : String
  ownerId : String
  rootModel : Option String
  connections : List Connection
  createdAt : Instant
  updatedAt : Instant
deriving DecidableEq, Repr

structure StoredModel where
  id : String
  model : Model
deriving DecidableEq, Repr

structure StoredStep where
  id : String
  position : UInt32
  /-- False for custom code that is still to be written. -/
  ready : Bool
  step : Step
deriving DecidableEq, Repr

structure StoredAction where
  id : String
  modelId : String
  name : String
  title : String
  emoji : String
  description : String
  targetModel : String
  steps : List StoredStep
deriving DecidableEq, Repr

structure StoredTurn where
  id : String
  modelId : String
  actionId : String
  step : ScheduleStep
deriving DecidableEq, Repr

structure StoredSchedule where
  id : String
  name : String
  description : Option String
  mode : ScheduleMode
  intervalHours : Option UInt32
  status : ScheduleStatus
  steps : List StoredTurn
deriving DecidableEq, Repr

structure StoredGraph where
  agent : AgentRecord
  models : List StoredModel
  actions : List StoredAction
  schedules : List StoredSchedule
deriving DecidableEq, Repr

namespace StoredAction

def ofAction (id modelId : String) (a : Action) (steps : List StoredStep) : StoredAction where
  id := id
  modelId := modelId
  name := a.name
  title := a.title
  emoji := a.emoji
  description := a.description
  targetModel := a.targetModel
  steps := steps

def toAction (a : StoredAction) : Action where
  name := a.name
  title := a.title
  emoji := a.emoji
  description := a.description
  targetModel := a.targetModel
  steps := a.steps.map (·.step)

end StoredAction

namespace StoredSchedule

def ofSchedule (id : String) (s : Schedule) (steps : List StoredTurn) : StoredSchedule where
  id := id
  name := s.name
  description := s.description
  mode := s.mode
  intervalHours := s.intervalHours
  status := s.status
  steps := steps

def toSchedule (s : StoredSchedule) : Schedule where
  name := s.name
  description := s.description
  mode := s.mode
  intervalHours := s.intervalHours
  status := s.status
  steps := s.steps.map (·.step)

end StoredSchedule

namespace StoredGraph

/-- The graph without its identifiers. -/
def toGraph (g : StoredGraph) : Graph where
  rootModel := g.agent.rootModel
  models := g.models.map (·.model)
  actions := g.actions.map (·.toAction)
  schedules := g.schedules.map (·.toSchedule)

def modelIds (g : StoredGraph) : Ids :=
  Dictionary.ofList (g.models.map fun m => (m.model.name, m.id))

def actionIds (g : StoredGraph) : Ids :=
  Dictionary.ofList (g.actions.map fun a => (a.name, a.id))

def model? (g : StoredGraph) (name : String) : Option StoredModel :=
  g.models.find? (·.model.name == name)

def action? (g : StoredGraph) (name : String) : Option StoredAction :=
  g.actions.find? (·.name == name)

def schedule? (g : StoredGraph) (name : String) : Option StoredSchedule :=
  g.schedules.find? (·.name == name)

end StoredGraph
end AgentSpec
