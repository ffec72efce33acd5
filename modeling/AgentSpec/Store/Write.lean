import AgentSpec.Agent.Encode
import AgentSpec.Graph.Shape
import AgentSpec.Json.Written
import AgentSpec.Store.Load

/-!
Writing to the tables.

A write succeeds as a whole or leaves the tables as they are.  Within an agent the names of models,
actions and schedules are distinct, and so are the positions in an action and the orders in a
schedule; every row points to rows that exist.
-/
namespace AgentSpec

structure NewAgent where
  name : String
  description : String
  ownerId : String
  rootModel : Option String
  connections : List Connection
deriving DecidableEq, Repr

/-- A change to an agent; what is none stays as it is. -/
structure AgentChange where
  description : Option String := none
  rootModel : Option String := none
  connections : Option (List Connection) := none
deriving DecidableEq, Repr

/-- What a new row gets from outside: its identifier and the time. -/
structure Stamp where
  id : String
  now : Instant
deriving DecidableEq, Repr

namespace Column

def ofConnections (cs : List Connection) : Column := .document (.ofList Connection.toJson cs)

def ofFields (fs : List Field) : Column := .document (.ofList Field.toJson fs)

def ofForms (fs : List Form) : Column := .document (.ofList Form.toJson fs)

def ofNames (names : List String) : Column := .document (.strings names)

/-- A free value, with the numbers that its text reads back as.  One that is nested too deeply is not
read again; it stays as it was written. -/
def ofQuery (j : Json) : Column :=
  .document (if j.depth ≤ Document.depthLimit then j.asWritten else j)

end Column

namespace Store

/-- The value, unless a constraint stands against it. -/
def unlessBroken (broken : List (Bool × Constraint)) (a : α) : Except StoreError α :=
  match broken.find? (·.1) with
  | some (_, c) => .error (.constraint c)
  | none => .ok a

/-- What can be wrong with the identifier of a new row. -/
def idConstraints (table id : String) (ids : List String) : List (Bool × Constraint) :=
  [(id.length < 8, .shortId), (ids.contains id, .primaryKey table)]

def hasAgent (s : Store) (id : String) : Bool := s.agents.any (·.id == id)
def hasModel (s : Store) (id : String) : Bool := s.models.any (·.id == id)
def hasAction (s : Store) (id : String) : Bool := s.actions.any (·.id == id)
def hasSchedule (s : Store) (id : String) : Bool := s.schedules.any (·.id == id)

def createAgent (t : Stamp) (a : NewAgent) (s : Store) : Except StoreError (AgentRecord × Store) :=
  if Text.isBlank a.name then .error (.invalidInput "Agent name is required")
  else
    let row : AgentRow :=
      { id := t.id, name := a.name, description := a.description, ownerId := a.ownerId
        rootModel := a.rootModel, connections := .ofConnections a.connections
        createdAt := t.now.toOffsetText, updatedAt := t.now.toOffsetText }
    let record : AgentRecord :=
      { id := t.id, name := a.name, description := a.description, ownerId := a.ownerId
        rootModel := a.rootModel, connections := a.connections
        createdAt := t.now, updatedAt := t.now }
    unlessBroken (idConstraints "agents" t.id (s.agents.map (·.id)))
      (record, { s with agents := s.agents ++ [row] })

/-- The agent with the change applied. -/
def AgentChange.apply (c : AgentChange) (now : Instant) (a : AgentRecord) : AgentRecord :=
  { a with
    description := c.description.getD a.description
    rootModel := c.rootModel <|> a.rootModel
    connections := c.connections.getD a.connections
    updatedAt := now }

def updateAgent (now : Instant) (agentId : String) (c : AgentChange) (s : Store) :
    Except StoreError (AgentRecord × Store) := do
  match ← s.agent? agentId with
  | none => throw (.notFound "Agent" agentId)
  | some old =>
    let new := AgentChange.apply c now old
    let change (r : AgentRow) : AgentRow :=
      if r.id = agentId then
        { r with
          description := new.description, rootModel := new.rootModel
          connections := .ofConnections new.connections, updatedAt := now.toOffsetText }
      else r
    return (new, { s with agents := s.agents.map change })

def createModel (t : Stamp) (agentId : String) (m : Model) (s : Store) : Except StoreError Store :=
  let row : ModelRow :=
    { id := t.id, agentId, name := m.name, fields := .ofFields m.fields
      displayFields := m.displayFields.map .ofNames, forms := .ofForms m.forms
      createdAt := t.now.toOffsetText }
  unlessBroken
    (idConstraints "agent_models" t.id (s.models.map (·.id)) ++
      [(s.models.any fun r => r.agentId == agentId && r.name == m.name,
          .unique "agent_models" ["agent_id", "name"]),
        (!s.hasAgent agentId, .foreignKey)])
    { s with models := s.models ++ [row] }

/-- The fields followed by those of the second list whose names are new. -/
def appendNew (old : List Field) (fields : List Field) : List Field :=
  fields.foldl (fun fs f => if fs.any (·.name == f.name) then fs else fs ++ [f]) old

def appendFields (modelId : String) (fields : List Field) (s : Store) :
    Except StoreError Store := do
  match s.model? modelId with
  | none => throw (.notFound "Model" modelId)
  | some row =>
    let old ← row.fields.read (Reader.list Field.read)
    let new := appendNew old fields
    if new.length = old.length then return s
    let change (r : ModelRow) : ModelRow :=
      if r.id = modelId then { r with fields := .ofFields new } else r
    return { s with models := s.models.map change }

def createAction (t : Stamp) (agentId modelId : String) (a : Action) (s : Store) :
    Except StoreError Store :=
  let row : ActionRow :=
    { id := t.id, agentId, modelId, name := a.name, title := a.title, emoji := a.emoji
      description := a.description, createdAt := t.now.toOffsetText }
  unlessBroken
    (idConstraints "agent_actions" t.id (s.actions.map (·.id)) ++
      [(s.actions.any fun r => r.agentId == agentId && r.name == a.name,
          .unique "agent_actions" ["agent_id", "name"]),
        (!s.hasAgent agentId || !s.hasModel modelId, .foreignKey)])
    { s with actions := s.actions ++ [row] }

def createStep (t : Stamp) (actionId : String) (position : UInt32) (step : Step) (ready : Bool)
    (s : Store) : Except StoreError Store :=
  let row : StepRow :=
    { id := t.id, actionId, position := .ofNat32 position, name := step.name
      description := step.description, kind := step.kind, config := .document step.config.toJson
      inputFields := .ofNames step.inputFields, outputFields := .ofNames step.outputFields
      ready := .ofBool ready, createdAt := t.now.toOffsetText }
  unlessBroken
    (idConstraints "action_steps" t.id (s.steps.map (·.id)) ++
      [(s.steps.any fun r => r.actionId == actionId && r.position == row.position,
          .unique "action_steps" ["action_id", "position"]),
        (!s.hasAction actionId, .foreignKey)])
    { s with steps := s.steps ++ [row] }

def createSchedule (t : Stamp) (agentId : String) (c : Schedule) (s : Store) :
    Except StoreError Store :=
  let row : ScheduleRow :=
    { id := t.id, agentId, name := c.name, description := c.description, mode := c.mode
      intervalHours := c.intervalHours.map .ofNat32, status := c.status
      createdAt := t.now.toOffsetText }
  unlessBroken
    (idConstraints "agent_schedules" t.id (s.schedules.map (·.id)) ++
      [(s.schedules.any fun r => r.agentId == agentId && r.name == c.name,
          .unique "agent_schedules" ["agent_id", "name"]),
        (!s.hasAgent agentId, .foreignKey)])
    { s with schedules := s.schedules ++ [row] }

def createTurn (t : Stamp) (scheduleId modelId actionId : String) (turn : ScheduleStep)
    (s : Store) : Except StoreError Store :=
  let row : TurnRow :=
    { id := t.id, scheduleId, modelId, actionId, query := .ofQuery turn.query
      order := .ofNat32 turn.order, createdAt := t.now.toOffsetText }
  unlessBroken
    (idConstraints "schedule_steps" t.id (s.turns.map (·.id)) ++
      [(s.turns.any fun r => r.scheduleId == scheduleId && r.order == row.order,
          .unique "schedule_steps" ["schedule_id", "execution_order"]),
        (!s.hasSchedule scheduleId || !s.hasModel modelId || !s.hasAction actionId, .foreignKey)])
    { s with turns := s.turns ++ [row] }

end Store
end AgentSpec
