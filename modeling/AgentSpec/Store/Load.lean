import AgentSpec.Agent.Decode
import AgentSpec.Store.Row

/-!
Agents read back from the tables.

The entities of an agent come in the order of their creation times, its steps by position and the
turns of a schedule by order.  Names of models and actions are those of the rows that the stored
identifiers point to.
-/
namespace AgentSpec

namespace Store

/-- The rows in the order of a text that each has, equal ones in the order of writing. -/
def sortedBy (key : α → String) (rows : List α) : List α :=
  rows.mergeSort fun a b => key a ≤ key b

def readInstant (column text : String) : Except StoreError Instant :=
  (Instant.ofText text).mapError fun _ => .badTimestamp column

def model? (s : Store) (id : String) : Option ModelRow :=
  s.models.find? (·.id == id)

def action? (s : Store) (id : String) : Option ActionRow :=
  s.actions.find? (·.id == id)

end Store

namespace AgentRow

def read (r : AgentRow) : Except StoreError AgentRecord := do
  let connections ← r.connections.read (Reader.list Connection.read)
  let createdAt ← Store.readInstant "created_at" r.createdAt
  let updatedAt ← Store.readInstant "updated_at" r.updatedAt
  pure
    { id := r.id, name := r.name, description := r.description, ownerId := r.ownerId
      rootModel := r.rootModel, connections, createdAt, updatedAt }

end AgentRow

namespace ModelRow

def read (r : ModelRow) : Except StoreError StoredModel := do
  let displayFields ← r.displayFields.mapM (Column.read Reader.strings)
  let forms ← r.forms.read (Reader.list Form.read)
  let fields ← r.fields.read (Reader.list Field.read)
  return ⟨r.id, { name := r.name, fields, displayFields, forms }⟩

end ModelRow

namespace StepRow

def read (r : StepRow) : Except StoreError StoredStep := do
  let config ← r.config.read StepConfig.read
  let position ← r.position.readNat32 "position" "i64"
  let ready ← r.ready.readBool "execution_ready" "i32"
  let inputFields ← r.inputFields.read Reader.strings
  let outputFields ← r.outputFields.read Reader.strings
  pure
    { id := r.id, position, ready
      step := { name := r.name, description := r.description, inputFields, outputFields, config } }

end StepRow

namespace Store

/-- The stored steps of an action. -/
def stepsOf (s : Store) (actionId : String) : List StepRow :=
  (s.steps.filter (·.actionId == actionId)).mergeSort fun a b => a.position.le b.position

/-- The stored turns of a schedule. -/
def turnsOf (s : Store) (scheduleId : String) : List TurnRow :=
  (s.turns.filter (·.scheduleId == scheduleId)).mergeSort fun a b => a.order.le b.order

def readAction (s : Store) (r : ActionRow) (model : ModelRow) : Except StoreError StoredAction := do
  let steps ← (s.stepsOf r.id).mapM StepRow.read
  pure
    { id := r.id, modelId := r.modelId, name := r.name, title := r.title, emoji := r.emoji
      description := r.description, targetModel := model.name, steps }

def readTurn (r : TurnRow) (model : ModelRow) (action : ActionRow) :
    Except StoreError StoredTurn := do
  let query ← r.query.read Reader.json
  let order ← r.order.readNat32 "execution_order" "i64"
  pure
    { id := r.id, modelId := r.modelId, actionId := r.actionId
      step := { modelName := model.name, query, actionName := action.name, order } }

/-- The turns whose model and action are there. -/
def readTurns (s : Store) (scheduleId : String) : Except StoreError (List StoredTurn) :=
  ((s.turnsOf scheduleId).filterMap fun r => do
    return (r, ← s.model? r.modelId, ← s.action? r.actionId)).mapM
      fun (r, m, a) => readTurn r m a

def readSchedule (s : Store) (r : ScheduleRow) : Except StoreError StoredSchedule := do
  let steps ← s.readTurns r.id
  let intervalHours ← r.intervalHours.mapM fun c =>
    c.readNat32 "interval_hours" "core::option::Option<i64>"
  pure
    { id := r.id, name := r.name, description := r.description, mode := r.mode, intervalHours
      status := r.status, steps }

def modelsOf (s : Store) (agentId : String) : List ModelRow :=
  sortedBy (·.createdAt) (s.models.filter (·.agentId == agentId))

/-- The stored actions of an agent, each with its model. -/
def actionsOf (s : Store) (agentId : String) : List (ActionRow × ModelRow) :=
  (sortedBy (·.createdAt) (s.actions.filter (·.agentId == agentId))).filterMap fun r =>
    (s.model? r.modelId).map (r, ·)

def schedulesOf (s : Store) (agentId : String) : List ScheduleRow :=
  sortedBy (·.createdAt) (s.schedules.filter (·.agentId == agentId))

/-- The record of an agent, if there is one. -/
def agent? (s : Store) (agentId : String) : Except StoreError (Option AgentRecord) :=
  (s.agents.find? (·.id == agentId)).mapM AgentRow.read

/-- The whole graph of an agent, if there is one. -/
def load (s : Store) (agentId : String) : Except StoreError (Option StoredGraph) := do
  match ← s.agent? agentId with
  | none => return none
  | some agent =>
    let models ← (s.modelsOf agentId).mapM ModelRow.read
    let actions ← (s.actionsOf agentId).mapM fun (r, m) => s.readAction r m
    let schedules ← (s.schedulesOf agentId).mapM s.readSchedule
    return some { agent, models, actions, schedules }

/-- The agents of an owner, the newest first. -/
def agentsOf (s : Store) (ownerId : String) : Except StoreError (List AgentRecord) :=
  ((s.agents.filter (·.ownerId == ownerId)).mergeSort
    fun a b => b.createdAt ≤ a.createdAt).mapM AgentRow.read

end Store
end AgentSpec
