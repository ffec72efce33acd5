import AgentSpec.Agent.Stored
import AgentSpec.Graph.Decode
import AgentSpec.Time.Scan

/-!
Stored agents read from JSON values.
-/
namespace AgentSpec

def Instant.read : Reader Instant
  | .string o s => (ofRelaxed s).mapError fun f => ⟨.badInstant f.message, o.stop?⟩
  | d => .error (d.reject .instant)

def AgentRecord.read : Reader AgentRecord :=
  Reader.record "struct AgentRecord"
    ["id", "name", "description", "ownerId", "rootModel", "connections", "createdAt", "updatedAt"]
    fun g =>
      AgentRecord.mk <$> g.required 0 "id" Reader.string
        <*> g.required 1 "name" Reader.string
        <*> g.required 2 "description" Reader.string
        <*> g.required 3 "ownerId" Reader.string
        <*> g.nullable 4 "rootModel" Reader.string
        <*> g.required 5 "connections" (Reader.list Connection.read)
        <*> g.required 6 "createdAt" Instant.read
        <*> g.required 7 "updatedAt" Instant.read

def StoredModel.read : Reader StoredModel :=
  Reader.openRecord "struct PersistedModel" ["id"] Model.read fun g =>
    StoredModel.mk <$> g.required 0 "id" Reader.string

def StoredStep.read : Reader StoredStep :=
  Reader.openRecord "struct PersistedStep" ["id", "position", "executionReady"] Step.read fun g =>
    StoredStep.mk <$> g.required 0 "id" Reader.string
      <*> g.required 1 "position" Reader.nat32
      <*> g.required 2 "executionReady" Reader.bool

def StoredAction.read : Reader StoredAction :=
  Reader.record "struct PersistedAction"
    ["id", "modelId", "name", "title", "emoji", "description", "targetModel", "steps"] fun g =>
      StoredAction.mk <$> g.required 0 "id" Reader.string
        <*> g.required 1 "modelId" Reader.string
        <*> g.required 2 "name" Reader.string
        <*> g.required 3 "title" Reader.string
        <*> g.required 4 "emoji" Reader.string
        <*> g.required 5 "description" Reader.string
        <*> g.required 6 "targetModel" Reader.string
        <*> g.required 7 "steps" (Reader.list StoredStep.read)

def StoredTurn.read : Reader StoredTurn :=
  Reader.openRecord "struct PersistedScheduleStep" ["id", "modelId", "actionId"] ScheduleStep.read
    fun g =>
      StoredTurn.mk <$> g.required 0 "id" Reader.string
        <*> g.required 1 "modelId" Reader.string
        <*> g.required 2 "actionId" Reader.string

def StoredSchedule.read : Reader StoredSchedule :=
  Reader.record "struct PersistedSchedule"
    ["id", "name", "description", "mode", "intervalHours", "status", "steps"] fun g =>
      StoredSchedule.mk <$> g.required 0 "id" Reader.string
        <*> g.required 1 "name" Reader.string
        <*> g.nullable 2 "description" Reader.string
        <*> g.required 3 "mode" ScheduleMode.read
        <*> g.nullable 4 "intervalHours" Reader.nat32
        <*> g.required 5 "status" ScheduleStatus.read
        <*> g.required 6 "steps" (Reader.list StoredTurn.read)

def StoredGraph.read : Reader StoredGraph :=
  Reader.record "struct HydratedGraph" ["agent", "models", "actions", "schedules"] fun g =>
    StoredGraph.mk <$> g.required 0 "agent" AgentRecord.read
      <*> g.required 1 "models" (Reader.list StoredModel.read)
      <*> g.required 2 "actions" (Reader.list StoredAction.read)
      <*> g.required 3 "schedules" (Reader.list StoredSchedule.read)

end AgentSpec
