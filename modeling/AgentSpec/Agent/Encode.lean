import AgentSpec.Agent.Stored
import AgentSpec.Graph.Encode

/-!
Stored agents as JSON values.
-/
namespace AgentSpec

def Instant.toJson (t : Instant) : Json := .string t.toText

def AgentRecord.toJson (a : AgentRecord) : Json :=
  .ofMembers
    [("id", .string a.id), ("name", .string a.name), ("description", .string a.description),
      ("ownerId", .string a.ownerId), ("rootModel", .ofOption .string a.rootModel),
      ("connections", .ofList Connection.toJson a.connections),
      ("createdAt", a.createdAt.toJson), ("updatedAt", a.updatedAt.toJson)]

def StoredModel.toJson (m : StoredModel) : Json :=
  .ofMembers (("id", .string m.id) :: m.model.members)

def StoredStep.toJson (s : StoredStep) : Json :=
  .ofMembers <|
    [("id", .string s.id), ("position", .nat32 s.position), ("executionReady", .bool s.ready)] ++
    s.step.members

def StoredAction.toJson (a : StoredAction) : Json :=
  .ofMembers
    [("id", .string a.id), ("modelId", .string a.modelId), ("name", .string a.name),
      ("title", .string a.title), ("emoji", .string a.emoji),
      ("description", .string a.description), ("targetModel", .string a.targetModel),
      ("steps", .ofList StoredStep.toJson a.steps)]

def StoredTurn.toJson (t : StoredTurn) : Json :=
  .ofMembers <|
    [("id", .string t.id), ("modelId", .string t.modelId), ("actionId", .string t.actionId)] ++
    t.step.members

def StoredSchedule.toJson (s : StoredSchedule) : Json :=
  .ofMembers
    [("id", .string s.id), ("name", .string s.name),
      ("description", .ofOption .string s.description), ("mode", .string s.mode.toText),
      ("intervalHours", .ofOption .nat32 s.intervalHours), ("status", .string s.status.toText),
      ("steps", .ofList StoredTurn.toJson s.steps)]

def StoredGraph.toJson (g : StoredGraph) : Json :=
  .ofMembers
    [("agent", g.agent.toJson), ("models", .ofList StoredModel.toJson g.models),
      ("actions", .ofList StoredAction.toJson g.actions),
      ("schedules", .ofList StoredSchedule.toJson g.schedules)]

end AgentSpec
