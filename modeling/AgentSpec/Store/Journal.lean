import AgentSpec.Store.Call

/-!
Journals: the writes that made a store, each with its stamp, as lines of JSON.

A store is what its journal leaves of the empty one, so a journal is all that has to be kept.
-/
namespace AgentSpec

namespace NewAgent

def toJson (a : NewAgent) : Json :=
  .ofMembers
    [("name", .string a.name), ("description", .string a.description),
      ("owner_id", .string a.ownerId), ("root_model", .ofOption .string a.rootModel),
      ("connections", .ofList Connection.toJson a.connections)]

def read : Reader NewAgent :=
  Reader.record "struct NewAgent" ["name", "description", "owner_id", "root_model", "connections"]
    fun g =>
      NewAgent.mk <$> g.required 0 "name" Reader.string
        <*> g.required 1 "description" Reader.string
        <*> g.required 2 "owner_id" Reader.string
        <*> g.nullable 3 "root_model" Reader.string
        <*> g.required 4 "connections" (Reader.list Connection.read)

end NewAgent

namespace AgentChange

def toJson (c : AgentChange) : Json :=
  .ofMembers
    [("description", .ofOption .string c.description),
      ("root_model", .ofOption .string c.rootModel),
      ("connections", .ofOption (.ofList Connection.toJson) c.connections)]

def read : Reader AgentChange :=
  Reader.record "struct AgentUpdate" ["description", "root_model", "connections"] fun g =>
    AgentChange.mk <$> g.nullable 0 "description" Reader.string
      <*> g.nullable 1 "root_model" Reader.string
      <*> g.nullable 2 "connections" (Reader.list Connection.read)

end AgentChange

namespace StoreCall

/-- The members that tell one call from another. -/
def members : StoreCall → List (String × Json)
  | .createAgent a => [("call", .string "create_agent"), ("agent", a.toJson)]
  | .updateAgent agentId c =>
    [("call", .string "update_agent"), ("agent_id", .string agentId), ("change", c.toJson)]
  | .createModel agentId m =>
    [("call", .string "create_model"), ("agent_id", .string agentId), ("model", m.toJson)]
  | .appendFields modelId fields =>
    [("call", .string "append_fields"), ("model_id", .string modelId),
      ("fields", .ofList Field.toJson fields)]
  | .createAction agentId modelId a =>
    [("call", .string "create_action"), ("agent_id", .string agentId),
      ("model_id", .string modelId), ("action", a.toJson)]
  | .createStep actionId position step ready =>
    [("call", .string "create_step"), ("action_id", .string actionId),
      ("position", .nat32 position), ("step", step.toJson), ("ready", .bool ready)]
  | .createSchedule agentId c =>
    [("call", .string "create_schedule"), ("agent_id", .string agentId), ("schedule", c.toJson)]
  | .createTurn scheduleId modelId actionId turn =>
    [("call", .string "create_turn"), ("schedule_id", .string scheduleId),
      ("model_id", .string modelId), ("action_id", .string actionId), ("turn", turn.toJson)]
  | .loadGraph agentId => [("call", .string "load_graph"), ("agent_id", .string agentId)]

/-- A call of one kind, read from its members. -/
def readForm (fields : List String) (build : Given → Part StoreCall) : Reader StoreCall :=
  Reader.record "a call" fields build

def read : Reader StoreCall :=
  Reader.tagged "a call" "call"
    [("create_agent", readForm ["agent"] fun g =>
        StoreCall.createAgent <$> g.required 0 "agent" NewAgent.read),
      ("update_agent", readForm ["agent_id", "change"] fun g =>
        StoreCall.updateAgent <$> g.required 0 "agent_id" Reader.string
          <*> g.required 1 "change" AgentChange.read),
      ("create_model", readForm ["agent_id", "model"] fun g =>
        StoreCall.createModel <$> g.required 0 "agent_id" Reader.string
          <*> g.required 1 "model" Model.read),
      ("append_fields", readForm ["model_id", "fields"] fun g =>
        StoreCall.appendFields <$> g.required 0 "model_id" Reader.string
          <*> g.required 1 "fields" (Reader.list Field.read)),
      ("create_action", readForm ["agent_id", "model_id", "action"] fun g =>
        StoreCall.createAction <$> g.required 0 "agent_id" Reader.string
          <*> g.required 1 "model_id" Reader.string
          <*> g.required 2 "action" Action.read),
      ("create_step", readForm ["action_id", "position", "step", "ready"] fun g =>
        StoreCall.createStep <$> g.required 0 "action_id" Reader.string
          <*> g.required 1 "position" Reader.nat32
          <*> g.required 2 "step" Step.read
          <*> g.required 3 "ready" Reader.bool),
      ("create_schedule", readForm ["agent_id", "schedule"] fun g =>
        StoreCall.createSchedule <$> g.required 0 "agent_id" Reader.string
          <*> g.required 1 "schedule" Schedule.read),
      ("create_turn", readForm ["schedule_id", "model_id", "action_id", "turn"] fun g =>
        StoreCall.createTurn <$> g.required 0 "schedule_id" Reader.string
          <*> g.required 1 "model_id" Reader.string
          <*> g.required 2 "action_id" Reader.string
          <*> g.required 3 "turn" ScheduleStep.read),
      ("load_graph", readForm ["agent_id"] fun g =>
        StoreCall.loadGraph <$> g.required 0 "agent_id" Reader.string)]

end StoreCall

/-- A call that reached the tables, and the stamp that it had. -/
structure JournalEntry where
  stamp : Stamp
  call : StoreCall
deriving DecidableEq, Repr

namespace JournalEntry

/-- The tables after the call. -/
def apply (s : Store) (e : JournalEntry) : Store := (e.call.answer e.stamp s).2

def toJson (e : JournalEntry) : Json :=
  .ofMembers
    (("id", .string e.stamp.id) :: ("now", .string e.stamp.now.toText) :: e.call.members)

def read : Reader JournalEntry :=
  Reader.openRecord "an entry" ["id", "now"] StoreCall.read fun g =>
    (fun id now call => ⟨⟨id, now⟩, call⟩) <$> g.required 0 "id" Reader.string
      <*> g.required 1 "now" Instant.read

/-- The line of an entry. -/
def line (e : JournalEntry) : String := e.toJson.compact

end JournalEntry

abbrev Journal := List JournalEntry

namespace Journal

/-- The store that a journal leaves. -/
def store (j : Journal) : Store := j.foldl JournalEntry.apply {}

/-- The entries that may have changed the tables. -/
def writes (j : Journal) : Journal := j.filter (·.call.isWrite)

def ofLines (lines : List String) : Except Refusal Journal :=
  lines.mapM (Reader.ofText JournalEntry.read)

theorem store_append (j k : Journal) :
    Journal.store (j ++ k) = k.foldl JournalEntry.apply j.store := by
  simp [store, List.foldl_append]

end Journal
end AgentSpec
