import AgentSpec.Graph.Decode
import AgentSpec.Graph.Encode

/-!
Requests: a new agent, given as a graph or as features to be worked out, and additions to one.
-/
namespace AgentSpec

/-- What users can do, what they provide for it and what is made of that. -/
structure Feature where
  description : String
  userProvides : String := ""
  aiShould : String := ""
deriving DecidableEq, Repr

/-- How a new agent is given. -/
inductive Source
  | graph (g : Graph)
  /-- Features, and the services that may be used for them. -/
  | features (wanted : List Feature) (connections : List String)
deriving DecidableEq, Repr

structure CompileRequest where
  name : String
  description : String := ""
  ownerId : String := ""
  source : Source
deriving DecidableEq, Repr

structure UpdateRequest where
  agentId : String := ""
  ownerId : String := ""
  models : List Model := []
  actions : List Action := []
  schedules : List Schedule := []
deriving DecidableEq, Repr

namespace UpdateRequest

/-- The additions as a graph of their own. -/
def delta (u : UpdateRequest) : Graph where
  models := u.models
  actions := u.actions
  schedules := u.schedules

end UpdateRequest

namespace Feature

def toJson (f : Feature) : Json :=
  .ofMembers
    [("description", .string f.description), ("userProvides", .string f.userProvides),
      ("aiShould", .string f.aiShould)]

def read : Reader Feature :=
  Reader.record "struct FeatureInput" ["description", "userProvides", "aiShould"] fun g =>
    Feature.mk <$> g.required 0 "description" Reader.string
      <*> g.withDefault 1 "userProvides" "" Reader.string
      <*> g.withDefault 2 "aiShould" "" Reader.string

end Feature

namespace Source

def members : Source → List (String × Json)
  | .graph g => [("mode", .string "graph"), ("graph", g.toJson)]
  | .features wanted connections =>
    [("mode", .string "features"), ("featureInputs", .ofList Feature.toJson wanted),
      ("connections", .strings connections)]

def read : Reader Source :=
  Reader.tagged "AgentSource" "mode"
    [("graph", Reader.record "struct variant AgentSource::Graph" ["graph"] fun g =>
        Source.graph <$> g.required 0 "graph" Graph.read),
      ("features", Reader.record "struct variant AgentSource::Features"
        ["featureInputs", "connections"] fun g =>
          Source.features <$> g.withDefault 0 "featureInputs" [] (Reader.list Feature.read)
            <*> g.withDefault 1 "connections" [] Reader.strings)]

end Source

namespace CompileRequest

def toJson (c : CompileRequest) : Json :=
  .ofMembers <|
    [("name", .string c.name), ("description", .string c.description),
      ("ownerId", .string c.ownerId)] ++ c.source.members

def read : Reader CompileRequest :=
  Reader.openRecord "struct CompileInput" ["name", "description", "ownerId"] Source.read fun g =>
    CompileRequest.mk <$> g.required 0 "name" Reader.string
      <*> g.withDefault 1 "description" "" Reader.string
      <*> g.withDefault 2 "ownerId" "" Reader.string

end CompileRequest

namespace UpdateRequest

def toJson (u : UpdateRequest) : Json :=
  .ofMembers
    [("agentId", .string u.agentId), ("ownerId", .string u.ownerId),
      ("modelsToAdd", .ofList Model.toJson u.models),
      ("actionsToAdd", .ofList Action.toJson u.actions),
      ("schedulesToAdd", .ofList Schedule.toJson u.schedules)]

def read : Reader UpdateRequest :=
  Reader.record "struct UpdateInput"
    ["agentId", "ownerId", "modelsToAdd", "actionsToAdd", "schedulesToAdd"] fun g =>
      UpdateRequest.mk <$> g.withDefault 0 "agentId" "" Reader.string
        <*> g.withDefault 1 "ownerId" "" Reader.string
        <*> g.withDefault 2 "modelsToAdd" [] (Reader.list Model.read)
        <*> g.withDefault 3 "actionsToAdd" [] (Reader.list Action.read)
        <*> g.withDefault 4 "schedulesToAdd" [] (Reader.list Schedule.read)

end UpdateRequest
end AgentSpec
