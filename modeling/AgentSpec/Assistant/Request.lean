import AgentSpec.Agent.Request

/-!
What the assistant is asked for and what it answers.
-/
namespace AgentSpec

/-- A request for a whole agent graph. -/
structure SynthesisRequest where
  /-- The rules that the graph must keep. -/
  contract : String
  name : String
  description : String
  features : List Feature
  permitted : List String
deriving DecidableEq, Repr

/-- A request for the code of one step. -/
structure CodeRequest where
  stepName : String
  description : String
  inputFields : List String
  outputFields : List String
  /-- The target model of the step's action. -/
  modelName : String
deriving DecidableEq, Repr

structure GeneratedCode where
  code : String
  dependencies : List String := []
  envVars : List String := []
deriving DecidableEq, Repr

namespace CodeRequest

/-- The request for a step of an action. -/
def ofStep (a : Action) (s : Step) : CodeRequest where
  stepName := s.name
  description := s.description
  inputFields := s.inputFields
  outputFields := s.outputFields
  modelName := a.targetModel

def toJson (r : CodeRequest) : Json :=
  .ofMembers
    [("stepName", .string r.stepName), ("description", .string r.description),
      ("inputFields", .strings r.inputFields), ("outputFields", .strings r.outputFields),
      ("modelName", .string r.modelName)]

end CodeRequest

def GeneratedCode.toJson (g : GeneratedCode) : Json :=
  .ofMembers
    [("code", .string g.code), ("dependencies", .strings g.dependencies),
      ("envVars", .strings g.envVars)]

def GeneratedCode.read : Reader GeneratedCode :=
  Reader.record "struct GeneratedCode" ["code", "dependencies", "envVars"] fun g =>
    GeneratedCode.mk <$> g.required 0 "code" Reader.string
      <*> g.withDefault 1 "dependencies" [] Reader.strings
      <*> g.withDefault 2 "envVars" [] Reader.strings

end AgentSpec
