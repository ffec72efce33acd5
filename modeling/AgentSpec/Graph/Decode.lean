import AgentSpec.Graph.Basic
import AgentSpec.Json.Record

/-!
Entities read from JSON values.
-/
namespace AgentSpec

def FieldType.read : Reader FieldType := Reader.choiceOf toText all

def Cardinality.read : Reader Cardinality := Reader.choiceOf toText all

def FieldReference.read : Reader FieldReference :=
  Reader.record "struct FieldReference" ["model", "field", "cardinality"] fun g =>
    FieldReference.mk <$> g.required 0 "model" Reader.string
      <*> g.withDefault 1 "field" idField Reader.string
      <*> g.withDefault 2 "cardinality" .one Cardinality.read

def Field.read : Reader Field :=
  Reader.record "struct Field"
    ["name", "title", "type", "required", "reference", "enumValues", "description", "derived"]
    fun g =>
      Field.mk <$> g.required 0 "name" Reader.string
        <*> g.required 1 "title" Reader.string
        <*> g.required 2 "type" FieldType.read
        <*> g.withDefault 3 "required" false Reader.bool
        <*> g.optional 4 "reference" FieldReference.read
        <*> g.optional 5 "enumValues" Reader.strings
        <*> g.optional 6 "description" Reader.string
        <*> g.withDefault 7 "derived" false Reader.bool

def FormKind.read : Reader FormKind := Reader.choiceOf toText all

def Form.read : Reader Form :=
  Reader.record "struct Form" ["name", "title", "kind", "fields"] fun g =>
    Form.mk <$> g.required 0 "name" Reader.string
      <*> g.required 1 "title" Reader.string
      <*> g.required 2 "kind" FormKind.read
      <*> g.withDefault 3 "fields" [] Reader.strings

def Model.read : Reader Model :=
  Reader.record "struct Model" ["name", "fields", "displayFields", "forms"] fun g =>
    Model.mk <$> g.required 0 "name" Reader.string
      <*> g.withDefault 1 "fields" [] (Reader.list Field.read)
      <*> g.optional 2 "displayFields" Reader.strings
      <*> g.withDefault 3 "forms" [] (Reader.list Form.read)

namespace StepConfig

def readReasoning : Reader StepConfig :=
  Reader.record "struct variant StepConfig::Reasoning" ["prompt", "model"] fun g =>
    StepConfig.reasoning <$> g.required 0 "prompt" Reader.string
      <*> g.optional 1 "model" Reader.string

def readWebSearch : Reader StepConfig :=
  Reader.record "struct variant StepConfig::WebSearch" ["query", "maxResults"] fun g =>
    StepConfig.webSearch <$> g.required 0 "query" Reader.string
      <*> g.optional 1 "maxResults" Reader.nat32

def readCustomCode : Reader StepConfig :=
  Reader.record "struct variant StepConfig::CustomCode" ["code", "dependencies", "envVars"] fun g =>
    StepConfig.customCode <$> g.optional 0 "code" Reader.string
      <*> g.withDefault 1 "dependencies" [] Reader.strings
      <*> g.withDefault 2 "envVars" [] Reader.strings

def readImageGeneration : Reader StepConfig :=
  Reader.record "struct variant StepConfig::ImageGeneration" ["prompt", "aspectRatio"] fun g =>
    StepConfig.imageGeneration <$> g.required 0 "prompt" Reader.string
      <*> g.optional 1 "aspectRatio" Reader.string

def readAs : StepKind → Reader StepConfig
  | .reasoning => readReasoning
  | .webSearch => readWebSearch
  | .customCode => readCustomCode
  | .imageGeneration => readImageGeneration

def read : Reader StepConfig :=
  Reader.tagged "StepConfig" "kind" (StepKind.all.map fun k => (k.toText, readAs k))

end StepConfig

def Step.read : Reader Step :=
  Reader.openRecord "struct Step" ["name", "description", "inputFields", "outputFields"]
    StepConfig.read fun g =>
      Step.mk <$> g.required 0 "name" Reader.string
        <*> g.withDefault 1 "description" "" Reader.string
        <*> g.withDefault 2 "inputFields" [] Reader.strings
        <*> g.withDefault 3 "outputFields" [] Reader.strings

def Action.read : Reader Action :=
  Reader.record "struct Action" ["name", "title", "emoji", "description", "targetModel", "steps"]
    fun g =>
      Action.mk <$> g.required 0 "name" Reader.string
        <*> g.required 1 "title" Reader.string
        <*> g.withDefault 2 "emoji" "" Reader.string
        <*> g.withDefault 3 "description" "" Reader.string
        <*> g.required 4 "targetModel" Reader.string
        <*> g.withDefault 5 "steps" [] (Reader.list Step.read)

def ScheduleMode.read : Reader ScheduleMode := Reader.choiceOf toText all

def ScheduleStatus.read : Reader ScheduleStatus := Reader.choiceOf toText all

/-- The fields of a schedule step, wherever they stand. -/
def ScheduleStep.fieldNames : List String := ["modelName", "query", "actionName", "order"]

def ScheduleStep.read : Reader ScheduleStep :=
  Reader.record "struct ScheduleStep" fieldNames fun g =>
    ScheduleStep.mk <$> g.required 0 "modelName" Reader.string
      <*> g.withDefault 1 "query" (.object []) Reader.json
      <*> g.required 2 "actionName" Reader.string
      <*> g.withDefault 3 "order" 0 Reader.nat32

def Schedule.read : Reader Schedule :=
  Reader.record "struct Schedule"
    ["name", "description", "mode", "intervalHours", "status", "steps"] fun g =>
      Schedule.mk <$> g.required 0 "name" Reader.string
        <*> g.optional 1 "description" Reader.string
        <*> g.required 2 "mode" ScheduleMode.read
        <*> g.optional 3 "intervalHours" Reader.nat32
        <*> g.withDefault 4 "status" .active ScheduleStatus.read
        <*> g.withDefault 5 "steps" [] (Reader.list ScheduleStep.read)

def Graph.read : Reader Graph :=
  Reader.record "struct AgentGraph" ["rootModel", "models", "actions", "schedules"] fun g =>
    Graph.mk <$> g.optional 0 "rootModel" Reader.string
      <*> g.withDefault 1 "models" [] (Reader.list Model.read)
      <*> g.withDefault 2 "actions" [] (Reader.list Action.read)
      <*> g.withDefault 3 "schedules" [] (Reader.list Schedule.read)

def Connection.read : Reader Connection :=
  Reader.record "struct Connection" ["provider", "title", "scopes", "fieldName"] fun g =>
    Connection.mk <$> g.required 0 "provider" Reader.string
      <*> g.required 1 "title" Reader.string
      <*> g.required 2 "scopes" Reader.strings
      <*> g.required 3 "fieldName" Reader.string

end AgentSpec
