import AgentSpec.Graph.Basic

/-!
Entities as JSON values.  Members with nothing to say are left out where a reader fills them in.
-/
namespace AgentSpec

namespace Json

/-- A member that is left out when there is no value. -/
def optional (name : String) (f : α → Json) : Option α → List (String × Json)
  | none => []
  | some a => [(name, f a)]

def nat32 (n : UInt32) : Json := .nat n.toNat

end Json

namespace FieldReference

def toJson (r : FieldReference) : Json :=
  .ofMembers
    [("model", .string r.model), ("field", .string r.field),
      ("cardinality", .string r.cardinality.toText)]

end FieldReference

namespace Field

def toJson (f : Field) : Json :=
  .ofMembers <|
    [("name", .string f.name), ("title", .string f.title), ("type", .string f.type.toText),
      ("required", .bool f.required)] ++
    Json.optional "reference" FieldReference.toJson f.reference ++
    Json.optional "enumValues" Json.strings f.enumValues ++
    Json.optional "description" .string f.description ++
    (if f.derived then [("derived", .bool true)] else [])

end Field

namespace Form

def toJson (f : Form) : Json :=
  .ofMembers
    [("name", .string f.name), ("title", .string f.title), ("kind", .string f.kind.toText),
      ("fields", .strings f.fields)]

end Form

namespace Model

/-- The members of a model's object. -/
def members (m : Model) : List (String × Json) :=
  [("name", .string m.name), ("fields", .ofList Field.toJson m.fields)] ++
  Json.optional "displayFields" Json.strings m.displayFields ++
  (if m.forms.isEmpty then [] else [("forms", .ofList Form.toJson m.forms)])

def toJson (m : Model) : Json := .ofMembers m.members

end Model

namespace StepConfig

/-- The members of a configuration, its kind among them. -/
def members : StepConfig → List (String × Json)
  | .reasoning prompt model =>
    [("kind", .string StepKind.reasoning.toText), ("prompt", .string prompt)] ++
    Json.optional "model" .string model
  | .webSearch query maxResults =>
    [("kind", .string StepKind.webSearch.toText), ("query", .string query)] ++
    Json.optional "maxResults" .nat32 maxResults
  | .customCode code dependencies envVars =>
    [("kind", .string StepKind.customCode.toText)] ++ Json.optional "code" .string code ++
    [("dependencies", .strings dependencies), ("envVars", .strings envVars)]
  | .imageGeneration prompt aspectRatio =>
    [("kind", .string StepKind.imageGeneration.toText), ("prompt", .string prompt)] ++
    Json.optional "aspectRatio" .string aspectRatio

def toJson (c : StepConfig) : Json := .ofMembers c.members

end StepConfig

namespace Step

/-- The members of a step's object, those of its configuration among them. -/
def members (s : Step) : List (String × Json) :=
  [("name", .string s.name), ("description", .string s.description),
    ("inputFields", .strings s.inputFields), ("outputFields", .strings s.outputFields)] ++
  s.config.members

def toJson (s : Step) : Json := .ofMembers s.members

end Step

namespace Action

def toJson (a : Action) : Json :=
  .ofMembers
    [("name", .string a.name), ("title", .string a.title), ("emoji", .string a.emoji),
      ("description", .string a.description), ("targetModel", .string a.targetModel),
      ("steps", .ofList Step.toJson a.steps)]

end Action

namespace ScheduleStep

/-- The members of a schedule step's object. -/
def members (s : ScheduleStep) : List (String × Json) :=
  [("modelName", .string s.modelName), ("query", s.query), ("actionName", .string s.actionName),
    ("order", .nat32 s.order)]

def toJson (s : ScheduleStep) : Json := .ofMembers s.members

end ScheduleStep

namespace Schedule

def toJson (s : Schedule) : Json :=
  .ofMembers <|
    [("name", .string s.name)] ++ Json.optional "description" .string s.description ++
    [("mode", .string s.mode.toText)] ++ Json.optional "intervalHours" .nat32 s.intervalHours ++
    [("status", .string s.status.toText), ("steps", .ofList ScheduleStep.toJson s.steps)]

end Schedule

namespace Graph

def toJson (g : Graph) : Json :=
  .ofMembers <|
    Json.optional "rootModel" .string g.rootModel ++
    [("models", .ofList Model.toJson g.models), ("actions", .ofList Action.toJson g.actions),
      ("schedules", .ofList Schedule.toJson g.schedules)]

end Graph

namespace Connection

def toJson (c : Connection) : Json :=
  .ofMembers
    [("provider", .string c.provider), ("title", .string c.title), ("scopes", .strings c.scopes),
      ("fieldName", .string c.fieldName)]

end Connection
end AgentSpec
