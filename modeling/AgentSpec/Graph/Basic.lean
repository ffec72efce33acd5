import AgentSpec.Json.Basic

/-!
Agent graphs: the models, actions and schedules of one agent, which refer to each other by name.
-/
namespace AgentSpec

inductive FieldType
  | text
  | number
  | boolean
  | date
  | reference
  | enum
  | imageUrl
  | oauth
deriving DecidableEq, Repr

/-- How many records a reference field points at. -/
inductive Cardinality
  | one
  | many
deriving DecidableEq, Repr

/-- The field that every model has without declaring it. -/
def idField : String := "id"

/-- The target of a reference field. -/
structure FieldReference where
  model : String
  field : String := idField
  cardinality : Cardinality := .one
deriving DecidableEq, Repr

structure Field where
  name : String
  title : String
  type : FieldType
  required : Bool := false
  reference : Option FieldReference := none
  enumValues : Option (List String) := none
  description : Option String := none
  /-- The field was made from a step's output. -/
  derived : Bool := false
deriving DecidableEq, Repr

/-- A new form creates a record, an edit form changes some fields of one. -/
inductive FormKind
  | new
  | edit
deriving DecidableEq, Repr

structure Form where
  name : String
  title : String
  kind : FormKind
  fields : List String := []
deriving DecidableEq, Repr

structure Model where
  name : String
  fields : List Field := []
  /-- The fields that stand for a record where others refer to it. -/
  displayFields : Option (List String) := none
  forms : List Form := []
deriving DecidableEq, Repr

inductive StepKind
  | reasoning
  | webSearch
  | customCode
  | imageGeneration
deriving DecidableEq, Repr

/-- What a step does, by its kind. -/
inductive StepConfig
  | reasoning (prompt : String) (model : Option String)
  | webSearch (query : String) (maxResults : Option UInt32)
  | customCode (code : Option String) (dependencies envVars : List String)
  | imageGeneration (prompt : String) (aspectRatio : Option String)
deriving DecidableEq, Repr

structure Step where
  name : String
  description : String := ""
  inputFields : List String := []
  outputFields : List String := []
  config : StepConfig
deriving DecidableEq, Repr

structure Action where
  name : String
  title : String
  /-- The marker shown next to the action. -/
  emoji : String := ""
  description : String := ""
  targetModel : String
  steps : List Step := []
deriving DecidableEq, Repr

inductive ScheduleMode
  | once
  | recurring
deriving DecidableEq, Repr

inductive ScheduleStatus
  | active
  | paused
deriving DecidableEq, Repr

/-- One turn of a schedule: the action runs on the records of the model that the query selects. -/
structure ScheduleStep where
  modelName : String
  query : Json := .object []
  actionName : String
  order : UInt32 := 0
deriving DecidableEq, Repr

structure Schedule where
  name : String
  description : Option String := none
  mode : ScheduleMode
  intervalHours : Option UInt32 := none
  status : ScheduleStatus := .active
  steps : List ScheduleStep := []
deriving DecidableEq, Repr

structure Graph where
  /-- The model that users see first. -/
  rootModel : Option String := none
  models : List Model := []
  actions : List Action := []
  schedules : List Schedule := []
deriving DecidableEq, Repr

/-- An account of an external service that an agent needs. -/
structure Connection where
  provider : String
  title : String
  scopes : List String
  /-- The field of the workspace that holds the credential. -/
  fieldName : String
deriving DecidableEq, Repr

/-- The model that carries an agent's credentials. -/
def workspaceName : String := "Workspace"

namespace FieldType

def toText : FieldType → String
  | .text => "text"
  | .number => "number"
  | .boolean => "boolean"
  | .date => "date"
  | .reference => "reference"
  | .enum => "enum"
  | .imageUrl => "image_url"
  | .oauth => "oauth"

def all : List FieldType :=
  [.text, .number, .boolean, .date, .reference, .enum, .imageUrl, .oauth]

end FieldType

namespace Cardinality

def toText : Cardinality → String
  | .one => "one"
  | .many => "many"

def all : List Cardinality := [.one, .many]

end Cardinality

namespace FormKind

def toText : FormKind → String
  | .new => "new"
  | .edit => "edit"

def all : List FormKind := [.new, .edit]

end FormKind

namespace StepKind

def toText : StepKind → String
  | .reasoning => "reasoning"
  | .webSearch => "web_search"
  | .customCode => "custom_code"
  | .imageGeneration => "image_generation"

def all : List StepKind := [.reasoning, .webSearch, .customCode, .imageGeneration]

end StepKind

namespace ScheduleMode

def toText : ScheduleMode → String
  | .once => "once"
  | .recurring => "recurring"

def all : List ScheduleMode := [.once, .recurring]

end ScheduleMode

namespace ScheduleStatus

def toText : ScheduleStatus → String
  | .active => "active"
  | .paused => "paused"

def all : List ScheduleStatus := [.active, .paused]

end ScheduleStatus

namespace Field

def isText (f : Field) : Bool := f.type == .text

def textField (name title : String) : Field := { name, title, type := .text }

/-- A field that points at another model's records. -/
def referenceField (name title model : String) (cardinality : Cardinality) : Field :=
  { name, title, type := .reference, reference := some { model, cardinality } }

def enumField (name title : String) (values : List String) : Field :=
  { name, title, type := .enum, enumValues := some values }

end Field

namespace StepConfig

def kind : StepConfig → StepKind
  | .reasoning _ _ => .reasoning
  | .webSearch _ _ => .webSearch
  | .customCode _ _ _ => .customCode
  | .imageGeneration _ _ => .imageGeneration

/-- A custom code step without its code. -/
def uncoded : StepConfig := .customCode none [] []

end StepConfig

namespace Schedule

def once (name : String) (steps : List ScheduleStep) : Schedule :=
  { name, mode := .once, steps }

def recurring (name : String) (intervalHours : UInt32) (steps : List ScheduleStep) : Schedule :=
  { name, mode := .recurring, intervalHours := some intervalHours, steps }

end Schedule
end AgentSpec
