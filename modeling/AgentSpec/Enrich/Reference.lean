import AgentSpec.Enrich.Addition
import AgentSpec.Enrich.Issue
import AgentSpec.Graph.Shape

/-!
References by name: every name that a new graph uses is looked up in the stored graph and the new
one together, and every name that it defines must be free in the stored graph.
-/
namespace AgentSpec

/-- The names in reach of a new graph. -/
structure Scope where
  existing : Graph
  delta : Graph
  additions : Additions

namespace Scope

def modelNames (s : Scope) : List String :=
  Text.sortedOnce (s.existing.modelNames ++ s.delta.modelNames)

def actionNames (s : Scope) : List String :=
  Text.sortedOnce (s.existing.actionNames ++ s.delta.actionNames)

def hasModel (s : Scope) (name : String) : Bool :=
  s.modelNames.contains name

def model? (s : Scope) (name : String) : Option Model :=
  s.delta.model? name <|> s.existing.model? name

/-- The names of a model's fields, those added to it included. -/
def fieldNames (s : Scope) (model : String) : List String :=
  Text.sortedOnce (((s.model? model).map Model.fieldNames).getD [] ++
    (s.additions.fieldsOf model).map (·.name))

/-- The model that an action of this name works on; the last such action counts. -/
def target? (s : Scope) (action : String) : Option String :=
  ((s.existing.actions ++ s.delta.actions).reverse.find? (·.name == action)).map (·.targetModel)

def unresolvedModel (s : Scope) (path name : String) : Issue :=
  ⟨path, .unresolved "model" name s.modelNames⟩

/-- Names of the new graph that are taken. -/
def collisions (s : Scope) : List Issue :=
  ((s.delta.models.filter fun m => (s.existing.model? m.name).isSome).map
    fun m => ⟨m.path, .nameTaken .model⟩) ++
  ((s.delta.actions.filter fun a => (s.existing.action? a.name).isSome).map
    fun a => ⟨a.path, .nameTaken .action⟩) ++
  ((s.delta.schedules.filter fun t => (s.existing.schedule? t.name).isSome).map
    fun t => ⟨t.path, .nameTaken .schedule⟩)

def rootIssues (s : Scope) : List Issue :=
  s.delta.rootModel.toList.flatMap fun root =>
    if s.hasModel root then [] else [s.unresolvedModel "root model" root]

/-- The model of a reference exists, and so does the field there. -/
def referenceIssues (s : Scope) (path : String) (r : FieldReference) : List Issue :=
  if !s.hasModel r.model then [s.unresolvedModel path r.model]
  else if r.field == idField || (s.fieldNames r.model).contains r.field then []
  else [⟨path, .unresolved "field" r.field (idField :: s.fieldNames r.model)⟩]

def modelIssues (s : Scope) (m : Model) : List Issue :=
  (m.fields.flatMap fun f =>
    f.reference.toList.flatMap (s.referenceIssues (m.path ++ "." ++ f.name))) ++
  ((m.displayFields.getD []).filter (!m.hasField ·)).map fun name =>
    ⟨m.path ++ ".displayFields", .unresolved "field" name (Text.sorted m.fieldNames)⟩

def actionIssues (s : Scope) (a : Action) : List Issue :=
  if s.hasModel a.targetModel then [] else [s.unresolvedModel a.path a.targetModel]

/-- A schedule step's model and action exist and belong together. -/
def turnIssues (s : Scope) (path : String) (t : ScheduleStep) : List Issue :=
  (if s.hasModel t.modelName then [] else [s.unresolvedModel path t.modelName]) ++
  match s.target? t.actionName with
  | none => [⟨path, .unresolved "action" t.actionName s.actionNames⟩]
  | some target =>
    if s.hasModel t.modelName && target != t.modelName then
      [⟨path, .wrongTarget t.actionName target t.modelName⟩]
    else []

def scheduleIssues (s : Scope) (t : Schedule) : List Issue :=
  t.steps.zipIdx.flatMap fun (step, i) => s.turnIssues (t.path ++ s!".steps[{i}]") step

def issues (s : Scope) : List Issue :=
  s.collisions ++ s.rootIssues ++ s.delta.models.flatMap s.modelIssues ++
  s.delta.actions.flatMap s.actionIssues ++ s.delta.schedules.flatMap s.scheduleIssues

end Scope
end AgentSpec
