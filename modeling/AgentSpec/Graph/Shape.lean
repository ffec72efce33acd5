import AgentSpec.Graph.Lookup
import AgentSpec.Graph.Violation

/-!
The shape of entities: what can be checked on each of them alone, without looking up a name.
-/
namespace AgentSpec

/-- A value that must be there, as `what`. -/
def blankViolation (path what value : String) : List Violation :=
  if Text.isBlank value then [⟨path, .missing what⟩] else []

/-- The members that occur a second time, each once, in the order of their second places. -/
def secondOccurrences [BEq α] (seen : List α) : List α → List α
  | [] => []
  | a :: rest =>
    if seen.count a = 1 then a :: secondOccurrences (a :: seen) rest
    else secondOccurrences (a :: seen) rest

def duplicateViolations (path what : String) (names : List String) : List Violation :=
  (secondOccurrences [] names).map fun name => ⟨path, .duplicateName what name⟩

def agentNameViolations (name : String) : List Violation :=
  blankViolation "agent" "agent name" name

namespace Field

/-- What a field of this type must carry. -/
def contentViolations (f : Field) (path : String) : List Violation :=
  match f.type with
  | .enum =>
    match f.enumValues.getD [] with
    | [] => [⟨path, .noEnumValues⟩]
    | values => if values.any Text.isBlank then [⟨path, .blankEnumValue⟩] else []
  | .reference =>
    if f.reference.any (!Text.isBlank ·.model) then [] else [⟨path, .noReferenceTarget⟩]
  | _ => []

def violations (f : Field) (path : String) : List Violation :=
  blankViolation path "field name" f.name ++ f.contentViolations path ++
  (if f.reference.isSome && f.type != .reference then [⟨path, .strayReference f.type⟩] else [])

end Field

namespace Model

def path (m : Model) : String := s!"model '{m.name}'"

/-- A form asks for fields of its model, and a new form only for fields that users fill in. -/
def formViolations (m : Model) (form : Form) : List Violation :=
  let path := m.path ++ ".forms." ++ form.name
  blankViolation path "form name" form.name ++
  form.fields.flatMap fun name =>
    match m.field? name with
    | none => [⟨path, .unknownFormField name⟩]
    | some f => if f.derived && form.kind == .new then [⟨path, .derivedFormField name⟩] else []

def violations (m : Model) : List Violation :=
  blankViolation m.path "model name" m.name ++
  duplicateViolations m.path "field" m.fieldNames ++
  (m.fields.flatMap fun f => f.violations (m.path ++ "." ++ f.name)) ++
  ((m.displayFields.getD []).filter (!m.hasField ·)).map
    (fun name => ⟨m.path, .unknownDisplayField name m.fieldNames⟩) ++
  m.forms.flatMap m.formViolations

end Model

namespace StepConfig

/-- The text that tells a step what to do, and what it is called. -/
def instruction? : StepConfig → Option (String × String)
  | .reasoning prompt _ => some ("prompt", prompt)
  | .imageGeneration prompt _ => some ("prompt", prompt)
  | .webSearch query _ => some ("query", query)
  | .customCode _ _ _ => none

end StepConfig

namespace Step

def violations (s : Step) (path : String) : List Violation :=
  blankViolation path "step name" s.name ++
  match s.config.instruction? with
  | some (what, text) => if Text.isBlank text then [⟨path, .noInstruction s.kind what⟩] else []
  | none => []

end Step

namespace Action

def path (a : Action) : String := s!"action '{a.name}'"

/-- The longest sequence of code points that is still one glyph. -/
def maxMarkerLength : Nat := 8

/-- One glyph, or nothing at all. -/
def isMarker (s : String) : Bool :=
  !s.toList.any Text.isSpace && s.length ≤ maxMarkerLength

def violations (a : Action) : List Violation :=
  blankViolation a.path "action name" a.name ++
  blankViolation a.path "action title" a.title ++
  blankViolation a.path "target model" a.targetModel ++
  (if isMarker a.emoji then [] else [⟨a.path, .wideMarker a.emoji⟩]) ++
  duplicateViolations a.path "step" (a.steps.map (·.name)) ++
  a.steps.zipIdx.flatMap fun (s, i) => s.violations (a.path ++ s!".steps[{i}]")

end Action

namespace Schedule

def path (s : Schedule) : String := s!"schedule '{s.name}'"

/-- A recurring schedule has an interval of an hour or more, a one-time schedule has none. -/
def intervalViolations (s : Schedule) : List Violation :=
  match s.mode, s.intervalHours with
  | .recurring, none => [⟨s.path, .noInterval⟩]
  | .recurring, some hours => if hours = 0 then [⟨s.path, .zeroInterval⟩] else []
  | .once, some _ => [⟨s.path, .strayInterval⟩]
  | .once, none => []

/-- The violations of the steps, whose orders differ from those seen and from each other. -/
def stepViolations (path : String) (seen : List UInt32) : Nat → List ScheduleStep → List Violation
  | _, [] => []
  | i, s :: rest =>
    let here := path ++ s!".steps[{i}]"
    blankViolation here "model name" s.modelName ++
    blankViolation here "action name" s.actionName ++
    (if seen.contains s.order then [⟨here, .duplicateOrder s.order⟩] else []) ++
    stepViolations path (s.order :: seen) (i + 1) rest

def violations (s : Schedule) : List Violation :=
  blankViolation s.path "schedule name" s.name ++
  s.intervalViolations ++
  (if s.steps.isEmpty then [⟨s.path, .noTurns⟩] else []) ++
  stepViolations s.path [] 0 s.steps

end Schedule

namespace Graph

def violations (g : Graph) : List Violation :=
  duplicateViolations "graph" "model" (g.models.map (·.name)) ++
  duplicateViolations "graph" "action" (g.actions.map (·.name)) ++
  duplicateViolations "graph" "schedule" (g.schedules.map (·.name)) ++
  g.rootModel.toList.flatMap (blankViolation "graph" "root model name") ++
  g.models.flatMap Model.violations ++
  g.actions.flatMap Action.violations ++
  g.schedules.flatMap Schedule.violations

end Graph

/-- The value, unless something is wrong with its shape. -/
def checked (vs : List Violation) (a : α) : Except (List Violation) α :=
  if vs.isEmpty then .ok a else .error vs

end AgentSpec
