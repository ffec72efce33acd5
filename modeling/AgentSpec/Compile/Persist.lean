import AgentSpec.Enrich.Addition
import AgentSpec.Enrich.Warning
import AgentSpec.Program.Basic

/-!
Storing a completed graph in three stages: models, then actions with their steps, then schedules
with theirs.

The entities of a stage are stored side by side, the steps of one entity one after the other.  A
stage begins when the one before it has ended, and it stores nothing unless all its names have
identifiers.
-/
namespace AgentSpec

/-- Identifiers that are known by name. -/
structure Known where
  models : Ids := []
  actions : Ids := []
deriving DecidableEq, Repr

namespace Known

def ofStored (g : StoredGraph) : Known := ⟨g.modelIds, g.actionIds⟩

def addModel (known : Known) (m : StoredModel) : Known :=
  { known with models := known.models.insert m.model.name m.id }

def addAction (known : Known) (a : StoredAction) : Known :=
  { known with actions := known.actions.insert a.name a.id }

/-- The identifier of a model, or an issue at a path. -/
def model (known : Known) (path name : String) : Except Issue String :=
  match known.models.lookup name with
  | some id => .ok id
  | none => .error ⟨path, .unresolved "model" name (Dictionary.names known.models)⟩

/-- The identifier of an action, or an issue at a path. -/
def action (known : Known) (path name : String) : Except Issue String :=
  match known.actions.lookup name with
  | some id => .ok id
  | none => .error ⟨path, .unresolved "action" name (Dictionary.names known.actions)⟩

end Known

/-- All values, or all issues. -/
def gather : List (Except (List Issue) α) → Except (List Issue) (List α)
  | [] => .ok []
  | .ok a :: rest => (gather rest).map (a :: ·)
  | .error issues :: rest =>
    match gather rest with
    | .ok _ => .error issues
    | .error more => .error (issues ++ more)

/-- A graph that was stored, with all identifiers known afterwards. -/
structure Saved where
  models : List StoredModel
  actions : List StoredAction
  schedules : List StoredSchedule
  known : Known
  warnings : List Warning
deriving DecidableEq, Repr

namespace Strand

def saveModel (agentId : String) (m : Model) : Strand (Option StoredModel) := do
  let id ← ask .models (.createModel agentId m)
  return some ⟨id, m⟩

def appendFields (modelId : String) (fields : List Field) : Strand (Option StoredModel) := do
  ask .models (.appendFields modelId fields)
  return none

/-- A step with its code, if it needs code and the assistant writes some. -/
def prepare (coding : Bool) (a : Action) (s : Step) : Strand (Step × Option Warning) :=
  if s.kind ≠ .customCode ∨ s.isReady then .done (s, none)
  else if !coding then .done (s, some (.uncoded a.name s.name "code generation is disabled"))
  else .code (.ofStep a s) fun
    | .ok g =>
      if Text.isBlank g.code then
        .done (s, some (.uncoded a.name s.name "generator returned no code"))
      else .done ({ s with config := .customCode (some g.code) g.dependencies g.envVars }, none)
    | .error e => .done (s, some (.uncoded a.name s.name e.message))

def saveSteps (coding : Bool) (a : Action) (actionId : String) :
    Nat → List Step → Strand (List StoredStep × List Warning)
  | _, [] => return ([], [])
  | i, s :: rest => do
    let (step, warning) ← prepare coding a s
    let position := UInt32.ofNat i
    let id ← ask .actions (.createStep actionId position step step.isReady)
    let (saved, warnings) ← saveSteps coding a actionId (i + 1) rest
    return (⟨id, position, step.isReady, step⟩ :: saved, warning.toList ++ warnings)

def saveAction (coding : Bool) (agentId : String) (a : Action) (modelId : String) :
    Strand (StoredAction × List Warning) := do
  let id ← ask .actions (.createAction agentId modelId a)
  let (steps, warnings) ← saveSteps coding a id 0 a.steps
  return (.ofAction id modelId a steps, warnings)

def saveTurns (scheduleId : String) : List (ScheduleStep × String × String) →
    Strand (List StoredTurn)
  | [] => return []
  | (step, modelId, actionId) :: rest => do
    let id ← ask .schedules (.createTurn scheduleId modelId actionId step)
    return { id, modelId, actionId, step } :: (← saveTurns scheduleId rest)

def saveSchedule (agentId : String) (c : Schedule)
    (turns : List (ScheduleStep × String × String)) : Strand StoredSchedule := do
  let id ← ask .schedules (.createSchedule agentId c)
  return .ofSchedule id c (← saveTurns id turns)

end Strand

/-- The fields to append, with the identifiers of their models. -/
def Known.resolveAdditions (known : Known) (additions : Additions) :
    Except (List Issue) (List (String × List Field)) :=
  gather <| additions.map fun (name, fields) =>
    match known.model "field additions" name with
    | .ok id => .ok (id, fields)
    | .error i => .error [i]

/-- The actions with the identifiers of their models. -/
def Known.resolveActions (known : Known) (actions : List Action) :
    Except (List Issue) (List (Action × String)) :=
  gather <| actions.map fun a =>
    match known.model s!"action '{a.name}'" a.targetModel with
    | .ok id => .ok (a, id)
    | .error i => .error [i]

/-- A step of a schedule with the identifiers of its model and its action. -/
def Known.resolveTurn (known : Known) (path : String) (t : ScheduleStep) :
    Except (List Issue) (ScheduleStep × String × String) :=
  match known.model path t.modelName, known.action path t.actionName with
  | .ok modelId, .ok actionId => .ok (t, modelId, actionId)
  | .error i, .ok _ => .error [i]
  | .ok _, .error i => .error [i]
  | .error i, .error j => .error [i, j]

/-- The steps of a schedule by order, each with its place in the list. -/
def Schedule.turns (c : Schedule) : List (ScheduleStep × Nat) :=
  c.steps.zipIdx.mergeSort fun a b => a.1.order ≤ b.1.order

/-- The schedules, each with the identifiers of its steps. -/
def Known.resolveSchedules (known : Known) (schedules : List Schedule) :
    Except (List Issue) (List (Schedule × List (ScheduleStep × String × String))) :=
  gather <| schedules.map fun c =>
    (gather <| c.turns.map fun (t, i) =>
      known.resolveTurn s!"schedule '{c.name}'.steps[{i}]" t).map (c, ·)

namespace Program

/-- The issues as the error that ends a program. -/
def resolved (r : Except (List Issue) α) : Program α := .ofExcept (r.mapError .references)

def saveModels (agentId : String) (models : List Model) (additions : Additions)
    (known : Known) : Program (List StoredModel) := do
  let appends ← resolved (known.resolveAdditions additions)
  let saved ← all (models.map (Strand.saveModel agentId) ++
    appends.map fun (id, fields) => Strand.appendFields id fields)
  let saved := saved.filterMap id
  tell (.models saved.length)
  return saved

def saveActions (coding : Bool) (agentId : String) (actions : List Action)
    (known : Known) : Program (List StoredAction × List Warning) := do
  let targets ← resolved (known.resolveActions actions)
  let saved ← all (targets.map fun (a, modelId) => Strand.saveAction coding agentId a modelId)
  let stored := saved.map (·.1)
  tell (.actions stored.length (stored.flatMap (·.steps)).length)
  return (stored, saved.flatMap (·.2))

def saveSchedules (agentId : String) (schedules : List Schedule) (known : Known) :
    Program (List StoredSchedule) := do
  let plans ← resolved (known.resolveSchedules schedules)
  let saved ← all (plans.map fun (c, turns) => Strand.saveSchedule agentId c turns)
  tell (.schedules saved.length)
  return saved

/-- All three stages. -/
def save (coding : Bool) (agentId : String) (g : Graph) (additions : Additions) (known : Known) :
    Program Saved := do
  let models ← saveModels agentId g.models additions known
  let known := models.foldl Known.addModel known
  let (actions, warnings) ← saveActions coding agentId g.actions known
  let known := actions.foldl Known.addAction known
  let schedules ← saveSchedules agentId g.schedules known
  return { models, actions, schedules, known, warnings }

end Program
end AgentSpec
