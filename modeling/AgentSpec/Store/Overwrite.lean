import AgentSpec.Store.Numeral
import AgentSpec.Store.Write

/-!
Changes from outside: one column of a row is overwritten, whatever it means.

Only the constraints of the tables are kept.  Every column turns a value into its own type where it
can: a number becomes a text, and a text that is a numeral becomes a number.
-/
namespace AgentSpec

inductive RawValue
  | null
  | int (n : Int)
  | text (s : String)
deriving DecidableEq, Repr

namespace RawValue

def text? : RawValue → Option String
  | .null => none
  | .int n => some (toString n)
  | .text s => some s

end RawValue

namespace Cell

/-- What a column for numbers makes of a value. -/
def ofRaw? : RawValue → Option Cell
  | .null => none
  | .int n => some (.int n)
  | .text s => some (((Numeral.ofText? s).map Numeral.toCell).getD (.text s))

end Cell

/-- A column by name, and how a row takes a value for it. -/
structure Setter (ρ : Type) where
  column : String
  set : RawValue → ρ → Except StoreError ρ

namespace Setter

/-- A column that must hold something. -/
def needed (table column : String) (read : RawValue → Option α) (set : α → ρ → ρ) : Setter ρ where
  column := column
  set v r := match read v with
    | some a => .ok (set a r)
    | none => .error (.constraint (.notNull table column))

/-- A column that may hold nothing. -/
def optional (column : String) (read : RawValue → Option α) (set : Option α → ρ → ρ) :
    Setter ρ where
  column := column
  set v r := .ok (set (read v) r)

def text (table column : String) (set : String → ρ → ρ) : Setter ρ :=
  needed table column RawValue.text? set

def document (table column : String) (set : Column → ρ → ρ) : Setter ρ :=
  text table column fun s => set (.foreign s)

/-- A column for one of several names. -/
def choice (table column : String) (toText : α → String) (all : List α) (set : α → ρ → ρ) :
    Setter ρ where
  column := column
  set v r := match v.text? with
    | none => .error (.constraint (.notNull table column))
    | some s => match all.find? (toText · == s) with
      | some a => .ok (set a r)
      | none => .error (.constraint (.oneOf column (all.map toText)))

end Setter

def AgentRow.setters : List (Setter AgentRow) :=
  let text := Setter.text "agents"
  [text "id" fun v r => { r with id := v },
    text "name" fun v r => { r with name := v },
    text "description" fun v r => { r with description := v },
    text "owner_id" fun v r => { r with ownerId := v },
    .optional "root_model" RawValue.text? fun v r => { r with rootModel := v },
    .document "agents" "connections" fun v r => { r with connections := v },
    text "created_at" fun v r => { r with createdAt := v },
    text "updated_at" fun v r => { r with updatedAt := v }]

def ModelRow.setters : List (Setter ModelRow) :=
  let text := Setter.text "agent_models"
  [text "id" fun v r => { r with id := v },
    text "agent_id" fun v r => { r with agentId := v },
    text "name" fun v r => { r with name := v },
    .document "agent_models" "fields" fun v r => { r with fields := v },
    .optional "display_fields" RawValue.text? fun v r =>
      { r with displayFields := v.map .foreign },
    .document "agent_models" "forms" fun v r => { r with forms := v },
    text "created_at" fun v r => { r with createdAt := v }]

def ActionRow.setters : List (Setter ActionRow) :=
  let text := Setter.text "agent_actions"
  [text "id" fun v r => { r with id := v },
    text "agent_id" fun v r => { r with agentId := v },
    text "model_id" fun v r => { r with modelId := v },
    text "name" fun v r => { r with name := v },
    text "title" fun v r => { r with title := v },
    text "emoji" fun v r => { r with emoji := v },
    text "description" fun v r => { r with description := v },
    text "created_at" fun v r => { r with createdAt := v }]

def StepRow.setters : List (Setter StepRow) :=
  let text := Setter.text "action_steps"
  let number (column : String) := Setter.needed "action_steps" column Cell.ofRaw?
  [text "id" fun v r => { r with id := v },
    text "action_id" fun v r => { r with actionId := v },
    number "position" fun v r => { r with position := v },
    text "name" fun v r => { r with name := v },
    text "description" fun v r => { r with description := v },
    .choice "action_steps" "kind" StepKind.toText
      [.reasoning, .webSearch, .customCode, .imageGeneration] fun v r => { r with kind := v },
    .document "action_steps" "config" fun v r => { r with config := v },
    .document "action_steps" "input_fields" fun v r => { r with inputFields := v },
    .document "action_steps" "output_fields" fun v r => { r with outputFields := v },
    number "execution_ready" fun v r => { r with ready := v },
    text "created_at" fun v r => { r with createdAt := v }]

def ScheduleRow.setters : List (Setter ScheduleRow) :=
  let text := Setter.text "agent_schedules"
  [text "id" fun v r => { r with id := v },
    text "agent_id" fun v r => { r with agentId := v },
    text "name" fun v r => { r with name := v },
    .optional "description" RawValue.text? fun v r => { r with description := v },
    .choice "agent_schedules" "mode" ScheduleMode.toText ScheduleMode.all fun v r =>
      { r with mode := v },
    .optional "interval_hours" Cell.ofRaw? fun v r => { r with intervalHours := v },
    .choice "agent_schedules" "status" ScheduleStatus.toText ScheduleStatus.all fun v r =>
      { r with status := v },
    text "created_at" fun v r => { r with createdAt := v }]

def TurnRow.setters : List (Setter TurnRow) :=
  let text := Setter.text "schedule_steps"
  [text "id" fun v r => { r with id := v },
    text "schedule_id" fun v r => { r with scheduleId := v },
    text "model_id" fun v r => { r with modelId := v },
    text "action_id" fun v r => { r with actionId := v },
    .document "schedule_steps" "query" fun v r => { r with query := v },
    .needed "schedule_steps" "execution_order" Cell.ofRaw? fun v r => { r with order := v },
    text "created_at" fun v r => { r with createdAt := v }]

namespace Store

/-- The rows, with a column overwritten in those with the identifier, and the number of these. -/
def overwriteRows (setters : List (Setter ρ)) (idOf : ρ → String) (column id : String)
    (v : RawValue) (rows : List ρ) : Except StoreError (Nat × List ρ) :=
  match setters.find? (·.column == column) with
  | none => .error (.unknownColumn column)
  | some setter => do
    let new ← rows.mapM fun r => if idOf r = id then setter.set v r else .ok r
    return (rows.countP (idOf · == id), new)

def hasRepeat [DecidableEq α] : List α → Bool
  | [] => false
  | a :: rest => rest.contains a || hasRepeat rest

/-- All that can be wrong with the identifiers of a table. -/
def idFaults (table : String) (ids : List String) : List (Bool × Constraint) :=
  [(ids.any (·.length < 8), .shortId), (hasRepeat ids, .primaryKey table)]

/-- All constraints between rows, each with whether it is broken. -/
def faults (s : Store) : List (Bool × Constraint) :=
  idFaults "agents" (s.agents.map (·.id)) ++ idFaults "agent_models" (s.models.map (·.id)) ++
  idFaults "agent_actions" (s.actions.map (·.id)) ++
  idFaults "action_steps" (s.steps.map (·.id)) ++
  idFaults "agent_schedules" (s.schedules.map (·.id)) ++
  idFaults "schedule_steps" (s.turns.map (·.id)) ++
  [(hasRepeat (s.models.map fun r => (r.agentId, r.name)),
      .unique "agent_models" ["agent_id", "name"]),
    (hasRepeat (s.actions.map fun r => (r.agentId, r.name)),
      .unique "agent_actions" ["agent_id", "name"]),
    (hasRepeat (s.steps.map fun r => (r.actionId, r.position)),
      .unique "action_steps" ["action_id", "position"]),
    (hasRepeat (s.schedules.map fun r => (r.agentId, r.name)),
      .unique "agent_schedules" ["agent_id", "name"]),
    (hasRepeat (s.turns.map fun r => (r.scheduleId, r.order)),
      .unique "schedule_steps" ["schedule_id", "execution_order"]),
    (s.models.any (fun r => !s.hasAgent r.agentId) ||
      s.actions.any (fun r => !s.hasAgent r.agentId || !s.hasModel r.modelId) ||
      s.steps.any (fun r => !s.hasAction r.actionId) ||
      s.schedules.any (fun r => !s.hasAgent r.agentId) ||
      s.turns.any (fun r =>
        !s.hasSchedule r.scheduleId || !s.hasModel r.modelId || !s.hasAction r.actionId),
      .foreignKey)]

/-- Overwrite a column in the rows of a table with an identifier, and tell how many there are. -/
def overwrite (table column id : String) (v : RawValue) (s : Store) :
    Except StoreError (Nat × Store) := do
  let (n, new) ← match table with
    | "agents" => do
      let (n, agents) ← overwriteRows AgentRow.setters (·.id) column id v s.agents
      pure (n, { s with agents })
    | "agent_models" => do
      let (n, models) ← overwriteRows ModelRow.setters (·.id) column id v s.models
      pure (n, { s with models })
    | "agent_actions" => do
      let (n, actions) ← overwriteRows ActionRow.setters (·.id) column id v s.actions
      pure (n, { s with actions })
    | "action_steps" => do
      let (n, steps) ← overwriteRows StepRow.setters (·.id) column id v s.steps
      pure (n, { s with steps })
    | "agent_schedules" => do
      let (n, schedules) ← overwriteRows ScheduleRow.setters (·.id) column id v s.schedules
      pure (n, { s with schedules })
    | "schedule_steps" => do
      let (n, turns) ← overwriteRows TurnRow.setters (·.id) column id v s.turns
      pure (n, { s with turns })
    | _ => throw (.unknownTable table)
  unlessBroken new.faults (n, new)

end Store
end AgentSpec
