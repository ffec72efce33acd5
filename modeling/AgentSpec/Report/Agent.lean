import AgentSpec.Agent.Stored
import AgentSpec.Report.Grid
import AgentSpec.Text.Label

/-!
Agents and their graphs as tables.
-/
namespace AgentSpec.Report

/-- What stands for nothing. -/
def dash : String := "—"

def orDash (s : String) : String := if Text.isBlank s then dash else s

/-- The widest name in a list of agents. -/
def nameLimit : Nat := 30

def agents (records : List AgentRecord) : Grid where
  header := ["ID", "Name", "Root model", "Connections", "Created"]
  rows := records.map fun a =>
    [a.id, Text.shorten nameLimit a.name, a.rootModel.getD dash,
      orDash (", ".intercalate (a.connections.map (·.provider))), a.createdAt.toDateText]

/-- The number of fields, and of derived ones if there are any. -/
def fieldCount (m : Model) : String :=
  let derived := m.fields.countP (·.derived)
  if derived = 0 then toString m.fields.length else s!"{m.fields.length} ({derived} derived)"

def models (g : StoredGraph) : Grid where
  header := ["ID", "Model", "Fields", "Display", "Forms"]
  rows := g.models.map fun m =>
    [m.id, m.model.name, fieldCount m.model,
      orDash (", ".intercalate (m.model.displayFields.getD [])), toString m.model.forms.length]

/-- A line for each step: its number, kind and name, and whether its code is still missing. -/
def stepLines (a : StoredAction) : List String :=
  a.steps.map fun s =>
    s!"{s.position + 1}. [{s.step.kind.toText}] {s.step.name}" ++
      (if s.ready then "" else " (code pending)")

def actions (g : StoredGraph) : Grid where
  header := ["ID", "Action", "Target", "Steps"]
  rows := g.actions.map fun a =>
    [a.id, if a.emoji.isEmpty then a.name else s!"{a.emoji} {a.name}", a.targetModel,
      "\n".intercalate (stepLines a)]

/-- When a schedule runs. -/
def runs (s : StoredSchedule) : String :=
  match s.mode, s.intervalHours with
  | .recurring, some hours => s!"every {hours}h"
  | _, _ => "once"

def schedules (g : StoredGraph) : Grid where
  header := ["ID", "Schedule", "Runs", "Steps"]
  rows := g.schedules.map fun s =>
    [s.id, s.name, runs s,
      "\n".intercalate (s.steps.map fun t =>
        s!"{t.step.order}: {t.step.actionName} on {t.step.modelName}")]

end AgentSpec.Report
