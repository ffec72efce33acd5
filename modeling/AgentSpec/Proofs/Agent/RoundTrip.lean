import AgentSpec.Proofs.Agent.Codec
import AgentSpec.Proofs.Json.Decoded

/-!
Graphs, requests and stored agents are read back from the values that they were written as.

Free-form queries are all that can stand in the way, and the instants of a stored agent: the other
entities are read back whatever they are.  A query is held with the members of its objects in order,
as every query is that was read, so what was read once is always read back.  Main statement:
`read_toJson`.
-/
namespace AgentSpec

open Reader (Ensures)

/-! ## What was read has its queries in order -/

theorem ScheduleStep.read_canonical :
    ScheduleStep.read.Ensures fun t => t.query.canonical = t.query := by
  refine .record fun g t h => ?_
  obtain ⟨_, order, h₁, -, rfl⟩ := Part.seq_eq_ok.mp h
  obtain ⟨_, action, h₂, -, rfl⟩ := Part.seq_eq_ok.mp h₁
  obtain ⟨_, query, h₃, hquery, rfl⟩ := Part.seq_eq_ok.mp h₂
  obtain ⟨model, -, rfl⟩ := Part.map_eq_ok.mp h₃
  exact Ensures.json.withDefault rfl hquery

theorem Schedule.read_canonical :
    Schedule.read.Ensures fun c => ∀ t ∈ c.steps, t.query.canonical = t.query := by
  refine .record fun g c h => ?_
  obtain ⟨_, steps, h₁, hsteps, rfl⟩ := Part.seq_eq_ok.mp h
  have hall := ScheduleStep.read_canonical.list.withDefault (List.forall_mem_nil _) hsteps
  obtain ⟨_, status, h₂, -, rfl⟩ := Part.seq_eq_ok.mp h₁
  obtain ⟨_, interval, h₃, -, rfl⟩ := Part.seq_eq_ok.mp h₂
  obtain ⟨_, mode, h₄, -, rfl⟩ := Part.seq_eq_ok.mp h₃
  obtain ⟨_, description, h₅, -, rfl⟩ := Part.seq_eq_ok.mp h₄
  obtain ⟨name, -, rfl⟩ := Part.map_eq_ok.mp h₅
  exact hall

theorem Graph.read_canonical : Graph.read.Ensures fun g =>
    ∀ c ∈ g.schedules, ∀ t ∈ c.steps, t.query.canonical = t.query := by
  refine .record fun given g h => ?_
  obtain ⟨_, schedules, h₁, hschedules, rfl⟩ := Part.seq_eq_ok.mp h
  have hall := Schedule.read_canonical.list.withDefault (List.forall_mem_nil _) hschedules
  obtain ⟨_, actions, h₂, -, rfl⟩ := Part.seq_eq_ok.mp h₁
  obtain ⟨_, models, h₃, -, rfl⟩ := Part.seq_eq_ok.mp h₂
  obtain ⟨root, -, rfl⟩ := Part.map_eq_ok.mp h₃
  exact hall

theorem Source.read_canonical : Source.read.Ensures Source.Canonical := by
  refine .tagged ?_
  simp only [List.map_cons, List.map_nil, List.forall_mem_cons, List.not_mem_nil, false_imp_iff,
    implies_true, and_true]
  constructor
  · refine .record fun given s h => ?_
    obtain ⟨g, hg, rfl⟩ := Part.map_eq_ok.mp h
    exact Graph.read_canonical.required hg
  · refine .record fun given s h => ?_
    obtain ⟨_, connections, h₁, -, rfl⟩ := Part.seq_eq_ok.mp h
    obtain ⟨wanted, -, rfl⟩ := Part.map_eq_ok.mp h₁
    trivial

theorem CompileRequest.read_canonical :
    CompileRequest.read.Ensures fun r => r.source.Canonical := by
  refine .openRecord Source.read_canonical fun given f source h hsource => ?_
  obtain ⟨_, owner, h₁, -, rfl⟩ := Part.seq_eq_ok.mp h
  obtain ⟨_, description, h₂, -, rfl⟩ := Part.seq_eq_ok.mp h₁
  obtain ⟨name, -, rfl⟩ := Part.map_eq_ok.mp h₂
  exact hsource

theorem StoredTurn.read_canonical :
    StoredTurn.read.Ensures fun t => t.step.query.canonical = t.step.query := by
  refine .openRecord ScheduleStep.read_canonical fun given f step h hstep => ?_
  obtain ⟨_, action, h₁, -, rfl⟩ := Part.seq_eq_ok.mp h
  obtain ⟨_, model, h₂, -, rfl⟩ := Part.seq_eq_ok.mp h₁
  obtain ⟨id, -, rfl⟩ := Part.map_eq_ok.mp h₂
  exact hstep

theorem StoredSchedule.read_canonical : StoredSchedule.read.Ensures fun c =>
    ∀ t ∈ c.steps, t.step.query.canonical = t.step.query := by
  refine .record fun g c h => ?_
  obtain ⟨_, steps, h₁, hsteps, rfl⟩ := Part.seq_eq_ok.mp h
  have hall := StoredTurn.read_canonical.list.required hsteps
  obtain ⟨_, status, h₂, -, rfl⟩ := Part.seq_eq_ok.mp h₁
  obtain ⟨_, interval, h₃, -, rfl⟩ := Part.seq_eq_ok.mp h₂
  obtain ⟨_, mode, h₄, -, rfl⟩ := Part.seq_eq_ok.mp h₃
  obtain ⟨_, description, h₅, -, rfl⟩ := Part.seq_eq_ok.mp h₄
  obtain ⟨_, name, h₆, -, rfl⟩ := Part.seq_eq_ok.mp h₅
  obtain ⟨id, -, rfl⟩ := Part.map_eq_ok.mp h₆
  exact hall

theorem StoredGraph.read_canonical : StoredGraph.read.Ensures fun g =>
    ∀ c ∈ g.schedules, ∀ t ∈ c.steps, t.step.query.canonical = t.step.query := by
  refine .record fun given g h => ?_
  obtain ⟨_, schedules, h₁, hschedules, rfl⟩ := Part.seq_eq_ok.mp h
  have hall := StoredSchedule.read_canonical.list.required hschedules
  obtain ⟨_, actions, h₂, -, rfl⟩ := Part.seq_eq_ok.mp h₁
  obtain ⟨_, models, h₃, -, rfl⟩ := Part.seq_eq_ok.mp h₂
  obtain ⟨agent, -, rfl⟩ := Part.map_eq_ok.mp h₃
  exact hall

/-! ## Round trips -/

/-- Queries that are held as maps hold them, and instants whose text reads back, are read back with
all that they belong to; and so is everything that was read from any value. -/
theorem read_toJson :
    (∀ g : Graph, (∀ c ∈ g.schedules, ∀ t ∈ c.steps, t.query.canonical = t.query) →
      Reader.ofJson Graph.read g.toJson = .ok g) ∧
    (∀ r : CompileRequest, r.source.Canonical →
      Reader.ofJson CompileRequest.read r.toJson = .ok r) ∧
    (∀ g : StoredGraph, g.Canonical → Reader.ofJson StoredGraph.read g.toJson = .ok g) ∧
    (∀ j g, Reader.ofJson Graph.read j = .ok g → Reader.ofJson Graph.read g.toJson = .ok g) ∧
    (∀ j r, Reader.ofJson CompileRequest.read j = .ok r →
      Reader.ofJson CompileRequest.read r.toJson = .ok r) ∧
    (∀ j g, Reader.ofJson StoredGraph.read j = .ok g → g.agent.createdAt.ReadsBack →
      g.agent.updatedAt.ReadsBack → Reader.ofJson StoredGraph.read g.toJson = .ok g) := by
  refine ⟨fun g h => ?_, fun r h => ?_, fun g h => ?_, fun j g h => ?_, fun j r h => ?_,
    fun j g h hc hu => ?_⟩
  · exact (Graph.reads_toJson h).ofJson
  · exact (CompileRequest.reads_toJson h).ofJson
  · exact (StoredGraph.reads_toJson h).ofJson
  · exact (Graph.reads_toJson (Graph.read_canonical _ g h)).ofJson
  · exact (CompileRequest.reads_toJson (CompileRequest.read_canonical _ r h)).ofJson
  · exact (StoredGraph.reads_toJson ⟨hc, hu, StoredGraph.read_canonical _ g h⟩).ofJson

section Witness

/-- A stored agent whose schedule asks for recent leads. -/
def weeklyAgent : StoredGraph where
  agent :=
    { id := "agent-01", name := "Sales", description := "", ownerId := "ada", rootModel := none
      connections := [], createdAt := ⟨20000, 43200, 0⟩, updatedAt := ⟨20000, 43200, 5000000⟩ }
  models := [⟨"model-01", { name := "Lead", fields := [.textField "name" "Name"] }⟩]
  actions := []
  schedules :=
    [{ id := "plan-01", name := "weekly", description := none, mode := .recurring
       intervalHours := some 168, status := .active
       steps :=
        [{ id := "turn-01", modelId := "model-01", actionId := "action-01"
           step :=
            { modelName := "Lead", actionName := "call", order := 1
              query := .object [("limit", .nat 10), ("stage", .object [("not", .null)])] } }] }]

def weeklyRequest : CompileRequest where
  name := "Sales"
  source := .graph weeklyAgent.toGraph

theorem read_toJson_weekly : weeklyAgent.Canonical ∧
    Reader.ofJson StoredGraph.read weeklyAgent.toJson = .ok weeklyAgent ∧
    Reader.ofJson CompileRequest.read weeklyRequest.toJson = .ok weeklyRequest ∧
    Reader.ofJson Graph.read weeklyAgent.toGraph.toJson = .ok weeklyAgent.toGraph := by
  have hqueries : ∀ c ∈ weeklyAgent.schedules, ∀ t ∈ c.steps,
      t.step.query.canonical = t.step.query := by decide +kernel
  have hgraph : ∀ c ∈ weeklyAgent.toGraph.schedules, ∀ t ∈ c.steps,
      t.query.canonical = t.query := by decide +kernel
  have hagent : weeklyAgent.Canonical := ⟨by rfl, by rfl, hqueries⟩
  obtain ⟨graphs, requests, agents, -⟩ := read_toJson
  exact ⟨hagent, agents _ hagent, requests _ hgraph, graphs _ hgraph⟩

end Witness

end AgentSpec
