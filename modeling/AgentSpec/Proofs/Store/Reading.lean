import AgentSpec.Proofs.Results
import AgentSpec.Proofs.Store.Grown

/-!
Agents read from the tables, whatever the order.

Lawful tables list the entities of an agent row by row, since every row points to rows that exist.
Loading an agent lists the same entities by creation times (`Store.load_of_lists`,
`Store.lists_of_load`).  A query that is nested too deeply is written but never read, so an agent that
is loaded has none (`Store.Lists.shallowFor`).
-/
namespace AgentSpec

/-- The column was overwritten from outside, or its value is nested no deeper than a reader
follows. -/
def Column.Shallow : Column → Prop
  | .document j => j.depth ≤ Document.depthLimit
  | .foreign _ => True

instance (c : Column) : Decidable c.Shallow :=
  match c with
  | .document j => inferInstanceAs (Decidable (j.depth ≤ Document.depthLimit))
  | .foreign _ => isTrue trivial

theorem Column.shallow_of_read {r : Reader α} {c : Column} {a : α} (h : c.read r = .ok a) :
    c.Shallow := by
  cases c with
  | document j =>
    show j.depth ≤ Document.depthLimit
    by_contra hdeep
    rw [read, if_neg hdeep] at h
    cases h
  | foreign text => trivial

namespace Store

theorem sortedBy_perm (key : α → String) (rows : List α) : (sortedBy key rows).Perm rows :=
  List.mergeSort_perm ..

theorem sortedBy_of_pairwise {key : α → String} {rows : List α}
    (h : rows.Pairwise fun a b => key a ≤ key b) : sortedBy key rows = rows :=
  List.mergeSort_of_pairwise (h.imp fun hle => decide_eq_true hle)

/-! ## Actions and turns with what they point to -/

/-- The error for a row that points to nothing; lawful tables have none. -/
def dangling : StoreError := .constraint .foreignKey

/-- An action with its steps, by the name of its model. -/
def readActionOf (s : Store) (r : ActionRow) : Except StoreError StoredAction :=
  match s.model? r.modelId with
  | some m => s.readAction r m
  | none => .error dangling

/-- A turn, by the names of its model and its action. -/
def readTurnOf (s : Store) (r : TurnRow) : Except StoreError StoredTurn :=
  match s.model? r.modelId, s.action? r.actionId with
  | some m, some a => readTurn r m a
  | _, _ => .error dangling

variable {s s' : Store} {agentId : String} {h : StoredGraph}

theorem exists_model? {id : String} (hid : s.hasModel id) :
    ∃ m, s.model? id = some m ∧ m ∈ s.models ∧ m.id = id := by
  obtain ⟨m, hm⟩ := Option.isSome_iff_exists.mp (List.find?_isSome.mpr (List.any_eq_true.mp hid))
  exact ⟨m, hm, List.mem_of_find?_eq_some hm, by simpa using List.find?_some hm⟩

theorem exists_action? {id : String} (hid : s.hasAction id) :
    ∃ a, s.action? id = some a ∧ a ∈ s.actions ∧ a.id = id := by
  obtain ⟨a, ha⟩ := Option.isSome_iff_exists.mp (List.find?_isSome.mpr (List.any_eq_true.mp hid))
  exact ⟨a, ha, List.mem_of_find?_eq_some ha, by simpa using List.find?_some ha⟩

theorem readTurns_eq (hs : s.Lawful) (scheduleId : String) :
    s.readTurns scheduleId = (s.turnsOf scheduleId).mapM s.readTurnOf := by
  refine filterMap_mapM fun r hr => ?_
  have hmem : r ∈ s.turns := List.mem_of_mem_filter (List.mem_mergeSort.mp hr)
  obtain ⟨-, hmodel, haction⟩ := hs.turnParents r hmem
  obtain ⟨m, hm, -⟩ := exists_model? hmodel
  obtain ⟨a, ha, -⟩ := exists_action? haction
  refine ⟨(r, m, a), ?_, ?_⟩
  · rw [hm, ha]
    rfl
  · rw [readTurnOf, hm, ha]

theorem actionsOf_mapM (hs : s.Lawful) (agentId : String) :
    ((s.actionsOf agentId).mapM fun (r, m) => s.readAction r m) =
      (sortedBy (·.createdAt) (s.actions.filter (·.agentId == agentId))).mapM s.readActionOf := by
  refine filterMap_mapM fun r hr => ?_
  have hmem : r ∈ s.actions := List.mem_of_mem_filter ((sortedBy_perm _ _).mem_iff.mp hr)
  obtain ⟨m, hm, -⟩ := exists_model? (hs.actionParents r hmem).2
  refine ⟨(r, m), ?_, ?_⟩
  · rw [hm]
    rfl
  · rw [readActionOf, hm]

theorem readActionOf_eq_ok {r : ActionRow} {a : StoredAction} (h : s.readActionOf r = .ok a) :
    r.id = a.id ∧ r.name = a.name ∧ (s.stepsOf r.id).mapM StepRow.read = .ok a.steps := by
  unfold readActionOf at h
  cases hm : s.model? r.modelId with
  | none =>
    rw [hm] at h
    cases h
  | some m =>
    rw [hm] at h
    obtain ⟨steps, hsteps, h⟩ := bind_eq_ok.mp h
    cases h
    exact ⟨rfl, rfl, hsteps⟩

theorem readSchedule_eq_ok {r : ScheduleRow} {c : StoredSchedule} (h : s.readSchedule r = .ok c) :
    r.id = c.id ∧ r.name = c.name ∧ s.readTurns r.id = .ok c.steps := by
  obtain ⟨turns, hturns, h⟩ := bind_eq_ok.mp h
  obtain ⟨hours, -, h⟩ := bind_eq_ok.mp h
  cases h
  exact ⟨rfl, rfl, hturns⟩

theorem readTurnOf_eq_ok {r : TurnRow} {t : StoredTurn} (h : s.readTurnOf r = .ok t) :
    r.id = t.id ∧ r.order.readNat32 "execution_order" "i64" = .ok t.step.order ∧
      r.query.Shallow := by
  unfold readTurnOf at h
  split at h
  · obtain ⟨query, hquery, h⟩ := bind_eq_ok.mp h
    obtain ⟨order, horder, h⟩ := bind_eq_ok.mp h
    cases h
    exact ⟨rfl, horder, Column.shallow_of_read hquery⟩
  · cases h

/-! ## Agents -/

/-- The graph lists the entities of the agent in the order of their rows. -/
structure Lists (s : Store) (agentId : String) (h : StoredGraph) : Prop where
  agent : ∃ row, s.agents.find? (·.id == agentId) = some row ∧ row.read = .ok h.agent
  models : List.Forall₂ (fun r m => r.read = .ok m) (s.models.filter (·.agentId == agentId))
    h.models
  actions : List.Forall₂ (fun r a => s.readActionOf r = .ok a)
    (s.actions.filter (·.agentId == agentId)) h.actions
  schedules : List.Forall₂ (fun r c => s.readSchedule r = .ok c)
    (s.schedules.filter (·.agentId == agentId)) h.schedules

/-- Rows stand in the order of their creation times. -/
structure Chronological (s : Store) : Prop where
  models : s.models.Pairwise fun a b => a.createdAt ≤ b.createdAt
  actions : s.actions.Pairwise fun a b => a.createdAt ≤ b.createdAt
  schedules : s.schedules.Pairwise fun a b => a.createdAt ≤ b.createdAt

end Store

/-- The same entities in an order of their own. -/
structure StoredGraph.Reorders (g h : StoredGraph) : Prop where
  agent : g.agent = h.agent
  models : g.models.Perm h.models
  actions : g.actions.Perm h.actions
  schedules : g.schedules.Perm h.schedules

namespace Store

variable {s s' : Store} {agentId : String} {h : StoredGraph}

theorem load_eq_none (hnone : s.agents.find? (·.id == agentId) = none) :
    s.load agentId = .ok none := by
  rw [load, agent?, hnone]
  rfl

theorem load_eq_ok {row : AgentRow} (hrow : s.agents.find? (·.id == agentId) = some row) :
    s.load agentId = .ok (some h) ↔ row.read = .ok h.agent ∧
      (s.modelsOf agentId).mapM ModelRow.read = .ok h.models ∧
      ((s.actionsOf agentId).mapM fun (r, m) => s.readAction r m) = .ok h.actions ∧
      (s.schedulesOf agentId).mapM s.readSchedule = .ok h.schedules := by
  have hagent : s.agent? agentId = row.read.map some := by
    rw [agent?, hrow]
    rfl
  rw [load, hagent, bind_eq_ok]
  constructor
  · rintro ⟨found, hfound, hload⟩
    obtain ⟨agent, hread, rfl⟩ := map_eq_ok.mp hfound
    obtain ⟨models, hmodels, hload⟩ := bind_eq_ok.mp hload
    obtain ⟨actions, hactions, hload⟩ := bind_eq_ok.mp hload
    obtain ⟨schedules, hschedules, hload⟩ := bind_eq_ok.mp hload
    cases hload
    exact ⟨hread, hmodels, hactions, hschedules⟩
  · rintro ⟨hread, hmodels, hactions, hschedules⟩
    refine ⟨some h.agent, map_eq_ok.mpr ⟨_, hread, rfl⟩, ?_⟩
    refine bind_eq_ok.mpr ⟨_, hmodels, ?_⟩
    refine bind_eq_ok.mpr ⟨_, hactions, ?_⟩
    exact bind_eq_ok.mpr ⟨_, hschedules, rfl⟩

/-- An agent that is loaded has its row. -/
theorem exists_row_of_load (hload : s.load agentId = .ok (some h)) :
    ∃ row, s.agents.find? (·.id == agentId) = some row := by
  cases hrow : s.agents.find? (·.id == agentId) with
  | some row => exact ⟨row, rfl⟩
  | none =>
    rw [load_eq_none hrow] at hload
    cases hload

theorem lists_of_load (hs : s.Lawful) (hload : s.load agentId = .ok (some h)) :
    ∃ g, s.Lists agentId g ∧ g.Reorders h := by
  obtain ⟨row, hrow⟩ := exists_row_of_load hload
  obtain ⟨hagent, hmodels, hactions, hschedules⟩ := (load_eq_ok hrow).mp hload
  rw [actionsOf_mapM hs] at hactions
  rw [mapM_eq_ok] at hmodels hactions hschedules
  obtain ⟨models, hm, hmp⟩ := forall₂_perm hmodels (sortedBy_perm _ _).symm
  obtain ⟨actions, ha, hap⟩ := forall₂_perm hactions (sortedBy_perm _ _).symm
  obtain ⟨schedules, hc, hcp⟩ := forall₂_perm hschedules (sortedBy_perm _ _).symm
  exact ⟨⟨h.agent, models, actions, schedules⟩, ⟨⟨row, hrow, hagent⟩, hm, ha, hc⟩,
    ⟨rfl, hmp, hap, hcp⟩⟩

theorem load_of_lists (hs : s.Lawful) (hl : s.Lists agentId h) :
    ∃ g, s.load agentId = .ok (some g) ∧ g.Reorders h := by
  obtain ⟨row, hrow, hagent⟩ := hl.agent
  obtain ⟨models, hm, hmp⟩ := forall₂_perm hl.models (sortedBy_perm (·.createdAt) _)
  obtain ⟨actions, ha, hap⟩ := forall₂_perm hl.actions (sortedBy_perm (·.createdAt) _)
  obtain ⟨schedules, hc, hcp⟩ := forall₂_perm hl.schedules (sortedBy_perm (·.createdAt) _)
  refine ⟨⟨h.agent, models, actions, schedules⟩, (load_eq_ok hrow).mpr ⟨hagent, ?_, ?_, ?_⟩,
    ⟨rfl, hmp, hap, hcp⟩⟩
  · exact mapM_eq_ok.mpr hm
  · rw [actionsOf_mapM hs]
    exact mapM_eq_ok.mpr ha
  · exact mapM_eq_ok.mpr hc

/-- No turn of the agent has a query that is nested too deeply. -/
def ShallowFor (s : Store) (agentId : String) : Prop :=
  ∀ c ∈ s.schedules, c.agentId = agentId → ∀ r ∈ s.turns, r.scheduleId = c.id → r.query.Shallow

instance (s : Store) (agentId : String) : Decidable (s.ShallowFor agentId) :=
  inferInstanceAs (Decidable (∀ c ∈ s.schedules, _))

theorem ShallowFor.mono (h : s'.ShallowFor agentId) (hschedules : s.schedules ⊆ s'.schedules)
    (hturns : s.turns ⊆ s'.turns) : s.ShallowFor agentId :=
  fun c hc hagent r hr => h c (hschedules hc) hagent r (hturns hr)

theorem Lists.shallowFor (hl : s.Lists agentId h) (hs : s.Lawful) : s.ShallowFor agentId := by
  intro c hc hagent r hr hparent
  have hrow : c ∈ s.schedules.filter (·.agentId == agentId) :=
    List.mem_filter.mpr ⟨hc, beq_iff_eq.mpr hagent⟩
  obtain ⟨p, -, hread⟩ := forall₂_mem_left hl.schedules hrow
  obtain ⟨-, -, hturns⟩ := readSchedule_eq_ok hread
  rw [readTurns_eq hs, mapM_eq_ok] at hturns
  have hturn : r ∈ s.turnsOf c.id :=
    List.mem_mergeSort.mpr (List.mem_filter.mpr ⟨hr, beq_iff_eq.mpr hparent⟩)
  obtain ⟨t, -, ht⟩ := forall₂_mem_left hturns hturn
  exact (readTurnOf_eq_ok ht).2.2

/-- Where rows stand in the order of their times, they are loaded in this order. -/
theorem load_iff_lists (hs : s.Lawful) (hc : s.Chronological) :
    s.load agentId = .ok (some h) ↔ s.Lists agentId h := by
  have hm : s.modelsOf agentId = s.models.filter (·.agentId == agentId) :=
    sortedBy_of_pairwise (hc.models.sublist List.filter_sublist)
  have ha := sortedBy_of_pairwise
    (hc.actions.sublist (List.filter_sublist (p := fun r => r.agentId == agentId)))
  have hsc : s.schedulesOf agentId = s.schedules.filter (·.agentId == agentId) :=
    sortedBy_of_pairwise (hc.schedules.sublist List.filter_sublist)
  constructor
  · intro hload
    obtain ⟨row, hrow⟩ := exists_row_of_load hload
    obtain ⟨hagent, hmodels, hactions, hschedules⟩ := (load_eq_ok hrow).mp hload
    rw [actionsOf_mapM hs, ha] at hactions
    rw [hm] at hmodels
    rw [hsc] at hschedules
    exact ⟨⟨row, hrow, hagent⟩, mapM_eq_ok.mp hmodels, mapM_eq_ok.mp hactions,
      mapM_eq_ok.mp hschedules⟩
  · intro hl
    obtain ⟨row, hrow, hagent⟩ := hl.agent
    refine (load_eq_ok hrow).mpr ⟨hagent, ?_, ?_, ?_⟩
    · rw [hm]
      exact mapM_eq_ok.mpr hl.models
    · rw [actionsOf_mapM hs, ha]
      exact mapM_eq_ok.mpr hl.actions
    · rw [hsc]
      exact mapM_eq_ok.mpr hl.schedules

end Store
end AgentSpec
