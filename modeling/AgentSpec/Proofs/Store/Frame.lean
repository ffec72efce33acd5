import AgentSpec.Proofs.Store.Rows

/-!
Writes for one agent.

Steps and turns are written under actions and schedules of the same run, and fields are appended to
models of the agent.  Then the rows of all other agents, and what they are read as, stay the same
(`Grown.load_other`), and so do the actions and schedules that the agent had
(`Grown.readActionOf_old`, `Grown.readSchedule_old`).
-/
namespace AgentSpec

namespace Store

/-- The writes add to one agent of the tables and to no other. -/
structure Confined (s : Store) (agentId : String) (ws : List Write) : Prop where
  agents : ∀ new record, .agent new record ∉ ws
  changes : ∀ id change record, .change id change record ∉ ws
  models : ∀ id m, .model id m ∈ ws → id = agentId
  fields : ∀ id fields, .fields id fields ∈ ws → ∃ r ∈ s.models, r.id = id ∧ r.agentId = agentId
  actions : ∀ owner id modelId a, .action owner id modelId a ∈ ws → owner = agentId
  steps : ∀ id t, .step id t ∈ ws → ∃ modelId a, .action agentId id modelId a ∈ ws
  schedules : ∀ owner id c, .schedule owner id c ∈ ws → owner = agentId
  turns : ∀ id t, .turn id t ∈ ws → ∃ c, .schedule agentId id c ∈ ws

namespace Grown

variable {ws : List Write} {s s' : Store} {agentId : String}

/-! ## Rows that are looked up -/

theorem model?_old (h : Grown ws s s') {id : String} {m : ModelRow} (hm : s.model? id = some m) :
    ∃ m', s'.model? id = some m' ∧ ModelRow.Extended ws m m' := by
  obtain ⟨rows, -, hext⟩ := h.models
  refine forall₂_find? (a := m) hext (fun r r' he => by rw [he.id_eq]) ?_
  rw [List.find?_append, ← Store.model?, hm]
  rfl

theorem action?_old (h : Grown ws s s') {id : String} {a : ActionRow} (ha : s.action? id = some a) :
    s'.action? id = some a := by
  obtain ⟨rows, -, hrows⟩ := h.actions
  rw [Store.action?, hrows, List.find?_append, ← Store.action?, ha]
  rfl

/-! ## Steps and turns of old rows -/

/-- A row that was written is one of the new rows. -/
theorem mem_of_undated {row : α} {undate : α → α} {f : Write → Option α} {w : Write} {rows : List α}
    (h : rows.map undate = ws.filterMap f) (hw : w ∈ ws) (hf : f w = some row) :
    ∃ r ∈ rows, undate r = row := by
  have hmem : row ∈ rows.map undate := by
    rw [h]
    exact List.mem_filterMap.mpr ⟨w, hw, hf⟩
  exact List.mem_map.mp hmem

theorem exists_write {undate : α → α} {f : Write → Option α} {rows : List α}
    (h : rows.map undate = ws.filterMap f) {r : α} (hr : r ∈ rows) :
    ∃ w ∈ ws, f w = some (undate r) := by
  have hmem : undate r ∈ ws.filterMap f := h ▸ List.mem_map_of_mem hr
  exact List.mem_filterMap.mp hmem

theorem new_action (h : Grown ws s s') (hs' : s'.Lawful) {owner id modelId : String} {a : Action}
    (ha : .action owner id modelId a ∈ ws) : ¬s.hasAction id := by
  obtain ⟨rows, hrows, heq⟩ := h.actions
  obtain ⟨r, hr, hid⟩ := mem_of_undated hrows ha rfl
  have hid : r.id = id := congrArg ActionRow.id hid
  have hnodup := hs'.actionIds
  rw [heq, List.map_append] at hnodup
  rw [hasAction_iff]
  exact fun hold => List.disjoint_of_nodup_append hnodup hold (hid ▸ List.mem_map_of_mem hr)

theorem new_schedule (h : Grown ws s s') (hs' : s'.Lawful) {owner id : String} {c : Schedule}
    (hc : .schedule owner id c ∈ ws) : ¬s.hasSchedule id := by
  obtain ⟨rows, hrows, heq⟩ := h.schedules
  obtain ⟨r, hr, hid⟩ := mem_of_undated hrows hc rfl
  have hid : r.id = id := congrArg ScheduleRow.id hid
  have hnodup := hs'.scheduleIds
  rw [heq, List.map_append] at hnodup
  rw [hasSchedule_iff]
  exact fun hold => List.disjoint_of_nodup_append hnodup hold (hid ▸ List.mem_map_of_mem hr)

theorem stepsOf_old (h : Grown ws s s') (hs' : s'.Lawful) (hin : s.Confined agentId ws)
    {actionId : String} (hid : s.hasAction actionId) : s'.stepsOf actionId = s.stepsOf actionId := by
  obtain ⟨rows, hrows, heq⟩ := h.steps
  have hnone : rows.filter (·.actionId == actionId) = [] := by
    refine List.filter_eq_nil_iff.mpr fun r hr hr' => ?_
    obtain ⟨w, hw, hrow⟩ := exists_write hrows hr
    cases w with
    | step id t =>
      have hid' : id = actionId :=
        (congrArg StepRow.actionId (Option.some.inj hrow)).trans (beq_iff_eq.mp hr')
      obtain ⟨modelId, a, ha⟩ := hin.steps _ t hw
      exact h.new_action hs' ha (hid' ▸ hid)
    | _ => cases hrow
  rw [stepsOf, heq, List.filter_append, hnone, List.append_nil, stepsOf]

theorem turnsOf_old (h : Grown ws s s') (hs' : s'.Lawful) (hin : s.Confined agentId ws)
    {scheduleId : String} (hid : s.hasSchedule scheduleId) :
    s'.turnsOf scheduleId = s.turnsOf scheduleId := by
  obtain ⟨rows, hrows, heq⟩ := h.turns
  have hnone : rows.filter (·.scheduleId == scheduleId) = [] := by
    refine List.filter_eq_nil_iff.mpr fun r hr hr' => ?_
    obtain ⟨w, hw, hrow⟩ := exists_write hrows hr
    cases w with
    | turn id t =>
      have hid' : id = scheduleId :=
        (congrArg TurnRow.scheduleId (Option.some.inj hrow)).trans (beq_iff_eq.mp hr')
      obtain ⟨c, hc⟩ := hin.turns _ t hw
      exact h.new_schedule hs' hc (hid' ▸ hid)
    | _ => cases hrow
  rw [turnsOf, heq, List.filter_append, hnone, List.append_nil, turnsOf]

/-! ## Old actions and schedules -/

theorem readActionOf_old (h : Grown ws s s') (hs : s.Lawful) (hs' : s'.Lawful)
    (hin : s.Confined agentId ws) {r : ActionRow} (hr : r ∈ s.actions) :
    s'.readActionOf r = s.readActionOf r := by
  obtain ⟨m, hm, -⟩ := exists_model? (hs.actionParents r hr).2
  obtain ⟨m', hm', hext⟩ := h.model?_old hm
  have hid : s.hasAction r.id := hasAction_iff.mpr (List.mem_map_of_mem hr)
  rw [readActionOf, readActionOf, hm, hm']
  simp only [readAction]
  rw [h.stepsOf_old hs' hin hid, hext.name_eq]

theorem readTurnOf_old (h : Grown ws s s') (hs : s.Lawful) {r : TurnRow} (hr : r ∈ s.turns) :
    s'.readTurnOf r = s.readTurnOf r := by
  obtain ⟨-, hmodel, haction⟩ := hs.turnParents r hr
  obtain ⟨m, hm, -⟩ := exists_model? hmodel
  obtain ⟨a, ha, -⟩ := exists_action? haction
  obtain ⟨m', hm', hext⟩ := h.model?_old hm
  rw [readTurnOf, readTurnOf, hm, hm', ha, h.action?_old ha]
  simp only [readTurn]
  rw [hext.name_eq]

theorem readSchedule_old (h : Grown ws s s') (hs : s.Lawful) (hs' : s'.Lawful)
    (hin : s.Confined agentId ws) {r : ScheduleRow} (hr : r ∈ s.schedules) :
    s'.readSchedule r = s.readSchedule r := by
  have hid : s.hasSchedule r.id := hasSchedule_iff.mpr (List.mem_map_of_mem hr)
  have hturns : s'.readTurns r.id = s.readTurns r.id := by
    rw [readTurns_eq hs', readTurns_eq hs, h.turnsOf_old hs' hin hid]
    refine mapM_congr fun t ht => h.readTurnOf_old hs ?_
    exact List.mem_of_mem_filter (List.mem_mergeSort.mp ht)
  rw [readSchedule, hturns, readSchedule]

/-- Queries that can be read after the writes could be read before. -/
theorem shallowFor (h : Grown ws s s') {id : String} (hq : s'.ShallowFor id) : s.ShallowFor id := by
  obtain ⟨schedules, -, hschedules⟩ := h.schedules
  obtain ⟨turns, -, hturns⟩ := h.turns
  refine hq.mono ?_ ?_
  · rw [hschedules]
    exact List.subset_append_left _ _
  · rw [hturns]
    exact List.subset_append_left _ _

/-- Queries can be read after the writes if the old ones and those that are written can. -/
theorem shallowFor_of_writes (h : Grown ws s s') (hs : s.Lawful) (hs' : s'.Lawful) {id : String}
    (hold : s.ShallowFor id)
    (hnew : ∀ scheduleId t, .turn scheduleId t ∈ ws → t.step.query.depth ≤ Document.depthLimit) :
    s'.ShallowFor id := by
  intro c hc hagent r hr hparent
  obtain ⟨rows, hrows, hturns⟩ := h.turns
  rw [hturns] at hr
  rcases List.mem_append.mp hr with hr | hr
  · obtain ⟨c', hc', hid⟩ := List.mem_map.mp (hasSchedule_iff.mp (hs.turnParents r hr).1)
    obtain ⟨schedules, -, hschedules⟩ := h.schedules
    have hmem : c' ∈ s'.schedules := hschedules ▸ List.mem_append_left _ hc'
    have hsame : c' = c := List.inj_on_of_nodup_map hs'.scheduleIds hmem hc (hid.trans hparent)
    rw [hsame] at hc'
    exact hold c hc' hagent r hr hparent
  · obtain ⟨w, hw, hrow⟩ := exists_write hrows hr
    cases w with
    | turn scheduleId t =>
      have hquery : r.query = .ofQuery t.step.query :=
        (congrArg TurnRow.query (Option.some.inj hrow)).symm
      rw [hquery, Column.shallow_ofQuery]
      exact hnew scheduleId t hw
    | _ => cases hrow

/-! ## Other agents -/

variable {id : String}

theorem appendedTo_other (hs : s.Lawful) (hin : s.Confined agentId ws) {r : ModelRow}
    (hr : r ∈ s.models) (hne : r.agentId ≠ agentId) : appendedTo r.id ws = [] := by
  refine appendedTo_eq_nil fun fields hmem => hne ?_
  obtain ⟨r', hr', hid, hagent⟩ := hin.fields _ _ hmem
  rw [← hagent, List.inj_on_of_nodup_map hs.modelIds hr hr' hid.symm]

theorem modelRows_other (h : Grown ws s s') (hs : s.Lawful) (hin : s.Confined agentId ws)
    (hne : id ≠ agentId) :
    s'.models.filter (·.agentId == id) = s.models.filter (·.agentId == id) := by
  obtain ⟨rows, hrows, hext⟩ := h.models
  have hnone : rows.filter (·.agentId == id) = [] := by
    refine List.filter_eq_nil_iff.mpr fun r hr hr' => ?_
    obtain ⟨w, hw, hrow⟩ := exists_write hrows hr
    cases w with
    | model owner m =>
      have howner : owner = id :=
        (congrArg ModelRow.agentId (Option.some.inj hrow)).trans (beq_iff_eq.mp hr')
      exact hne (howner.symm.trans (hin.models _ m hw))
    | _ => cases hrow
  have hall := forall₂_filter (p := (·.agentId == id)) (q := (·.agentId == id)) hext
    fun r r' he => by rw [he.agentId_eq]
  rw [List.filter_append, hnone, List.append_nil] at hall
  have heq : List.Forall₂ (fun r r' => r = r') (s.models.filter (·.agentId == id))
      (s'.models.filter (·.agentId == id)) := by
    refine forall₂_imp_mem hall fun r r' hr _ he => (he.eq_of_untouched ?_).symm
    obtain ⟨hr, hr'⟩ := List.mem_filter.mp hr
    exact appendedTo_other hs hin hr fun hagent => hne ((beq_iff_eq.mp hr').symm.trans hagent)
  exact (List.forall₂_eq_eq_eq ▸ heq).symm

theorem actionRows_other (h : Grown ws s s') (hin : s.Confined agentId ws) (hne : id ≠ agentId) :
    s'.actions.filter (·.agentId == id) = s.actions.filter (·.agentId == id) := by
  obtain ⟨rows, hrows, heq⟩ := h.actions
  rw [heq, List.filter_append, List.append_right_eq_self, List.filter_eq_nil_iff]
  intro r hr hr'
  obtain ⟨w, hw, hrow⟩ := exists_write hrows hr
  cases w with
  | action owner i modelId a =>
    have howner : owner = id :=
      (congrArg ActionRow.agentId (Option.some.inj hrow)).trans (beq_iff_eq.mp hr')
    exact hne (howner.symm.trans (hin.actions _ _ _ a hw))
  | _ => cases hrow

theorem scheduleRows_other (h : Grown ws s s') (hin : s.Confined agentId ws) (hne : id ≠ agentId) :
    s'.schedules.filter (·.agentId == id) = s.schedules.filter (·.agentId == id) := by
  obtain ⟨rows, hrows, heq⟩ := h.schedules
  rw [heq, List.filter_append, List.append_right_eq_self, List.filter_eq_nil_iff]
  intro r hr hr'
  obtain ⟨w, hw, hrow⟩ := exists_write hrows hr
  cases w with
  | schedule owner i c =>
    have howner : owner = id :=
      (congrArg ScheduleRow.agentId (Option.some.inj hrow)).trans (beq_iff_eq.mp hr')
    exact hne (howner.symm.trans (hin.schedules _ _ c hw))
  | _ => cases hrow

/-- Where no agent is new, the rows of agents stay as they are. -/
theorem agents_eq (h : Grown ws s s') (hin : s.Confined agentId ws) : s'.agents = s.agents := by
  rw [h.agents, List.append_right_eq_self, List.filterMap_eq_nil_iff]
  intro w hw
  cases w with
  | agent new record => exact absurd hw (hin.agents new record)
  | _ => rfl

theorem actions_other (h : Grown ws s s') (hs : s.Lawful) (hs' : s'.Lawful)
    (hin : s.Confined agentId ws) (hne : id ≠ agentId) :
    ((s'.actionsOf id).mapM fun (r, m) => s'.readAction r m) =
      (s.actionsOf id).mapM fun (r, m) => s.readAction r m := by
  rw [actionsOf_mapM hs', actionsOf_mapM hs, h.actionRows_other hin hne]
  refine mapM_congr fun r hr => h.readActionOf_old hs hs' hin ?_
  exact List.mem_of_mem_filter ((sortedBy_perm _ _).mem_iff.mp hr)

theorem schedules_other (h : Grown ws s s') (hs : s.Lawful) (hs' : s'.Lawful)
    (hin : s.Confined agentId ws) (hne : id ≠ agentId) :
    (s'.schedulesOf id).mapM s'.readSchedule = (s.schedulesOf id).mapM s.readSchedule := by
  rw [schedulesOf, h.scheduleRows_other hin hne, schedulesOf]
  refine mapM_congr fun r hr => h.readSchedule_old hs hs' hin ?_
  exact List.mem_of_mem_filter ((sortedBy_perm _ _).mem_iff.mp hr)

/-- Another agent is read, or fails to be read, as before. -/
theorem load_other (h : Grown ws s s') (hs : s.Lawful) (hs' : s'.Lawful)
    (hin : s.Confined agentId ws) (hne : id ≠ agentId) : s'.load id = s.load id := by
  have hagent : s'.agent? id = s.agent? id := by rw [agent?, h.agents_eq hin, agent?]
  have hmodels : s'.modelsOf id = s.modelsOf id := by
    rw [modelsOf, h.modelRows_other hs hin hne, modelsOf]
  simp only [load]
  rw [hagent, hmodels, h.actions_other hs hs' hin hne, h.schedules_other hs hs' hin hne]

end Grown
end Store
end AgentSpec
