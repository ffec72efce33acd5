import AgentSpec.Proofs.Store.Frame

/-!
What the tables show of an agent after writes for it.

The graph that was listed before is listed with the new fields of its models and with the new
entities behind the old ones, as they were written (`Grown.lists`).  A new action has its steps by
position and a new schedule its turns by order; names are those of the rows that are pointed to.
-/
namespace AgentSpec

namespace Write

def model? : Write → Option StoredModel
  | .model _ m => some m
  | _ => none

/-- A new action with its identifier and that of its model. -/
def action? : Write → Option (String × String × Action)
  | .action _ id modelId a => some (id, modelId, a)
  | _ => none

def step? (actionId : String) : Write → Option StoredStep
  | .step id t => if id = actionId then some t else none
  | _ => none

def schedule? : Write → Option (String × Schedule)
  | .schedule _ id c => some (id, c)
  | _ => none

def turn? (scheduleId : String) : Write → Option StoredTurn
  | .turn id t => if id = scheduleId then some t else none
  | _ => none

end Write

namespace Store

/-- The name that the tables have for a model. -/
def modelName (s : Store) (id : String) : String := ((s.model? id).map (·.name)).getD ""

def actionName (s : Store) (id : String) : String := ((s.action? id).map (·.name)).getD ""

/-- A turn as it is read: its query as text keeps it, its names from the tables. -/
def shownTurn (s : Store) (t : StoredTurn) : StoredTurn :=
  { t.reread with
    step.modelName := s.modelName t.modelId, step.actionName := s.actionName t.actionId }

/-- A written action as it is read. -/
def shownAction (s : Store) (ws : List Write) (p : String × String × Action) : StoredAction :=
  .ofAction p.1 p.2.1 { p.2.2 with targetModel := s.modelName p.2.1 }
    ((ws.filterMap (Write.step? p.1)).mergeSort fun a b => a.position ≤ b.position)

/-- A written schedule as it is read. -/
def shownSchedule (s : Store) (ws : List Write) (p : String × Schedule) : StoredSchedule :=
  .ofSchedule p.1 p.2
    (((ws.filterMap (Write.turn? p.1)).mergeSort fun a b => a.step.order ≤ b.step.order).map
      s.shownTurn)

end Store

/-- The graph after some writes for its agent, as the tables show it. -/
def StoredGraph.grown (s : Store) (ws : List Write) (g : StoredGraph) : StoredGraph where
  agent := g.agent
  models := g.models.map (·.extended ws) ++ ws.filterMap Write.model?
  actions := g.actions ++ (ws.filterMap Write.action?).map (s.shownAction ws)
  schedules := g.schedules ++ (ws.filterMap Write.schedule?).map (s.shownSchedule ws)

namespace Store

variable {ws : List Write} {s s' : Store} {agentId : String}

theorem modelName_of_model? {id : String} {m : ModelRow} (h : s.model? id = some m) :
    s.modelName id = m.name := by
  rw [modelName, h]
  rfl

theorem actionName_of_action? {id : String} {a : ActionRow} (h : s.action? id = some a) :
    s.actionName id = a.name := by
  rw [actionName, h]
  rfl

theorem readActionOf_eq {r : ActionRow} (h : s.hasModel r.modelId) {steps : List StoredStep}
    (hsteps : (s.stepsOf r.id).mapM StepRow.read = .ok steps) :
    s.readActionOf r = .ok
      { id := r.id, modelId := r.modelId, name := r.name, title := r.title, emoji := r.emoji
        description := r.description, targetModel := s.modelName r.modelId, steps } := by
  obtain ⟨m, hm, -⟩ := exists_model? h
  rw [readActionOf, hm, modelName_of_model? hm]
  exact bind_eq_ok.mpr ⟨_, hsteps, rfl⟩

/-- A written turn is read as it is shown, whatever its time. -/
theorem readTurnOf_eq {r : TurnRow} {scheduleId : String} {t : StoredTurn}
    (hr : r.undated = .ofTurn t.id "" scheduleId t.modelId t.actionId t.step)
    (hq : r.query.Shallow) (hm : s.hasModel r.modelId) (ha : s.hasAction r.actionId) :
    s.readTurnOf r = .ok (s.shownTurn t) := by
  obtain ⟨m, hm, -⟩ := exists_model? hm
  obtain ⟨a, ha, -⟩ := exists_action? ha
  have hmodel : t.modelId = r.modelId := congrArg TurnRow.modelId hr.symm
  have haction : t.actionId = r.actionId := congrArg TurnRow.actionId hr.symm
  have hdated : readTurn r m a = readTurn r.undated m a := rfl
  have hquery : r.query = .ofQuery t.step.query := congrArg TurnRow.query hr
  rw [hquery, Column.shallow_ofQuery] at hq
  rw [readTurnOf, hm, ha, shownTurn, hmodel, haction, modelName_of_model? hm,
    actionName_of_action? ha]
  simp only [hdated, hr]
  exact @readTurn_ofTurn _ _ _ _ _ { t.step with modelName := m.name, actionName := a.name } _ _
    hq rfl rfl

namespace Grown

/-! ## New models -/

theorem model?_new (h : Grown ws s s') (hs' : s'.Lawful) {m : StoredModel}
    (hm : m ∈ ws.filterMap Write.model?) : ¬s.hasModel m.id := by
  obtain ⟨w, hw, hwm⟩ := List.mem_filterMap.mp hm
  cases w with
  | model owner m' =>
    cases hwm
    obtain ⟨rows, hrows, hext⟩ := h.models
    obtain ⟨r, hr, hid⟩ := mem_of_undated hrows hw rfl
    have hid : r.id = m.id := congrArg ModelRow.id hid
    have hnodup := hs'.modelIds
    rw [← forall₂_map_eq (hext.imp fun r r' he => he.id_eq.symm), List.map_append] at hnodup
    rw [hasModel_iff]
    exact fun hold => List.disjoint_of_nodup_append hnodup hold (hid ▸ List.mem_map_of_mem hr)
  | _ => cases hwm

theorem extended_new (h : Grown ws s s') (hs' : s'.Lawful) (hin : s.Confined agentId ws)
    {m : StoredModel} (hm : m ∈ ws.filterMap Write.model?) : m.extended ws = m := by
  have hnil : appendedTo m.id ws = [] := by
    refine appendedTo_eq_nil fun fields hmem => h.model?_new hs' hm ?_
    obtain ⟨r, hr, hid, -⟩ := hin.fields _ _ hmem
    exact hasModel_iff.mpr (hid ▸ List.mem_map_of_mem hr)
  rw [StoredModel.extended, hnil]
  rfl

theorem lists_models (h : Grown ws s s') (hs' : s'.Lawful) (hin : s.Confined agentId ws)
    {models : List StoredModel}
    (hl : List.Forall₂ (fun r m => r.read = .ok m) (s.models.filter (·.agentId == agentId))
      models) :
    List.Forall₂ (fun r m => r.read = .ok m) (s'.models.filter (·.agentId == agentId))
      (models.map (·.extended ws) ++ ws.filterMap Write.model?) := by
  obtain ⟨rows, hrows, hext⟩ := h.models
  have hnew : List.Forall₂ (fun r m => r.undated = ModelRow.ofModel m.id "" agentId m.model) rows
      (ws.filterMap Write.model?) := by
    refine forall₂_of_map_eq (hrows.trans ?_)
    rw [List.map_filterMap]
    refine List.filterMap_congr fun w hw => ?_
    cases w with
    | model owner m => rw [hin.models owner m hw]; rfl
    | _ => rfl
  have hall : rows.filter (·.agentId == agentId) = rows := by
    refine List.filter_eq_self.mpr fun r hr => ?_
    obtain ⟨m, -, hm⟩ := forall₂_mem_left hnew hr
    exact beq_iff_eq.mpr (congrArg ModelRow.agentId hm)
  have hrel := forall₂_filter (p := (·.agentId == agentId)) (q := (·.agentId == agentId)) hext
    fun r r' he => by rw [he.agentId_eq]
  rw [List.filter_append, hall] at hrel
  have hread : List.Forall₂ (fun r m => r.read = .ok m)
      (s.models.filter (·.agentId == agentId) ++ rows) (models ++ ws.filterMap Write.model?) := by
    refine List.rel_append hl (hnew.imp fun r m hr => ?_)
    rw [← ModelRow.read_undated, hr]
    exact ModelRow.read_ofModel ..
  have hext' : List.Forall₂ (fun r m => r.read = .ok (m.extended ws))
      (s'.models.filter (·.agentId == agentId)) (models ++ ws.filterMap Write.model?) :=
    forall₂_trans hrel.flip hread fun r' r m he hr => he.read hr
  have hself : ws.filterMap Write.model? = (ws.filterMap Write.model?).map (·.extended ws) := by
    refine (List.map_congr_left fun m hm => ?_).trans (List.map_id _) |>.symm
    exact h.extended_new hs' hin hm
  rw [hself, ← List.map_append, List.forall₂_map_right_iff]
  exact hext'

/-! ## New actions -/

/-- The rows of the steps that were written under a new action. -/
theorem stepRows_new (h : Grown ws s s') (hs : s.Lawful) {actionId : String}
    (hid : ¬s.hasAction actionId) :
    List.Forall₂ (fun r t => r.undated = StepRow.ofStep t.id "" actionId t.position t.step t.ready)
      (s'.steps.filter (·.actionId == actionId)) (ws.filterMap (Write.step? actionId)) := by
  obtain ⟨rows, hrows, heq⟩ := h.steps
  have hold : s.steps.filter (·.actionId == actionId) = [] := by
    refine List.filter_eq_nil_iff.mpr fun r hr hr' => hid ?_
    rw [← beq_iff_eq.mp hr']
    exact hs.stepParents r hr
  have hfilter : (rows.filter (·.actionId == actionId)).map (·.undated) =
      (rows.map (·.undated)).filter (·.actionId == actionId) := by
    rw [List.filter_map]
    rfl
  rw [heq, List.filter_append, hold, List.nil_append]
  refine forall₂_of_map_eq ?_
  rw [hfilter, hrows, List.filter_filterMap, List.map_filterMap]
  refine List.filterMap_congr fun w _ => ?_
  cases w with
  | step id t =>
    by_cases hid : id = actionId
    · simp [Write.stepRow?, Write.step?, StepRow.ofStep, hid]
    · simp [Write.stepRow?, Write.step?, StepRow.ofStep, hid]
  | _ => rfl

theorem stepsOf_new (h : Grown ws s s') (hs : s.Lawful) {actionId : String}
    (hid : ¬s.hasAction actionId) :
    (s'.stepsOf actionId).mapM StepRow.read =
      .ok ((ws.filterMap (Write.step? actionId)).mergeSort fun a b => a.position ≤ b.position) := by
  rw [stepsOf, mapM_eq_ok]
  refine (forall₂_mergeSort (h.stepRows_new hs hid) fun r t r' t' hr hr' => ?_).imp
    fun r t hr => ?_
  · have hp : r.position = .ofNat32 t.position := congrArg StepRow.position hr
    have hp' : r'.position = .ofNat32 t'.position := congrArg StepRow.position hr'
    rw [hp, hp', Cell.le_ofNat32]
  · have hread : r.read = r.undated.read := rfl
    rw [hread, hr]
    exact StepRow.read_ofStep ..

theorem lists_actions (h : Grown ws s s') (hs : s.Lawful) (hs' : s'.Lawful)
    (hin : s.Confined agentId ws) {actions : List StoredAction}
    (hl : List.Forall₂ (fun r a => s.readActionOf r = .ok a)
      (s.actions.filter (·.agentId == agentId)) actions) :
    List.Forall₂ (fun r a => s'.readActionOf r = .ok a) (s'.actions.filter (·.agentId == agentId))
      (actions ++ (ws.filterMap Write.action?).map (s'.shownAction ws)) := by
  obtain ⟨rows, hrows, heq⟩ := h.actions
  have hnew : List.Forall₂ (fun r p => r.undated = ActionRow.ofAction p.1 "" agentId p.2.1 p.2.2)
      rows (ws.filterMap Write.action?) := by
    refine forall₂_of_map_eq (hrows.trans ?_)
    rw [List.map_filterMap]
    refine List.filterMap_congr fun w hw => ?_
    cases w with
    | action owner id modelId a => rw [hin.actions owner id modelId a hw]; rfl
    | _ => rfl
  have hall : rows.filter (·.agentId == agentId) = rows := by
    refine List.filter_eq_self.mpr fun r hr => ?_
    obtain ⟨p, -, hp⟩ := forall₂_mem_left hnew hr
    exact beq_iff_eq.mpr (congrArg ActionRow.agentId hp)
  rw [heq, List.filter_append, hall]
  refine List.rel_append (forall₂_imp_mem hl fun r a hr _ hread => ?_) ?_
  · rw [h.readActionOf_old hs hs' hin (List.mem_of_mem_filter hr)]
    exact hread
  · rw [List.forall₂_map_right_iff]
    refine forall₂_imp_mem hnew fun r p hr hp hrp => ?_
    obtain ⟨id, modelId, a⟩ := p
    have hid : r.id = id := congrArg ActionRow.id hrp
    have hmodel : r.modelId = modelId := congrArg ActionRow.modelId hrp
    have hmem : r ∈ s'.actions := heq ▸ List.mem_append_right _ hr
    have hfresh : ¬s.hasAction r.id := by
      obtain ⟨w, hw, hwp⟩ := List.mem_filterMap.mp hp
      cases w with
      | action owner id' modelId' a' =>
        cases hwp
        exact hid ▸ h.new_action hs' hw
      | _ => cases hwp
    have hname : r.name = a.name := congrArg ActionRow.name hrp
    have htitle : r.title = a.title := congrArg ActionRow.title hrp
    have hemoji : r.emoji = a.emoji := congrArg ActionRow.emoji hrp
    have hdescription : r.description = a.description := congrArg ActionRow.description hrp
    rw [readActionOf_eq (hs'.actionParents r hmem).2 (h.stepsOf_new hs hfresh), hname, htitle,
      hemoji, hdescription, hmodel, hid]
    rfl

/-! ## New schedules -/

/-- The rows that writes add to a schedule, in the order in which its turns are read. -/
theorem turnRows_new (h : Grown ws s s') (hs : s.Lawful) {scheduleId : String}
    (hid : ¬s.hasSchedule scheduleId) :
    List.Forall₂ (fun r t => r.undated =
        TurnRow.ofTurn t.id "" scheduleId t.modelId t.actionId t.step)
      (s'.turnsOf scheduleId)
      ((ws.filterMap (Write.turn? scheduleId)).mergeSort fun a b => a.step.order ≤ b.step.order) := by
  obtain ⟨rows, hrows, heq⟩ := h.turns
  have hold : s.turns.filter (·.scheduleId == scheduleId) = [] := by
    refine List.filter_eq_nil_iff.mpr fun r hr hr' => hid ?_
    rw [← beq_iff_eq.mp hr']
    exact (hs.turnParents r hr).1
  rw [turnsOf, heq, List.filter_append, hold, List.nil_append]
  refine forall₂_mergeSort (forall₂_of_map_eq ?_) fun r t r' t' hr hr' => ?_
  · have hfilter : (rows.filter (·.scheduleId == scheduleId)).map (·.undated) =
        (rows.map (·.undated)).filter (·.scheduleId == scheduleId) := by
      rw [List.filter_map]
      rfl
    rw [hfilter, hrows, List.filter_filterMap, List.map_filterMap]
    refine List.filterMap_congr fun w _ => ?_
    cases w with
    | turn id t =>
      by_cases hid : id = scheduleId
      · simp [Write.turnRow?, Write.turn?, TurnRow.ofTurn, hid]
      · simp [Write.turnRow?, Write.turn?, TurnRow.ofTurn, hid]
    | _ => rfl
  · have ho : r.order = .ofNat32 t.step.order := congrArg TurnRow.order hr
    have ho' : r'.order = .ofNat32 t'.step.order := congrArg TurnRow.order hr'
    rw [ho, ho', Cell.le_ofNat32]

theorem readTurns_new (h : Grown ws s s') (hs : s.Lawful) (hs' : s'.Lawful) {scheduleId : String}
    (hid : ¬s.hasSchedule scheduleId)
    (hq : ∀ r ∈ s'.turns, r.scheduleId = scheduleId → r.query.Shallow) :
    s'.readTurns scheduleId =
      .ok (((ws.filterMap (Write.turn? scheduleId)).mergeSort
        fun a b => a.step.order ≤ b.step.order).map s'.shownTurn) := by
  rw [readTurns_eq hs', mapM_eq_ok, List.forall₂_map_right_iff]
  refine forall₂_imp_mem (h.turnRows_new hs hid) fun r t hr _ hrt => ?_
  have hmem : r ∈ s'.turns := List.mem_of_mem_filter (List.mem_mergeSort.mp hr)
  obtain ⟨-, hm, ha⟩ := hs'.turnParents r hmem
  exact readTurnOf_eq hrt (hq r hmem (congrArg TurnRow.scheduleId hrt)) hm ha

theorem lists_schedules (h : Grown ws s s') (hs : s.Lawful) (hs' : s'.Lawful)
    (hin : s.Confined agentId ws) (hq : s'.ShallowFor agentId) {schedules : List StoredSchedule}
    (hl : List.Forall₂ (fun r c => s.readSchedule r = .ok c)
      (s.schedules.filter (·.agentId == agentId)) schedules) :
    List.Forall₂ (fun r c => s'.readSchedule r = .ok c)
      (s'.schedules.filter (·.agentId == agentId))
      (schedules ++ (ws.filterMap Write.schedule?).map (s'.shownSchedule ws)) := by
  obtain ⟨rows, hrows, heq⟩ := h.schedules
  have hnew : List.Forall₂ (fun r p => r.undated = ScheduleRow.ofSchedule p.1 "" agentId p.2)
      rows (ws.filterMap Write.schedule?) := by
    refine forall₂_of_map_eq (hrows.trans ?_)
    rw [List.map_filterMap]
    refine List.filterMap_congr fun w hw => ?_
    cases w with
    | schedule owner id c => rw [hin.schedules owner id c hw]; rfl
    | _ => rfl
  have hall : rows.filter (·.agentId == agentId) = rows := by
    refine List.filter_eq_self.mpr fun r hr => ?_
    obtain ⟨p, -, hp⟩ := forall₂_mem_left hnew hr
    exact beq_iff_eq.mpr (congrArg ScheduleRow.agentId hp)
  rw [heq, List.filter_append, hall]
  refine List.rel_append (forall₂_imp_mem hl fun r a hr _ hread => ?_) ?_
  · rw [h.readSchedule_old hs hs' hin (List.mem_of_mem_filter hr)]
    exact hread
  · rw [List.forall₂_map_right_iff]
    refine forall₂_imp_mem hnew fun r p hr hp hrp => ?_
    obtain ⟨id, c⟩ := p
    have hfresh : ¬s.hasSchedule id := by
      obtain ⟨w, hw, hwp⟩ := List.mem_filterMap.mp hp
      cases w with
      | schedule owner id' c' =>
        cases hwp
        exact h.new_schedule hs' hw
      | _ => cases hwp
    have hdated : s'.readSchedule r = s'.readSchedule r.undated := rfl
    have hid : r.id = id := congrArg ScheduleRow.id hrp
    have hagent : r.agentId = agentId := congrArg ScheduleRow.agentId hrp
    have hmem : r ∈ s'.schedules := heq ▸ List.mem_append_right _ hr
    rw [hdated, hrp]
    exact readSchedule_ofSchedule (h.readTurns_new hs hs' hfresh (hid ▸ hq r hmem hagent))

/-- The tables list the graph that they listed before, grown by the writes, if the queries among
these can be read. -/
theorem lists (h : Grown ws s s') (hs : s.Lawful) (hs' : s'.Lawful) (hin : s.Confined agentId ws)
    (hq : s'.ShallowFor agentId) {g : StoredGraph} (hl : s.Lists agentId g) :
    s'.Lists agentId (g.grown s' ws) := by
  refine ⟨?_, h.lists_models hs' hin hl.models, h.lists_actions hs hs' hin hl.actions,
    h.lists_schedules hs hs' hin hq hl.schedules⟩
  rw [h.agents_eq hin]
  exact hl.agent

end Grown
end Store
end AgentSpec
