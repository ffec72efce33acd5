import AgentSpec.Store.Call
import AgentSpec.Proofs.Names

/-!
What the constraints of the tables demand, whatever stands in the other columns.

Identifiers are distinct, names are distinct within an agent, positions within an action and orders
within a schedule, and every row points to rows that exist.  Every call keeps this: a write adds one
row that the constraints admit, or changes columns that no constraint speaks of.
-/
namespace AgentSpec

/-! ## New rows -/

def ModelRow.ofModel (id createdAt : String) (agentId : String) (m : Model) : ModelRow where
  id := id
  agentId := agentId
  name := m.name
  fields := .ofFields m.fields
  displayFields := m.displayFields.map .ofNames
  forms := .ofForms m.forms
  createdAt := createdAt

def ActionRow.ofAction (id createdAt : String) (agentId modelId : String) (a : Action) : ActionRow where
  id := id
  agentId := agentId
  modelId := modelId
  name := a.name
  title := a.title
  emoji := a.emoji
  description := a.description
  createdAt := createdAt

def StepRow.ofStep (id createdAt : String) (actionId : String) (position : UInt32) (step : Step)
    (ready : Bool) : StepRow where
  id := id
  actionId := actionId
  position := .ofNat32 position
  name := step.name
  description := step.description
  kind := step.kind
  config := .document step.config.toJson
  inputFields := .ofNames step.inputFields
  outputFields := .ofNames step.outputFields
  ready := .ofBool ready
  createdAt := createdAt

def ScheduleRow.ofSchedule (id createdAt : String) (agentId : String) (c : Schedule) : ScheduleRow where
  id := id
  agentId := agentId
  name := c.name
  description := c.description
  mode := c.mode
  intervalHours := c.intervalHours.map .ofNat32
  status := c.status
  createdAt := createdAt

def TurnRow.ofTurn (id createdAt : String) (scheduleId modelId actionId : String) (turn : ScheduleStep) :
    TurnRow where
  id := id
  scheduleId := scheduleId
  modelId := modelId
  actionId := actionId
  query := .ofQuery turn.query
  order := .ofNat32 turn.order
  createdAt := createdAt

/-- The row of an agent as its record says it. -/
def AgentRow.ofRecord (a : AgentRecord) : AgentRow where
  id := a.id
  name := a.name
  description := a.description
  ownerId := a.ownerId
  rootModel := a.rootModel
  connections := .ofConnections a.connections
  createdAt := a.createdAt.toOffsetText
  updatedAt := a.updatedAt.toOffsetText

/-- The record of a new agent. -/
def NewAgent.record (t : Stamp) (a : NewAgent) : AgentRecord where
  id := t.id
  name := a.name
  description := a.description
  ownerId := a.ownerId
  rootModel := a.rootModel
  connections := a.connections
  createdAt := t.now
  updatedAt := t.now

/-- The row with other fields, if it is that of the model. -/
def ModelRow.setFields (modelId : String) (fields : List Field) (r : ModelRow) : ModelRow :=
  if r.id = modelId then { r with fields := .ofFields fields } else r

/-- The row with what a record says, if it is that of the agent.  Name, owner and creation time
stay. -/
def AgentRow.setRecord (agentId : String) (a : AgentRecord) (r : AgentRow) : AgentRow :=
  if r.id = agentId then
    { r with
      description := a.description, rootModel := a.rootModel
      connections := .ofConnections a.connections, updatedAt := a.updatedAt.toOffsetText }
  else r

namespace ModelRow

variable (modelId : String) (fields : List Field) (r : ModelRow)

theorem setFields_eq : r.setFields modelId fields =
    { r with fields := (r.setFields modelId fields).fields } := by
  unfold setFields
  split <;> rfl

theorem setFields_id : (r.setFields modelId fields).id = r.id := by rw [setFields_eq]

theorem setFields_agentId : (r.setFields modelId fields).agentId = r.agentId := by
  rw [setFields_eq]

theorem setFields_name : (r.setFields modelId fields).name = r.name := by rw [setFields_eq]

end ModelRow

theorem AgentRow.setRecord_id (agentId : String) (a : AgentRecord) (r : AgentRow) :
    (r.setRecord agentId a).id = r.id := by
  unfold setRecord
  split <;> rfl

namespace Store

/-! ## Writes that succeed -/

theorem unlessBroken_eq_ok {broken : List (Bool × Constraint)} {a b : α}
    (h : unlessBroken broken a = .ok b) : b = a ∧ ∀ p ∈ broken, p.1 = false := by
  unfold unlessBroken at h
  cases hf : broken.find? (·.1) with
  | some p =>
    rw [hf] at h
    cases h
  | none =>
    rw [hf] at h
    cases h
    exact ⟨rfl, fun p hp => by simpa using List.find?_eq_none.mp hf p hp⟩

theorem hasAgent_iff {s : Store} {id : String} : s.hasAgent id ↔ id ∈ s.agents.map (·.id) := by
  simp [hasAgent]

theorem hasModel_iff {s : Store} {id : String} : s.hasModel id ↔ id ∈ s.models.map (·.id) := by
  simp [hasModel]

theorem hasAction_iff {s : Store} {id : String} : s.hasAction id ↔ id ∈ s.actions.map (·.id) := by
  simp [hasAction]

theorem hasSchedule_iff {s : Store} {id : String} :
    s.hasSchedule id ↔ id ∈ s.schedules.map (·.id) := by
  simp [hasSchedule]

section Writes

variable {s s' : Store} {t : Stamp} {agentId modelId actionId scheduleId : String}

theorem createAgent_eq_ok {a : NewAgent} {record : AgentRecord}
    (h : s.createAgent t a = .ok (record, s')) :
    record = a.record t ∧ s' = { s with agents := s.agents ++ [.ofRecord record] } ∧
      t.id ∉ s.agents.map (·.id) := by
  unfold createAgent at h
  split at h
  · cases h
  obtain ⟨heq, hflags⟩ := unlessBroken_eq_ok h
  cases heq
  have hid := hflags _ (List.mem_cons_of_mem _ List.mem_cons_self)
  exact ⟨rfl, rfl, by simpa using hid⟩

theorem createModel_eq_ok {m : Model} (h : s.createModel t agentId m = .ok s') :
    s' = { s with models := s.models ++ [.ofModel t.id t.now.toOffsetText agentId m] } ∧
      t.id ∉ s.models.map (·.id) ∧ (agentId, m.name) ∉ s.models.map (fun r => (r.agentId, r.name)) ∧
      s.hasAgent agentId := by
  obtain ⟨rfl, hflags⟩ := unlessBroken_eq_ok h
  simp only [idConstraints, List.cons_append, List.nil_append, List.forall_mem_cons] at hflags
  obtain ⟨-, hid, hname, hagent, -⟩ := hflags
  exact ⟨rfl, by simpa using hid, by simpa using hname, by simpa using hagent⟩

theorem createAction_eq_ok {a : Action} (h : s.createAction t agentId modelId a = .ok s') :
    s' = { s with actions := s.actions ++ [.ofAction t.id t.now.toOffsetText agentId modelId a] } ∧
      t.id ∉ s.actions.map (·.id) ∧
      (agentId, a.name) ∉ s.actions.map (fun r => (r.agentId, r.name)) ∧
      s.hasAgent agentId ∧ s.hasModel modelId := by
  obtain ⟨rfl, hflags⟩ := unlessBroken_eq_ok h
  simp only [idConstraints, List.cons_append, List.nil_append, List.forall_mem_cons] at hflags
  obtain ⟨-, hid, hname, hparents, -⟩ := hflags
  exact ⟨rfl, by simpa using hid, by simpa using hname, by simpa using hparents⟩

theorem createStep_eq_ok {position : UInt32} {step : Step} {ready : Bool}
    (h : s.createStep t actionId position step ready = .ok s') :
    s' = { s with
        steps := s.steps ++ [.ofStep t.id t.now.toOffsetText actionId position step ready] } ∧
      t.id ∉ s.steps.map (·.id) ∧
      (actionId, Cell.ofNat32 position) ∉ s.steps.map (fun r => (r.actionId, r.position)) ∧
      s.hasAction actionId := by
  obtain ⟨rfl, hflags⟩ := unlessBroken_eq_ok h
  simp only [idConstraints, List.cons_append, List.nil_append, List.forall_mem_cons] at hflags
  obtain ⟨-, hid, hposition, haction, -⟩ := hflags
  exact ⟨rfl, by simpa using hid, by simpa using hposition, by simpa using haction⟩

theorem createSchedule_eq_ok {c : Schedule} (h : s.createSchedule t agentId c = .ok s') :
    s' = { s with schedules := s.schedules ++ [.ofSchedule t.id t.now.toOffsetText agentId c] } ∧
      t.id ∉ s.schedules.map (·.id) ∧
      (agentId, c.name) ∉ s.schedules.map (fun r => (r.agentId, r.name)) ∧
      s.hasAgent agentId := by
  obtain ⟨rfl, hflags⟩ := unlessBroken_eq_ok h
  simp only [idConstraints, List.cons_append, List.nil_append, List.forall_mem_cons] at hflags
  obtain ⟨-, hid, hname, hagent, -⟩ := hflags
  exact ⟨rfl, by simpa using hid, by simpa using hname, by simpa using hagent⟩

theorem createTurn_eq_ok {turn : ScheduleStep}
    (h : s.createTurn t scheduleId modelId actionId turn = .ok s') :
    s' = { s with
        turns := s.turns ++
          [.ofTurn t.id t.now.toOffsetText scheduleId modelId actionId turn] } ∧
      t.id ∉ s.turns.map (·.id) ∧
      (scheduleId, Cell.ofNat32 turn.order) ∉ s.turns.map (fun r => (r.scheduleId, r.order)) ∧
      s.hasSchedule scheduleId ∧ s.hasModel modelId ∧ s.hasAction actionId := by
  obtain ⟨rfl, hflags⟩ := unlessBroken_eq_ok h
  simp only [idConstraints, List.cons_append, List.nil_append, List.forall_mem_cons] at hflags
  obtain ⟨-, hid, horder, hparents, -⟩ := hflags
  refine ⟨rfl, by simpa using hid, by simpa using horder, ?_⟩
  simpa [and_assoc] using hparents

/-- Appending fields to a model that lacks none of them changes nothing; otherwise it writes all
fields of the model anew. -/
theorem appendFields_eq_ok {fields : List Field} (h : s.appendFields modelId fields = .ok s') :
    ∃ row old, s.model? modelId = some row ∧ row.fields.read (Reader.list Field.read) = .ok old ∧
      (((appendNew old fields).length = old.length ∧ s' = s) ∨
        s' = { s with
          models := s.models.map (ModelRow.setFields modelId (appendNew old fields)) }) := by
  unfold appendFields at h
  cases hm : s.model? modelId with
  | none =>
    rw [hm] at h
    cases h
  | some row =>
    rw [hm] at h
    cases hr : row.fields.read (Reader.list Field.read) with
    | error e =>
      simp only [hr] at h
      cases h
    | ok old =>
      simp only [hr] at h
      refine ⟨row, old, rfl, hr, ?_⟩
      change (if (appendNew old fields).length = old.length then Except.ok s else _) = _ at h
      by_cases hlen : (appendNew old fields).length = old.length
      · rw [if_pos hlen] at h
        cases h
        exact Or.inl ⟨hlen, rfl⟩
      · rw [if_neg hlen] at h
        cases h
        exact Or.inr rfl

theorem updateAgent_eq_ok {now : Instant} {c : AgentChange} {record : AgentRecord}
    (h : s.updateAgent now agentId c = .ok (record, s')) :
    ∃ old, s.agent? agentId = .ok (some old) ∧ record = AgentChange.apply c now old ∧
      s' = { s with agents := s.agents.map (AgentRow.setRecord agentId record) } := by
  unfold updateAgent at h
  cases ha : s.agent? agentId with
  | error e =>
    rw [ha] at h
    cases h
  | ok found =>
    rw [ha] at h
    cases found with
    | none => cases h
    | some old =>
      cases h
      exact ⟨old, rfl, rfl, rfl⟩

end Writes

/-! ## Lawful tables -/

structure Lawful (s : Store) : Prop where
  agentIds : (s.agents.map (·.id)).Nodup
  modelIds : (s.models.map (·.id)).Nodup
  actionIds : (s.actions.map (·.id)).Nodup
  stepIds : (s.steps.map (·.id)).Nodup
  scheduleIds : (s.schedules.map (·.id)).Nodup
  turnIds : (s.turns.map (·.id)).Nodup
  modelNames : (s.models.map fun r => (r.agentId, r.name)).Nodup
  actionNames : (s.actions.map fun r => (r.agentId, r.name)).Nodup
  scheduleNames : (s.schedules.map fun r => (r.agentId, r.name)).Nodup
  positions : (s.steps.map fun r => (r.actionId, r.position)).Nodup
  orders : (s.turns.map fun r => (r.scheduleId, r.order)).Nodup
  modelParents : ∀ r ∈ s.models, s.hasAgent r.agentId
  actionParents : ∀ r ∈ s.actions, s.hasAgent r.agentId ∧ s.hasModel r.modelId
  stepParents : ∀ r ∈ s.steps, s.hasAction r.actionId
  scheduleParents : ∀ r ∈ s.schedules, s.hasAgent r.agentId
  turnParents : ∀ r ∈ s.turns,
    s.hasSchedule r.scheduleId ∧ s.hasModel r.modelId ∧ s.hasAction r.actionId

namespace Lawful

variable {s s' : Store}

theorem empty : ({} : Store).Lawful := by
  constructor <;> simp

/-- A row with a new key. -/
theorem nodup_concat {key : α → β} {rows : List α} {row : α} (h : (rows.map key).Nodup)
    (hnew : key row ∉ rows.map key) : ((rows ++ [row]).map key).Nodup := by
  rw [List.map_append, List.nodup_append]
  refine ⟨h, List.nodup_singleton _, fun a ha b hb heq => hnew ?_⟩
  have hb : b = key row := List.mem_singleton.mp hb
  rw [← hb, ← heq]
  exact ha

theorem any_concat {p : α → Bool} {rows : List α} {row : α} (h : rows.any p) :
    (rows ++ [row]).any p := by
  rw [List.any_append, h, Bool.true_or]

/-- Rows that keep their keys. -/
theorem map_key {key : α → β} {rows : List α} {change : α → α} (h : ∀ r, key (change r) = key r) :
    (rows.map change).map key = rows.map key := by
  rw [List.map_map]
  exact List.map_congr_left fun r _ => h r

section Calls

variable {t : Stamp} {agentId modelId actionId scheduleId : String}

theorem createAgent {a : NewAgent} {record : AgentRecord} (hs : s.Lawful)
    (h : s.createAgent t a = .ok (record, s')) : s'.Lawful := by
  obtain ⟨hrecord, rfl, hid⟩ := createAgent_eq_ok h
  have hnew : (AgentRow.ofRecord record).id ∉ s.agents.map (·.id) := by
    rw [hrecord]
    exact hid
  have hagent {id : String} (hid : s.hasAgent id) :
      ({ s with agents := s.agents ++ [.ofRecord record] } : Store).hasAgent id := any_concat hid
  exact { hs with
    agentIds := nodup_concat hs.agentIds hnew
    modelParents := fun r hr => hagent (hs.modelParents r hr)
    actionParents := fun r hr => (hs.actionParents r hr).imp_left hagent
    scheduleParents := fun r hr => hagent (hs.scheduleParents r hr) }

theorem updateAgent {now : Instant} {c : AgentChange} {record : AgentRecord} (hs : s.Lawful)
    (h : s.updateAgent now agentId c = .ok (record, s')) : s'.Lawful := by
  obtain ⟨old, -, -, rfl⟩ := updateAgent_eq_ok h
  have hids : (s.agents.map (AgentRow.setRecord agentId record)).map (·.id) = s.agents.map (·.id) :=
    map_key (AgentRow.setRecord_id agentId record)
  have hagent {id : String} (hid : s.hasAgent id) :
      ({ s with
        agents := s.agents.map (AgentRow.setRecord agentId record) } : Store).hasAgent id := by
    rw [hasAgent_iff] at hid ⊢
    rw [hids]
    exact hid
  exact { hs with
    agentIds := hids.symm ▸ hs.agentIds
    modelParents := fun r hr => hagent (hs.modelParents r hr)
    actionParents := fun r hr => (hs.actionParents r hr).imp_left hagent
    scheduleParents := fun r hr => hagent (hs.scheduleParents r hr) }

theorem createModel {m : Model} (hs : s.Lawful) (h : s.createModel t agentId m = .ok s') :
    s'.Lawful := by
  obtain ⟨rfl, hid, hname, hagent⟩ := createModel_eq_ok h
  exact { hs with
    modelIds := nodup_concat hs.modelIds hid
    modelNames := nodup_concat hs.modelNames hname
    modelParents := List.forall_mem_append.mpr
      ⟨hs.modelParents, List.forall_mem_singleton.mpr hagent⟩
    actionParents := fun r hr => (hs.actionParents r hr).imp_right any_concat
    turnParents := fun r hr =>
      (hs.turnParents r hr).imp_right fun h => h.imp_left any_concat }

theorem appendFields {fields : List Field} (hs : s.Lawful)
    (h : s.appendFields modelId fields = .ok s') : s'.Lawful := by
  obtain ⟨row, old, -, -, ⟨-, rfl⟩ | rfl⟩ := appendFields_eq_ok h
  · exact hs
  have hids : (s.models.map (ModelRow.setFields modelId (appendNew old fields))).map (·.id) =
      s.models.map (·.id) := map_key fun r => r.setFields_id _ _
  have hnames : (s.models.map (ModelRow.setFields modelId (appendNew old fields))).map
      (fun r => (r.agentId, r.name)) = s.models.map fun r => (r.agentId, r.name) :=
    map_key fun r => by rw [ModelRow.setFields_agentId, ModelRow.setFields_name]
  have hmodel {id : String} (hid : s.hasModel id) : ({ s with
      models := s.models.map (ModelRow.setFields modelId (appendNew old fields)) } :
      Store).hasModel id := by
    rw [hasModel_iff] at hid ⊢
    rw [hids]
    exact hid
  refine { hs with
    modelIds := hids.symm ▸ hs.modelIds
    modelNames := hnames.symm ▸ hs.modelNames
    modelParents := fun r hr => ?_
    actionParents := fun r hr => (hs.actionParents r hr).imp_right hmodel
    turnParents := fun r hr => (hs.turnParents r hr).imp_right fun h => h.imp_left hmodel }
  obtain ⟨old, hold, rfl⟩ := List.mem_map.mp hr
  rw [ModelRow.setFields_agentId]
  exact hs.modelParents old hold

theorem createAction {a : Action} (hs : s.Lawful)
    (h : s.createAction t agentId modelId a = .ok s') : s'.Lawful := by
  obtain ⟨rfl, hid, hname, hparents⟩ := createAction_eq_ok h
  exact { hs with
    actionIds := nodup_concat hs.actionIds hid
    actionNames := nodup_concat hs.actionNames hname
    actionParents := List.forall_mem_append.mpr
      ⟨hs.actionParents, List.forall_mem_singleton.mpr hparents⟩
    stepParents := fun r hr => any_concat (hs.stepParents r hr)
    turnParents := fun r hr =>
      (hs.turnParents r hr).imp_right fun h => h.imp_right any_concat }

theorem createStep {position : UInt32} {step : Step} {ready : Bool} (hs : s.Lawful)
    (h : s.createStep t actionId position step ready = .ok s') : s'.Lawful := by
  obtain ⟨rfl, hid, hposition, hparent⟩ := createStep_eq_ok h
  exact { hs with
    stepIds := nodup_concat hs.stepIds hid
    positions := nodup_concat hs.positions hposition
    stepParents := List.forall_mem_append.mpr
      ⟨hs.stepParents, List.forall_mem_singleton.mpr hparent⟩ }

theorem createSchedule {c : Schedule} (hs : s.Lawful)
    (h : s.createSchedule t agentId c = .ok s') : s'.Lawful := by
  obtain ⟨rfl, hid, hname, hparent⟩ := createSchedule_eq_ok h
  exact { hs with
    scheduleIds := nodup_concat hs.scheduleIds hid
    scheduleNames := nodup_concat hs.scheduleNames hname
    scheduleParents := List.forall_mem_append.mpr
      ⟨hs.scheduleParents, List.forall_mem_singleton.mpr hparent⟩
    turnParents := fun r hr => (hs.turnParents r hr).imp_left any_concat }

theorem createTurn {turn : ScheduleStep} (hs : s.Lawful)
    (h : s.createTurn t scheduleId modelId actionId turn = .ok s') : s'.Lawful := by
  obtain ⟨rfl, hid, horder, hparents⟩ := createTurn_eq_ok h
  exact { hs with
    turnIds := nodup_concat hs.turnIds hid
    orders := nodup_concat hs.orders horder
    turnParents := List.forall_mem_append.mpr
      ⟨hs.turnParents, List.forall_mem_singleton.mpr hparents⟩ }

end Calls

/-- A write that fails leaves the tables, one that succeeds leaves others. -/
theorem settle_cases {r : Except StoreError (α × Store)} :
    (StoreCall.answer.settle s r).2 = s ∨ ∃ a s', r = .ok (a, s') ∧
      (StoreCall.answer.settle s r).2 = s' := by
  cases r with
  | ok p => exact Or.inr ⟨p.1, p.2, rfl, rfl⟩
  | error e => exact Or.inl rfl

theorem map_pair_eq_ok {r : Except StoreError Store} {a b : α}
    (h : r.map (a, ·) = .ok (b, s')) : r = .ok s' := by
  cases r with
  | ok s => cases h; rfl
  | error e => cases h

/-- Every call keeps the tables lawful. -/
theorem answer (hs : s.Lawful) (t : Stamp) (c : StoreCall) : (c.answer t s).2.Lawful := by
  cases c with
  | createAgent a =>
    rcases settle_cases (r := s.createAgent t a) with h | ⟨record, s', hok, h⟩
    · exact h.symm ▸ hs
    · exact h.symm ▸ hs.createAgent hok
  | updateAgent agentId change =>
    rcases settle_cases (r := s.updateAgent t.now agentId change) with h | ⟨record, s', hok, h⟩
    · exact h.symm ▸ hs
    · exact h.symm ▸ hs.updateAgent hok
  | createModel agentId m =>
    rcases settle_cases (r := (s.createModel t agentId m).map (t.id, ·)) with h | ⟨id, s', hok, h⟩
    · exact h.symm ▸ hs
    · exact h.symm ▸ hs.createModel (map_pair_eq_ok hok)
  | appendFields modelId fields =>
    rcases settle_cases (r := (s.appendFields modelId fields).map ((), ·)) with
      h | ⟨id, s', hok, h⟩
    · exact h.symm ▸ hs
    · exact h.symm ▸ hs.appendFields (map_pair_eq_ok hok)
  | createAction agentId modelId a =>
    rcases settle_cases (r := (s.createAction t agentId modelId a).map (t.id, ·)) with
      h | ⟨id, s', hok, h⟩
    · exact h.symm ▸ hs
    · exact h.symm ▸ hs.createAction (map_pair_eq_ok hok)
  | createStep actionId position step ready =>
    rcases settle_cases (r := (s.createStep t actionId position step ready).map (t.id, ·)) with
      h | ⟨id, s', hok, h⟩
    · exact h.symm ▸ hs
    · exact h.symm ▸ hs.createStep (map_pair_eq_ok hok)
  | createSchedule agentId c =>
    rcases settle_cases (r := (s.createSchedule t agentId c).map (t.id, ·)) with
      h | ⟨id, s', hok, h⟩
    · exact h.symm ▸ hs
    · exact h.symm ▸ hs.createSchedule (map_pair_eq_ok hok)
  | createTurn scheduleId modelId actionId turn =>
    rcases settle_cases (r := (s.createTurn t scheduleId modelId actionId turn).map (t.id, ·)) with
      h | ⟨id, s', hok, h⟩
    · exact h.symm ▸ hs
    · exact h.symm ▸ hs.createTurn (map_pair_eq_ok hok)
  | loadGraph agentId => exact hs

end Lawful
end Store
end AgentSpec
