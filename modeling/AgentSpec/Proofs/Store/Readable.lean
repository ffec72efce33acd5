import AgentSpec.Proofs.Store.Rows

/-!
What one call does to the tables, and that it leaves rows that can be read.

`Written` says all that a successful call may do: one constructor per call, with what the tables had
to admit.  Loading reads the rows of an agent one by one, so it fails only if one of them cannot be
read.  Calls write readable rows, but for queries that are nested too deeply, and what they change
stays readable (`Readable.answer`); so agents that only calls have written are loaded without an
error if they have no such query (`Readable.exists_load`).
-/
namespace AgentSpec

namespace Store

/-! ## One call -/

/-- A call succeeds with a value, and these are the tables after it. -/
inductive Written (t : Stamp) (s : Store) : (c : StoreCall) → c.Value → Store → Prop
  | createAgent {a : NewAgent} : t.id ∉ s.agents.map (·.id) →
      Written t s (.createAgent a) (a.record t)
        { s with agents := s.agents ++ [.ofRecord (a.record t)] }
  | updateAgent {agentId : String} {change : AgentChange} {old record : AgentRecord} :
      s.agent? agentId = .ok (some old) → record = AgentChange.apply change t.now old →
      Written t s (.updateAgent agentId change) record
        { s with agents := s.agents.map (AgentRow.setRecord agentId record) }
  | createModel {agentId : String} {m : Model} : t.id ∉ s.models.map (·.id) →
      Written t s (.createModel agentId m) t.id
        { s with models := s.models ++ [.ofModel t.id t.now.toOffsetText agentId m] }
  | appendNothing {modelId : String} {fields : List Field} :
      Written t s (.appendFields modelId fields) () s
  | appendFields {modelId : String} {fields new : List Field} :
      Written t s (.appendFields modelId fields) ()
        { s with models := s.models.map (ModelRow.setFields modelId new) }
  | createAction {agentId modelId : String} {a : Action} : t.id ∉ s.actions.map (·.id) →
      Written t s (.createAction agentId modelId a) t.id
        { s with actions := s.actions ++ [.ofAction t.id t.now.toOffsetText agentId modelId a] }
  | createStep {actionId : String} {position : UInt32} {step : Step} {ready : Bool} :
      Written t s (.createStep actionId position step ready) t.id
        { s with
          steps := s.steps ++ [.ofStep t.id t.now.toOffsetText actionId position step ready] }
  | createSchedule {agentId : String} {c : Schedule} : t.id ∉ s.schedules.map (·.id) →
      Written t s (.createSchedule agentId c) t.id
        { s with schedules := s.schedules ++ [.ofSchedule t.id t.now.toOffsetText agentId c] }
  | createTurn {scheduleId modelId actionId : String} {turn : ScheduleStep} :
      Written t s (.createTurn scheduleId modelId actionId turn) t.id
        { s with
          turns := s.turns ++
            [.ofTurn t.id t.now.toOffsetText scheduleId modelId actionId turn] }
  | loadGraph {agentId : String} {g : Option StoredGraph} : s.load agentId = .ok g →
      Written t s (.loadGraph agentId) g s

theorem settle_eq_ok {s s' : Store} {r : Except StoreError (α × Store)} {a : α}
    (h : StoreCall.answer.settle s r = (.ok a, s')) : r = .ok (a, s') := by
  cases r with
  | ok p =>
    cases h
    rfl
  | error e => cases h

theorem settle_eq_error {s s' : Store} {r : Except StoreError (α × Store)} {e : StoreError}
    (h : StoreCall.answer.settle s r = (.error e, s')) : s' = s := by
  cases r with
  | ok p => cases h
  | error e' =>
    cases h
    rfl

theorem map_pair_ok {s' : Store} {r : Except StoreError Store} {a b : α}
    (h : r.map (a, ·) = .ok (b, s')) : b = a ∧ r = .ok s' := by
  cases r with
  | ok s => cases h; exact ⟨rfl, rfl⟩
  | error e => cases h

variable {s s' : Store} {t : Stamp}

theorem written_of_answer {c : StoreCall} {v : c.Value} (h : c.answer t s = (.ok v, s')) :
    Written t s c v s' := by
  cases c with
  | createAgent a =>
    obtain ⟨hrecord, rfl, hid⟩ := createAgent_eq_ok (settle_eq_ok h)
    cases hrecord
    exact .createAgent hid
  | updateAgent agentId change =>
    obtain ⟨old, hold, hrecord, rfl⟩ := updateAgent_eq_ok (settle_eq_ok h)
    exact .updateAgent hold hrecord
  | createModel agentId m =>
    obtain ⟨rfl, hok⟩ := map_pair_ok (settle_eq_ok h)
    obtain ⟨rfl, hid, -⟩ := createModel_eq_ok hok
    exact .createModel hid
  | appendFields modelId fields =>
    obtain ⟨-, hok⟩ := map_pair_ok (settle_eq_ok h)
    obtain ⟨row, old, -, -, ⟨-, rfl⟩ | rfl⟩ := appendFields_eq_ok hok
    · exact .appendNothing
    · exact .appendFields
  | createAction agentId modelId a =>
    obtain ⟨rfl, hok⟩ := map_pair_ok (settle_eq_ok h)
    obtain ⟨rfl, hid, -⟩ := createAction_eq_ok hok
    exact .createAction hid
  | createStep actionId position step ready =>
    obtain ⟨rfl, hok⟩ := map_pair_ok (settle_eq_ok h)
    obtain ⟨rfl, -⟩ := createStep_eq_ok hok
    exact .createStep
  | createSchedule agentId c =>
    obtain ⟨rfl, hok⟩ := map_pair_ok (settle_eq_ok h)
    obtain ⟨rfl, hid, -⟩ := createSchedule_eq_ok hok
    exact .createSchedule hid
  | createTurn scheduleId modelId actionId turn =>
    obtain ⟨rfl, hok⟩ := map_pair_ok (settle_eq_ok h)
    obtain ⟨rfl, -⟩ := createTurn_eq_ok hok
    exact .createTurn
  | loadGraph agentId =>
    obtain ⟨hload, rfl⟩ := Prod.mk.inj h
    exact .loadGraph hload

/-- A call succeeds, or the tables stay as they are. -/
theorem answer_cases (t : Stamp) (s : Store) (c : StoreCall) :
    (∃ v, (c.answer t s).1 = .ok v ∧ Written t s c v (c.answer t s).2) ∨
      ∃ e, (c.answer t s).1 = .error e ∧ (c.answer t s).2 = s := by
  cases hr : (c.answer t s).1 with
  | ok v => exact Or.inl ⟨v, rfl, written_of_answer (Prod.ext hr rfl)⟩
  | error e =>
    refine Or.inr ⟨e, rfl, ?_⟩
    have hall : c.answer t s = (.error e, (c.answer t s).2) := Prod.ext hr rfl
    cases c with
    | loadGraph agentId => rfl
    | _ => exact settle_eq_error hall

/-- Queries that can be read after a call could be read before. -/
theorem Written.shallowFor {c : StoreCall} {v : c.Value} (h : Written t s c v s') {id : String}
    (hq : s'.ShallowFor id) : s.ShallowFor id := by
  cases h with
  | createSchedule => exact hq.mono (List.subset_append_left _ _) (List.Subset.refl _)
  | createTurn => exact hq.mono (List.Subset.refl _) (List.subset_append_left _ _)
  | createAgent | updateAgent | createModel | appendNothing | appendFields | createAction
  | createStep | loadGraph => exact hq

theorem Follows.shallowFor {es : List Event} {clock : List Instant} (h : s.Follows es clock s')
    {id : String} (hq : s'.ShallowFor id) : s.ShallowFor id := by
  induction h with
  | nil s => exact hq
  | @answered s s' es clock t c _ ih =>
    rcases answer_cases t s c with ⟨v, -, hw⟩ | ⟨e, -, hsame⟩
    · exact hw.shallowFor (ih hq)
    · exact hsame ▸ ih hq
  | refused _ _ _ ih => exact ih hq
  | silent _ _ ih => exact ih hq

/-! ## Rows that can be read -/

/-- Every row can be read by itself, a turn if its query is not nested too deeply. -/
structure Readable (s : Store) : Prop where
  agents : ∀ r ∈ s.agents, ∃ a, r.read = .ok a
  models : ∀ r ∈ s.models, ∃ m, r.read = .ok m
  steps : ∀ r ∈ s.steps, ∃ p, r.read = .ok p
  schedules : ∀ r ∈ s.schedules, ∃ n, r.intervalHours.mapM
    (Cell.readNat32 "interval_hours" "core::option::Option<i64>") = .ok n
  turns : ∀ r ∈ s.turns, r.query.Shallow → ∀ m a, ∃ p, readTurn r m a = .ok p

namespace Readable

theorem empty : ({} : Store).Readable := by
  constructor <;> simp

section Load

variable (hr : s.Readable)
include hr

theorem exists_readAction (r : ActionRow) (m : ModelRow) : ∃ a, s.readAction r m = .ok a := by
  have hsteps : ∃ steps, (s.stepsOf r.id).mapM StepRow.read = .ok steps := by
    refine exists_mapM fun p hp => hr.steps p ?_
    exact List.mem_of_mem_filter (List.mem_mergeSort.mp hp)
  obtain ⟨steps, hsteps⟩ := hsteps
  exact ⟨_, bind_eq_ok.mpr ⟨steps, hsteps, rfl⟩⟩

theorem exists_readSchedule {r : ScheduleRow} (hmem : r ∈ s.schedules)
    (hq : ∀ t ∈ s.turns, t.scheduleId = r.id → t.query.Shallow) :
    ∃ c, s.readSchedule r = .ok c := by
  have hturns : ∃ turns, s.readTurns r.id = .ok turns := by
    refine exists_mapM fun ⟨p, m, a⟩ hp => ?_
    obtain ⟨q, hmem', hfound⟩ := List.mem_filterMap.mp hp
    obtain ⟨m', -, hfound⟩ := Option.bind_eq_some_iff.mp hfound
    obtain ⟨a', -, hfound⟩ := Option.bind_eq_some_iff.mp hfound
    obtain ⟨rfl, rfl, rfl⟩ : q = p ∧ m' = m ∧ a' = a := by simpa using hfound
    obtain ⟨hturn, hparent⟩ := List.mem_filter.mp (List.mem_mergeSort.mp hmem')
    exact hr.turns q hturn (hq q hturn (beq_iff_eq.mp hparent)) m' a'
  obtain ⟨turns, hturns⟩ := hturns
  obtain ⟨n, hn⟩ := hr.schedules r hmem
  exact ⟨_, bind_eq_ok.mpr ⟨turns, hturns, bind_eq_ok.mpr ⟨n, hn, rfl⟩⟩⟩

/-- An agent that is there can be loaded. -/
theorem exists_load_some {id : String} (hq : s.ShallowFor id) (hid : s.hasAgent id) :
    ∃ g, s.load id = .ok (some g) := by
  obtain ⟨row, hrow⟩ := Option.isSome_iff_exists.mp
    (List.find?_isSome.mpr (List.any_eq_true.mp hid))
  obtain ⟨agent, hagent⟩ := hr.agents row (List.mem_of_find?_eq_some hrow)
  have hmodels : ∃ models, (s.modelsOf id).mapM ModelRow.read = .ok models := by
    refine exists_mapM fun r hmem => hr.models r ?_
    exact List.mem_of_mem_filter ((sortedBy_perm _ _).mem_iff.mp hmem)
  have hactions : ∃ actions, ((s.actionsOf id).mapM fun p => s.readAction p.1 p.2) =
      .ok actions := exists_mapM fun p _ => hr.exists_readAction p.1 p.2
  have hschedules : ∃ schedules, (s.schedulesOf id).mapM s.readSchedule = .ok schedules := by
    refine exists_mapM fun r hmem => ?_
    obtain ⟨hrow, hagent⟩ := List.mem_filter.mp ((sortedBy_perm _ _).mem_iff.mp hmem)
    exact hr.exists_readSchedule hrow (hq r hrow (beq_iff_eq.mp hagent))
  obtain ⟨models, hmodels⟩ := hmodels
  obtain ⟨actions, hactions⟩ := hactions
  obtain ⟨schedules, hschedules⟩ := hschedules
  exact ⟨⟨agent, models, actions, schedules⟩,
    (load_eq_ok hrow).mpr ⟨hagent, hmodels, hactions, hschedules⟩⟩

/-- Loading fails for no agent whose queries can be read. -/
theorem exists_load {id : String} (hq : s.ShallowFor id) : ∃ g, s.load id = .ok g := by
  by_cases hid : s.hasAgent id
  · obtain ⟨g, hg⟩ := hr.exists_load_some hq hid
    exact ⟨some g, hg⟩
  · refine ⟨none, load_eq_none (List.find?_eq_none.mpr fun r hmem heq => hid ?_)⟩
    exact List.any_eq_true.mpr ⟨r, hmem, heq⟩

theorem exists_agent? {id : String} (hid : s.hasAgent id) :
    ∃ a, s.agent? id = .ok (some a) := by
  obtain ⟨row, hrow⟩ := Option.isSome_iff_exists.mp
    (List.find?_isSome.mpr (List.any_eq_true.mp hid))
  obtain ⟨agent, hagent⟩ := hr.agents row (List.mem_of_find?_eq_some hrow)
  refine ⟨agent, ?_⟩
  rw [agent?, hrow, Option.mapM_some, hagent]
  rfl

/-- The fields of a model that is there can be read. -/
theorem exists_fields {id : String} (hid : s.hasModel id) :
    ∃ row fields, s.model? id = some row ∧ row.fields.Holds fields := by
  obtain ⟨row, hrow, hmem, -⟩ := exists_model? hid
  obtain ⟨m, hm⟩ := hr.models row hmem
  obtain ⟨-, -, -, -, hfields⟩ := ModelRow.read_eq_ok.mp hm
  exact ⟨row, m.model.fields, hrow, hfields⟩

end Load

/-! ## Calls leave readable rows -/

theorem setRecord {r : AgentRow} {agentId : String} {record : AgentRecord}
    (hr : ∃ a, r.read = .ok a) (hnow : record.updatedAt.Ordinary) :
    ∃ a, (r.setRecord agentId record).read = .ok a := by
  obtain ⟨a, ha⟩ := hr
  unfold AgentRow.setRecord
  by_cases hid : r.id = agentId
  · rw [if_pos hid]
    obtain ⟨-, -, -, -, -, -, hcreated, -⟩ := AgentRow.read_eq_ok.mp ha
    refine ⟨{ a with
      id := r.id, name := r.name, description := record.description, ownerId := r.ownerId
      rootModel := record.rootModel, connections := record.connections
      updatedAt := record.updatedAt }, AgentRow.read_eq_ok.mpr ?_⟩
    exact ⟨rfl, rfl, rfl, rfl, rfl, Column.read_ofConnections _, hcreated,
      AgentRow.readInstant_of_ordinary hnow⟩
  · rw [if_neg hid]
    exact ⟨a, ha⟩

theorem setFields {r : ModelRow} (hr : ∃ m, r.read = .ok m) (modelId : String)
    (fields : List Field) : ∃ m, (r.setFields modelId fields).read = .ok m := by
  obtain ⟨m, hm⟩ := hr
  obtain ⟨hid, hname, hdisplay, hforms, -⟩ := ModelRow.read_eq_ok.mp hm
  unfold ModelRow.setFields
  by_cases hmodel : r.id = modelId
  · rw [if_pos hmodel]
    refine ⟨⟨m.id, { m.model with fields := fields }⟩, ModelRow.read_eq_ok.mpr ?_⟩
    exact ⟨hid, hname, hdisplay, hforms, Column.ofFields_holds fields⟩
  · rw [if_neg hmodel]
    exact ⟨m, hm⟩

theorem exists_hours (n : Option UInt32) : ∃ k, (n.map Cell.ofNat32).mapM
    (Cell.readNat32 "interval_hours" "core::option::Option<i64>") = Except.ok k := by
  cases n with
  | none => exact ⟨none, rfl⟩
  | some n =>
    refine ⟨some n, ?_⟩
    rw [Option.map_some, Option.mapM_some, Cell.readNat32_ofNat32]
    rfl

theorem exists_readTurn (id createdAt scheduleId modelId actionId : String) (turn : ScheduleStep)
    (m : ModelRow) (a : ActionRow) (hq : (Column.ofQuery turn.query).Shallow) :
    ∃ p, readTurn (.ofTurn id createdAt scheduleId modelId actionId turn) m a = .ok p := by
  have hquery := Column.read_ofQuery (Column.shallow_ofQuery.mp hq)
  exact ⟨_, bind_eq_ok.mpr ⟨_, hquery, bind_eq_ok.mpr ⟨_, Cell.readNat32_ofNat32 .., rfl⟩⟩⟩

/-- A readable row behind readable ones. -/
theorem concat {p : α → Prop} {rows : List α} {row : α} (h : ∀ r ∈ rows, p r) (hnew : p row) :
    ∀ r ∈ rows ++ [row], p r :=
  List.forall_mem_append.mpr ⟨h, List.forall_mem_singleton.mpr hnew⟩

theorem written (hr : s.Readable) (ht : t.now.Ordinary) {c : StoreCall} {v : c.Value}
    (h : Written t s c v s') : s'.Readable := by
  cases h with
  | @createAgent a hid =>
    exact { hr with agents := concat hr.agents ⟨_, AgentRow.read_ofRecord ht ht⟩ }
  | @updateAgent agentId change old record hold hrecord =>
    have hnow : record.updatedAt.Ordinary := by
      rw [hrecord]
      exact ht
    exact { hr with
      agents := List.forall_mem_map.mpr fun r hmem => setRecord (hr.agents r hmem) hnow }
  | createModel hid =>
    exact { hr with models := concat hr.models ⟨_, ModelRow.read_ofModel ..⟩ }
  | appendNothing => exact hr
  | @appendFields modelId fields new =>
    exact { hr with
      models := List.forall_mem_map.mpr fun r hmem => setFields (hr.models r hmem) modelId new }
  | createAction hid => exact { hr with }
  | createStep => exact { hr with steps := concat hr.steps ⟨_, StepRow.read_ofStep ..⟩ }
  | @createSchedule agentId c hid =>
    exact { hr with schedules := concat hr.schedules (exists_hours c.intervalHours) }
  | createTurn =>
    exact { hr with turns := concat hr.turns fun hq m a => exists_readTurn _ _ _ _ _ _ m a hq }
  | loadGraph hload => exact hr

/-- Every call leaves rows that can be read, as far as their queries can. -/
theorem answer (hr : s.Readable) (ht : t.now.Ordinary) (c : StoreCall) :
    (c.answer t s).2.Readable := by
  rcases answer_cases t s c with ⟨v, -, h⟩ | ⟨e, -, h⟩
  · exact hr.written ht h
  · rw [h]
    exact hr

end Readable
end Store
end AgentSpec
