import AgentSpec.Proofs.Persist.Completed
import AgentSpec.Proofs.Persist.Confined
import AgentSpec.Proofs.Store.Agents

/-!
What a run hands out is what the tables show.

A run that stored everything hands out the entities that it made of the replies.  The tables show
the same entities, save that they may list them in another order and that a query is what its text
is read as, if that is not nested too deeply (`Settled.lists`).
-/
namespace AgentSpec

/-- The schedule with its queries as they are read. -/
def StoredSchedule.reread (c : StoredSchedule) : StoredSchedule :=
  { c with steps := c.steps.map (·.reread) }

/-- A stored graph with what a run handed out put to it. -/
def StoredGraph.joined (existing : StoredGraph) (ws : List Write) (saved : Saved) : StoredGraph where
  agent := existing.agent
  models := existing.models.map (·.extended ws) ++ saved.models
  actions := existing.actions ++ saved.actions
  schedules := existing.schedules ++ saved.schedules.map (·.reread)

/-! ## Places -/

/-- Counting in 32 bits without a repetition stays below the end. -/
theorem le_of_nodup_positions {n : Nat} (h : ((List.range' 0 n).map UInt32.ofNat).Nodup) :
    n ≤ UInt32.size := by
  by_contra hlt
  have hzero : 0 ∈ List.range' 0 n := by rw [List.mem_range'_1]; omega
  have hend : UInt32.size ∈ List.range' 0 n := by rw [List.mem_range'_1]; omega
  have hsame : UInt32.ofNat 0 = UInt32.ofNat UInt32.size := rfl
  exact absurd (List.inj_on_of_nodup_map h hzero hend hsame) (by decide)

theorem pairwise_positions {n : Nat} (h : n ≤ UInt32.size) :
    ((List.range' 0 n).map UInt32.ofNat).Pairwise (· ≤ ·) := by
  rw [List.pairwise_map]
  refine List.Pairwise.imp_of_mem (fun {a b} ha hb hlt => ?_) List.pairwise_lt_range'
  rw [List.mem_range'_1] at ha hb
  rw [UInt32.le_iff_toNat_le, UInt32.toNat_ofNat_of_lt' (by omega),
    UInt32.toNat_ofNat_of_lt' (by omega)]
  exact Nat.le_of_lt hlt

theorem StepsStored.sorted {coding : Bool} {a : Action} {es : List Event} {steps : List Step}
    {stored : List StoredStep} (h : StepsStored coding a es 0 steps stored)
    (hnodup : (stored.map (·.position)).Nodup) :
    stored.mergeSort (fun a b => a.position ≤ b.position) = stored := by
  rw [h.positions] at hnodup
  have hp := pairwise_positions (le_of_nodup_positions hnodup)
  rw [← h.positions, List.pairwise_map] at hp
  exact List.mergeSort_of_pairwise (hp.imp fun hle => decide_eq_true hle)

/-- The turns of a schedule stand by order. -/
theorem Schedule.turns_sorted (c : Schedule) :
    c.turns.Pairwise fun a b => a.1.order ≤ b.1.order :=
  pairwise_mergeSort_le (fun t : ScheduleStep × Nat => t.1.order) c.steps.zipIdx

/-! ## Names -/

namespace Store

variable {s : Store} {agentId : String}

theorem modelName_of_lists (hs : s.Lawful) {models : List StoredModel}
    (hl : List.Forall₂ (fun r m => r.read = .ok m) (s.models.filter (·.agentId == agentId)) models)
    {m : StoredModel} (hm : m ∈ models) : s.modelName m.id = m.model.name := by
  obtain ⟨r, hr, hread⟩ := forall₂_mem_right hl hm
  obtain ⟨hid, hname, -⟩ := ModelRow.read_eq_ok.mp hread
  have hfind : s.model? r.id = some r := find?_of_mem hs.modelIds (List.mem_of_mem_filter hr)
  rw [← hid, modelName_of_model? hfind, hname]

theorem actionName_of_lists (hs : s.Lawful) {actions : List StoredAction}
    (hl : List.Forall₂ (fun r a => s.readActionOf r = .ok a)
      (s.actions.filter (·.agentId == agentId)) actions)
    {a : StoredAction} (ha : a ∈ actions) : s.actionName a.id = a.name := by
  obtain ⟨r, hr, hread⟩ := forall₂_mem_right hl ha
  obtain ⟨hid, hname, -⟩ := readActionOf_eq_ok hread
  have hfind : s.action? r.id = some r := find?_of_mem hs.actionIds (List.mem_of_mem_filter hr)
  rw [← hid, actionName_of_action? hfind, hname]

end Store

namespace Known

variable {existing : StoredGraph} {name id : String}

/-- An identifier that is known for a model is that of a stored model or of a new one. -/
theorem exists_model_of_lookup {models : List StoredModel}
    (h : (models.foldl addModel (ofStored existing)).models.lookup name = some id) :
    ∃ m ∈ existing.models ++ models, m.id = id ∧ m.model.name = name := by
  rw [addModels_models, Dictionary.lookup_foldl_insert, Option.or_eq_some_iff] at h
  rcases h with h | ⟨-, h⟩
  · have hmem := List.mem_reverse.mp (Dictionary.mem_of_lookup h)
    obtain ⟨m, hm, heq⟩ := List.mem_map.mp hmem
    exact ⟨m, List.mem_append_right _ hm, congrArg Prod.snd heq, congrArg Prod.fst heq⟩
  · have hmem := Dictionary.mem_of_lookup ((Dictionary.lookup_ofList _ _).symm.trans h)
    obtain ⟨m, hm, heq⟩ := List.mem_map.mp (List.mem_reverse.mp hmem)
    exact ⟨m, List.mem_append_left _ hm, congrArg Prod.snd heq, congrArg Prod.fst heq⟩

theorem exists_stored_model (h : (ofStored existing).models.lookup name = some id) :
    ∃ m ∈ existing.models, m.id = id ∧ m.model.name = name := by
  have hm : ∃ m ∈ existing.models ++ [], m.id = id ∧ m.model.name = name := exists_model_of_lookup h
  rwa [List.append_nil] at hm

theorem exists_action_of_lookup {actions : List StoredAction}
    (h : (actions.foldl addAction (ofStored existing)).actions.lookup name = some id) :
    ∃ a ∈ existing.actions ++ actions, a.id = id ∧ a.name = name := by
  rw [addActions_actions, Dictionary.lookup_foldl_insert, Option.or_eq_some_iff] at h
  rcases h with h | ⟨-, h⟩
  · have hmem := List.mem_reverse.mp (Dictionary.mem_of_lookup h)
    obtain ⟨a, ha, heq⟩ := List.mem_map.mp hmem
    exact ⟨a, List.mem_append_right _ ha, congrArg Prod.snd heq, congrArg Prod.fst heq⟩
  · have hmem := Dictionary.mem_of_lookup ((Dictionary.lookup_ofList _ _).symm.trans h)
    obtain ⟨a, ha, heq⟩ := List.mem_map.mp (List.mem_reverse.mp hmem)
    exact ⟨a, List.mem_append_left _ ha, congrArg Prod.snd heq, congrArg Prod.fst heq⟩

end Known

/-! ## Identifiers and places of what was written -/

namespace Store.Grown

variable {ws : List Write} {s s' : Store}

theorem nodup_actionIds (h : Grown ws s s') (hs' : s'.Lawful) :
    ((ws.filterMap Write.action?).map (·.1)).Nodup := by
  obtain ⟨rows, hrows, heq⟩ := h.actions
  have hids : (ws.filterMap Write.action?).map (·.1) = rows.map (·.id) := by
    have hundated : rows.map (·.id) = (rows.map (·.undated)).map (·.id) := by
      rw [List.map_map]
      rfl
    rw [hundated, hrows, List.map_filterMap, List.map_filterMap]
    refine List.filterMap_congr fun w _ => ?_
    cases w <;> rfl
  have hnodup := hs'.actionIds
  rw [heq, List.map_append] at hnodup
  rw [hids]
  exact (List.nodup_append.mp hnodup).2.1

theorem nodup_scheduleIds (h : Grown ws s s') (hs' : s'.Lawful) :
    ((ws.filterMap Write.schedule?).map (·.1)).Nodup := by
  obtain ⟨rows, hrows, heq⟩ := h.schedules
  have hids : (ws.filterMap Write.schedule?).map (·.1) = rows.map (·.id) := by
    have hundated : rows.map (·.id) = (rows.map (·.undated)).map (·.id) := by
      rw [List.map_map]
      rfl
    rw [hundated, hrows, List.map_filterMap, List.map_filterMap]
    refine List.filterMap_congr fun w _ => ?_
    cases w <;> rfl
  have hnodup := hs'.scheduleIds
  rw [heq, List.map_append] at hnodup
  rw [hids]
  exact (List.nodup_append.mp hnodup).2.1

/-- No place in a new action is taken twice. -/
theorem nodup_positions (h : Grown ws s s') (hs : s.Lawful) (hs' : s'.Lawful) {id : String}
    (hid : ¬s.hasAction id) : ((ws.filterMap (Write.step? id)).map (·.position)).Nodup := by
  have hkeys : (s'.steps.filter (·.actionId == id)).map (fun r => (r.actionId, r.position)) =
      (ws.filterMap (Write.step? id)).map fun t => (id, Cell.ofNat32 t.position) := by
    refine forall₂_map_eq ((h.stepRows_new hs hid).imp fun r t hr => ?_)
    exact Prod.ext (congrArg StepRow.actionId hr) (congrArg StepRow.position hr)
  have hsub : (s'.steps.filter (·.actionId == id)).Sublist s'.steps := List.filter_sublist
  have hnodup := hs'.positions.sublist (hsub.map _)
  rw [hkeys] at hnodup
  refine List.Nodup.of_map (fun p => (id, Cell.ofNat32 p)) ?_
  rw [List.map_map]
  exact hnodup

end Store.Grown

/-! ## Tables after a run -/

/-- What the tables are after a run that stored everything. -/
structure Settled (s s' : Store) (agentId : String) (g : StoredGraph) (ws : List Write) : Prop where
  before : s.Lawful
  after : s'.Lawful
  grown : s.Grown ws s'
  confined : s.Confined agentId ws
  listed : s.Lists agentId g

namespace Settled

variable {s s' : Store} {agentId : String} {g : StoredGraph} {ws : List Write}
  (h : Settled s s' agentId g ws)
include h

theorem models : List.Forall₂ (fun r m => r.read = .ok m) (s'.models.filter (·.agentId == agentId))
    (g.grown s' ws).models := h.grown.lists_models h.after h.confined h.listed.models

theorem actions : List.Forall₂ (fun r a => s'.readActionOf r = .ok a)
    (s'.actions.filter (·.agentId == agentId)) (g.grown s' ws).actions :=
  h.grown.lists_actions h.before h.after h.confined h.listed.actions

/-- The graph is listed if the queries in it can be read. -/
theorem lists (hq : s'.ShallowFor agentId) : s'.Lists agentId (g.grown s' ws) :=
  h.grown.lists h.before h.after h.confined hq h.listed

end Settled

/-! ## Reading back -/

section Readback

variable {w : Weave} {coding : Bool} {agentId : String} {d : Graph} {additions : Additions}
  {existing g : StoredGraph} {es : List Event} {saved : Saved} {s s' : Store}
  {clock : List Instant} {appends : List (String × List Field)}
  {actions : List Program.ActionEntry} {schedules : List Program.ScheduleEntry}

theorem Store.Follows.settled (hf : s.Follows es clock s') (hs : s.Lawful) (hl : s.Lists agentId g)
    (hg : g.Reorders existing) {o : End Saved}
    (h : (Program.save coding agentId d additions (.ofStored existing)).Trace w es o) :
    Settled s s' agentId g (writes es) := by
  have hin := Program.save_confined_of_lists hl hg h
  have hs' := hf.lawful hs
  have hgrown := hf.grown hs fun id change record => hin.changes id change record
  exact ⟨hs, hs', hgrown, hin, hl⟩

namespace Program.Completed

variable (h : Completed w coding d additions (.ofStored existing) es saved appends actions schedules)
  (hst : Settled s s' agentId g (writes es)) (hg : g.Reorders existing)
include h hst

theorem nodup_actions : (actions.map (·.1.1)).Nodup := by
  have hids := (h.actionWrites.map (·.1)).nodup_iff.mp (hst.grown.nodup_actionIds hst.after)
  rwa [List.map_map] at hids

theorem nodup_schedules : (schedules.map (·.1.1)).Nodup := by
  have hids := (h.scheduleWrites.map (·.1)).nodup_iff.mp (hst.grown.nodup_scheduleIds hst.after)
  rwa [List.map_map] at hids

theorem fresh_action {x : ActionEntry} (hx : x ∈ actions) : ¬s.hasAction x.1.1 := by
  obtain ⟨v, hv, hxv⟩ := List.mem_filterMap.mp (h.actionWrites.mem_iff.mpr (List.mem_map_of_mem hx))
  cases v with
  | action owner id modelId a =>
    have hid : id = x.1.1 := congrArg Prod.fst (Option.some.inj hxv)
    exact hid ▸ hst.grown.new_action hst.after hv
  | _ => cases hxv

theorem sorted_steps {x : ActionEntry} (hx : x ∈ actions) :
    ((writes es).filterMap (Write.step? x.1.1)).mergeSort (fun a b => a.position ≤ b.position) =
      x.2 := by
  have hsteps := h.stepWrites (h.nodup_actions hst) x hx
  have hnodup := hst.grown.nodup_positions hst.before hst.after (h.fresh_action hst hx)
  rw [hsteps] at hnodup ⊢
  exact (h.steps x hx).sorted hnodup

include hg

/-- The tables have the names of the models that are known. -/
theorem modelName_eq {name id : String}
    (hid : (saved.models.foldl Known.addModel (.ofStored existing)).models.lookup name = some id) :
    s'.modelName id = name := by
  obtain ⟨m, hm, rfl, rfl⟩ := Known.exists_model_of_lookup hid
  rcases List.mem_append.mp hm with hm | hm
  · exact Store.modelName_of_lists hst.after hst.models (m := m.extended (writes es))
      (List.mem_append_left _ (List.mem_map_of_mem (hg.models.mem_iff.mpr hm)))
  · exact Store.modelName_of_lists hst.after hst.models
      (List.mem_append_right _ (h.modelWrites.mem_iff.mpr hm))

theorem actionName_eq {name id : String}
    (hid : (saved.actions.foldl Known.addAction (.ofStored existing)).actions.lookup name =
      some id) : s'.actionName id = name := by
  obtain ⟨a, ha, rfl, rfl⟩ := Known.exists_action_of_lookup hid
  rcases List.mem_append.mp ha with ha | ha
  · exact Store.actionName_of_lists hst.after hst.actions
      (List.mem_append_left _ (hg.actions.mem_iff.mpr ha))
  · rw [h.savedActions] at ha
    obtain ⟨x, hx, rfl⟩ := List.mem_map.mp ha
    refine Store.actionName_of_lists hst.after hst.actions (a := s'.shownAction (writes es) x.1)
      (List.mem_append_right _ (List.mem_map_of_mem ?_))
    exact h.actionWrites.mem_iff.mpr (List.mem_map_of_mem hx)

theorem shownAction_eq {x : ActionEntry} (hx : x ∈ actions) :
    s'.shownAction (writes es) x.1 = .ofAction x.1.1 x.1.2.1 x.1.2.2 x.2 := by
  obtain ⟨a, -, rfl, hid⟩ := forall₂_mem_right h.targets hx
  rw [Store.shownAction, h.sorted_steps hst hx, h.modelName_eq hst hg hid]

theorem shownSchedule_eq {x : ScheduleEntry} (hx : x ∈ schedules) :
    s'.shownSchedule (writes es) x.1 = (StoredSchedule.ofSchedule x.1.1 x.1.2 x.2).reread := by
  obtain ⟨c, -, rfl, hturns⟩ := forall₂_mem_right h.turns hx
  have hsorted : x.2.mergeSort (fun a b => a.step.order ≤ b.step.order) = x.2 := by
    have horders : x.1.2.turns.map (·.1.order) = x.2.map (·.step.order) :=
      forall₂_map_eq (hturns.imp fun t u htu => by rw [htu.1])
    have hp := List.pairwise_map.mpr x.1.2.turns_sorted
    rw [horders, List.pairwise_map] at hp
    exact List.mergeSort_of_pairwise (hp.imp fun hle => decide_eq_true hle)
  have hshown : x.2.map s'.shownTurn = x.2.map (·.reread) := by
    refine List.map_congr_left fun u hu => ?_
    obtain ⟨t, -, hstep, hmodel, haction⟩ := forall₂_mem_right hturns hu
    rw [Store.shownTurn, h.modelName_eq hst hg hmodel, h.actionName_eq hst hg haction, ← hstep]
    rfl
  rw [Store.shownSchedule, h.turnWrites (h.nodup_schedules hst) x hx, hsorted, hshown]
  rfl

theorem shownActions_eq : (actions.map (·.1)).map (s'.shownAction (writes es)) = saved.actions := by
  rw [h.savedActions, List.map_map]
  exact List.map_congr_left fun x hx => h.shownAction_eq hst hg hx

theorem shownSchedules_eq : (schedules.map (·.1)).map (s'.shownSchedule (writes es)) =
    saved.schedules.map (·.reread) := by
  rw [h.savedSchedules, List.map_map, List.map_map]
  exact List.map_congr_left fun x hx => h.shownSchedule_eq hst hg hx

theorem grown_reorders :
    (g.grown s' (writes es)).Reorders (existing.joined (writes es) saved) := by
  refine ⟨hg.agent, (hg.models.map _).append h.modelWrites, hg.actions.append ?_,
    hg.schedules.append ?_⟩
  · rw [← h.shownActions_eq hst hg]
    exact h.actionWrites.map _
  · rw [← h.shownSchedules_eq hst hg]
    exact h.scheduleWrites.map _

/-- If the first replies came in order, the entities are shown in order. -/
theorem grown_eq (hw : w.Orders) : g.grown s' (writes es) = g.joined (writes es) saved := by
  obtain ⟨hmodels, hactions, hschedules⟩ := h.ordered hw
  rw [StoredGraph.grown, hmodels, hactions, hschedules, h.shownActions_eq hst hg,
    h.shownSchedules_eq hst hg]
  rfl

end Program.Completed

end Readback
end AgentSpec
