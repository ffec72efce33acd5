import AgentSpec.Compile.Basic
import AgentSpec.Proofs.Enrich.Merge
import AgentSpec.Proofs.Persist.Readback

/-!
Sound stored graphs.

The graph of an agent is sound if its entities are well-formed, all its names resolve within it and
every identifier is that of the entity of this name.  Storing a completed graph for a sound agent
makes a sound agent (`Completed.sound`).
-/
namespace AgentSpec

namespace StoredGraph

/-- Identifiers of models and actions are those of the entities of these names. -/
structure Linked (h : StoredGraph) : Prop where
  targets : ∀ a ∈ h.actions, ∃ m ∈ h.models, m.id = a.modelId ∧ m.model.name = a.targetModel
  turns : ∀ c ∈ h.schedules, ∀ t ∈ c.steps,
    (∃ m ∈ h.models, m.id = t.modelId ∧ m.model.name = t.step.modelName) ∧
      ∃ a ∈ h.actions, a.id = t.actionId ∧ a.name = t.step.actionName

structure Sound (h : StoredGraph) : Prop where
  shaped : h.toGraph.Shaped
  closed : h.toGraph.Closed
  linked : h.Linked
  providers : (h.agent.connections.map (·.provider)).Nodup

variable {g h : StoredGraph}

theorem Reorders.refines (hr : g.Reorders h) : h.toGraph.Refines g.toGraph where
  root := by rw [toGraph, toGraph, hr.agent]
  models := hr.models.map _
  actions := ⟨_, hr.actions.map _, List.forall₂_same.mpr fun a _ => .refl a⟩
  schedules := ⟨_, hr.schedules.map _, List.forall₂_same.mpr fun c _ => .refl c⟩

/-- The order of entities does not matter. -/
theorem Sound.reorder (hs : h.Sound) (hr : g.Reorders h) : g.Sound := by
  have hm {p : StoredModel → Prop} (hp : ∃ m ∈ h.models, p m) : ∃ m ∈ g.models, p m := by
    obtain ⟨m, hm, hp⟩ := hp
    exact ⟨m, hr.models.mem_iff.mpr hm, hp⟩
  refine ⟨hr.refines.shaped hs.shaped, hr.refines.closed hs.closed,
    ⟨fun a ha => ?_, fun c hc t ht => ?_⟩, ?_⟩
  · exact hm (hs.linked.targets a (hr.actions.mem_iff.mp ha))
  · obtain ⟨hmodel, a, ha, haction⟩ := hs.linked.turns c (hr.schedules.mem_iff.mp hc) t ht
    exact ⟨hm hmodel, a, hr.actions.mem_iff.mpr ha, haction⟩
  · rw [hr.agent]
    exact hs.providers

end StoredGraph

/-- The graph under another root model. -/
def Graph.rooted (root : Option String) (g : Graph) : Graph := { g with rootModel := root }

/-! ## Stored entities refine those of the graph -/

theorem Step.prepared_name {coding : Bool} {a : Action} (s : Step)
    (answer : Except AssistantError GeneratedCode) : (s.prepared coding a answer).1.name = s.name := by
  unfold prepared
  split
  · rfl
  · split
    · rfl
    · cases answer with
      | ok g => by_cases hb : Text.isBlank g.code <;> simp [hb]
      | error e => rfl

/-- Code needs no instruction. -/
theorem Step.WellFormed.prepared {coding : Bool} {a : Action} {s : Step} (h : s.WellFormed)
    (answer : Except AssistantError GeneratedCode) : (s.prepared coding a answer).1.WellFormed := by
  have hcode (code : Option String) (dependencies envVars : List String) :
      ({ s with config := .customCode code dependencies envVars } : Step).WellFormed := by
    intro path
    have hname := h path
    unfold violations at hname ⊢
    rw [List.append_eq_nil_iff] at hname ⊢
    exact ⟨hname.1, rfl⟩
  unfold Step.prepared
  split
  · exact h
  · split
    · exact h
    · cases answer with
      | ok g =>
        by_cases hb : Text.isBlank g.code
        · simp only [if_pos hb]
          exact h
        · simp only [if_neg hb]
          exact hcode _ _ _
      | error e => exact h

theorem StepsStored.refines {coding : Bool} {a : Action} {es : List Event} {stored : List StoredStep}
    (h : StepsStored coding a es 0 a.steps stored) (id modelId : String) :
    a.Refines (StoredAction.ofAction id modelId a stored).toAction := by
  refine ⟨rfl, ?_, fun hwf s hs => ?_⟩
  · show (stored.map (·.step)).map (·.name) = a.steps.map (·.name)
    rw [List.map_map]
    refine (forall₂_map_eq (h.prepared.imp fun s t hst => ?_)).symm
    obtain ⟨answer, -, ht⟩ := hst
    rw [Function.comp_apply, ht, Step.prepared_name]
  · obtain ⟨t, ht, rfl⟩ := List.mem_map.mp hs
    obtain ⟨s, hs, answer, -, hstep⟩ := forall₂_mem_right h.prepared ht
    rw [hstep]
    exact (hwf s hs).prepared answer

theorem Schedule.refines_of_turns {c : Schedule} {turns : List StoredTurn} (id : String)
    (h : turns.map (·.step) = c.turns.map (·.1)) :
    c.Refines (StoredSchedule.ofSchedule id c turns).reread.toSchedule := by
  refine ⟨rfl, ?_⟩
  have hkeys : ((turns.map (·.reread)).map (·.step)).map (·.key) =
      (c.turns.map (·.1)).map (·.key) := by
    rw [← h, List.map_map, List.map_map, List.map_map]
    rfl
  show (((turns.map (·.reread)).map (·.step)).map (·.key)).Perm (c.steps.map (·.key))
  rw [hkeys]
  have hperm : (c.turns.map (·.1)).Perm c.steps := by
    have hsorted := (List.mergeSort_perm c.steps.zipIdx fun a b => a.1.order ≤ b.1.order).map (·.1)
    rwa [List.zipIdx_map_fst] at hsorted
  exact hperm.map _

/-! ## Fields of stored models -/

theorem Dictionary.filterMap_eq_lookup {d : Dictionary α} (h : (d.map (·.1)).Nodup) (name : String) :
    (d.filterMap fun e => if e.1 = name then some e.2 else none) = (d.lookup name).toList := by
  induction d with
  | nil => rfl
  | cons e rest ih =>
    obtain ⟨head, a⟩ := e
    obtain ⟨hhead, hrest⟩ := List.nodup_cons.mp h
    rw [lookup_cons]
    by_cases heq : head = name
    · have hnone : List.lookup name rest = none := by
        cases hl : List.lookup name rest with
        | none => rfl
        | some b => exact absurd (List.mem_map_of_mem (mem_of_lookup hl)) (heq ▸ hhead)
      rw [List.filterMap_cons, if_pos heq, ih hrest, hnone, if_pos heq.symm]
      rfl
    · rw [List.filterMap_cons, if_neg heq, ih hrest, if_neg (Ne.symm heq)]

theorem Store.appendNew_of_fresh {old fields : List Field} (hnodup : (fields.map (·.name)).Nodup)
    (hnew : ∀ f ∈ fields, f.name ∉ old.map (·.name)) : appendNew old fields = old ++ fields := by
  unfold appendNew
  induction fields generalizing old with
  | nil => exact (List.append_nil old).symm
  | cons f rest ih =>
    obtain ⟨hf, hrest⟩ := List.nodup_cons.mp hnodup
    have hno : ¬old.any (·.name == f.name) = true := by
      simpa using hnew f List.mem_cons_self
    rw [List.foldl_cons, if_neg hno, ih hrest, List.append_assoc]
    · rfl
    · intro g hg hmem
      rw [List.map_append, List.mem_append] at hmem
      rcases hmem with hmem | hmem
      · exact hnew g (List.mem_cons_of_mem _ hg) hmem
      · exact hf (List.mem_singleton.mp hmem ▸ List.mem_map_of_mem hg)

namespace Program.Completed

variable {w : Weave} {coding : Bool} {agentId : String} {e : Enriched}
  {existing g : StoredGraph} {es : List Event} {saved : Saved} {s s' : Store}
  {appends : List (String × List Field)} {actions : List ActionEntry}
  {schedules : List ScheduleEntry} {d : Graph} {root : Option String}

variable (h : Completed w coding e.graph e.additions (.ofStored existing) es saved appends actions
    schedules)
include h

theorem joined_linked (hl : existing.Linked) : (existing.joined (writes es) saved).Linked := by
  have hmodel {name id : String} (hm : ∃ m ∈ existing.models ++ saved.models,
      m.id = id ∧ m.model.name = name) :
      ∃ m ∈ (existing.joined (writes es) saved).models, m.id = id ∧ m.model.name = name := by
    obtain ⟨m, hm, hid⟩ := hm
    rcases List.mem_append.mp hm with hm | hm
    · exact ⟨m.extended (writes es), List.mem_append_left _ (List.mem_map_of_mem hm), hid⟩
    · exact ⟨m, List.mem_append_right _ hm, hid⟩
  have hold {p : StoredModel → Prop} (hm : ∃ m ∈ existing.models, p m) :
      ∃ m ∈ existing.models ++ saved.models, p m := by
    obtain ⟨m, hm, hp⟩ := hm
    exact ⟨m, List.mem_append_left _ hm, hp⟩
  refine ⟨List.forall_mem_append.mpr ⟨fun a ha => ?_, fun a ha => ?_⟩,
    List.forall_mem_append.mpr ⟨fun c hc t ht => ?_, fun c hc t ht => ?_⟩⟩
  · exact hmodel (hold (hl.targets a ha))
  · rw [h.savedActions] at ha
    obtain ⟨x, hx, rfl⟩ := List.mem_map.mp ha
    obtain ⟨a, -, rfl, hid⟩ := forall₂_mem_right h.targets hx
    exact hmodel (Known.exists_model_of_lookup hid)
  · obtain ⟨hm, a, ha, haction⟩ := hl.turns c hc t ht
    exact ⟨hmodel (hold hm), a, List.mem_append_left _ ha, haction⟩
  · obtain ⟨c, hsaved, rfl⟩ := List.mem_map.mp hc
    rw [h.savedSchedules] at hsaved
    obtain ⟨x, hx, rfl⟩ := List.mem_map.mp hsaved
    obtain ⟨c, -, -, hturns⟩ := forall₂_mem_right h.turns hx
    obtain ⟨u, hu, rfl⟩ := List.mem_map.mp ht
    obtain ⟨t, -, hstep, hid, hid'⟩ := forall₂_mem_right hturns hu
    rw [← hstep] at hid hid'
    exact ⟨hmodel (Known.exists_model_of_lookup hid), Known.exists_action_of_lookup hid'⟩

/-- What was appended to a stored model is what is kept for it. -/
theorem appendedTo_eq (hnames : (existing.models.map (·.model.name)).Nodup)
    (hd : Draft.Sound (existing.toGraph.rooted root) d ⟨e.graph, e.additions⟩)
    (hids : (existing.models.map (·.id)).Nodup) {m : StoredModel} (hm : m ∈ existing.models) :
    appendedTo m.id (writes es) = (e.additions.lookup m.model.name).toList := by
  have hpick : List.Forall₂ (fun add p => (if p.1 = m.id then some p.2 else none) =
      if add.1 = m.model.name then some add.2 else none) e.additions appends := by
    refine (Known.resolveAdditions_eq_ok.mp h.plan).imp fun add p hap => ?_
    obtain ⟨hid, hfields⟩ := hap
    obtain ⟨m', hm', hm'id, hm'name⟩ := Known.exists_stored_model hid
    have hiff : p.1 = m.id ↔ add.1 = m.model.name := by
      rw [← hm'id, ← hm'name]
      constructor
      · exact fun heq => congrArg (·.model.name) (List.inj_on_of_nodup_map hids hm' hm heq)
      · exact fun heq => congrArg (·.id) (List.inj_on_of_nodup_map hnames hm' hm heq)
    rw [hfields]
    exact if_congr hiff rfl rfl
  have hperm := h.fieldWrites m.id
  rw [forall₂_filterMap_eq hpick.flip, Dictionary.filterMap_eq_lookup hd.sorted.nodup] at hperm
  cases hl : e.additions.lookup m.model.name with
  | none =>
    rw [hl] at hperm
    exact List.perm_nil.mp hperm
  | some fields =>
    rw [hl] at hperm
    exact List.perm_singleton.mp hperm

/-- A stored model gets the fields that are kept for it. -/
theorem extended_eq (hnames : (existing.models.map (·.model.name)).Nodup)
    (hd : Draft.Sound (existing.toGraph.rooted root) d ⟨e.graph, e.additions⟩)
    (hids : (existing.models.map (·.id)).Nodup) {m : StoredModel} (hm : m ∈ existing.models) :
    m.extended (writes es) = ⟨m.id, m.model.grow e.additions⟩ := by
  have hmodels : ((existing.toGraph.rooted root).models.map (·.name)).Nodup := by
    show ((existing.models.map (·.model)).map (·.name)).Nodup
    rw [List.map_map]
    exact hnames
  have hfit := Graph.fit_of_sound hmodels hd (m := m.model) (List.mem_map_of_mem hm)
  rw [StoredModel.extended, h.appendedTo_eq hnames hd hids hm, Model.grow]
  unfold Additions.fieldsOf at hfit ⊢
  cases hl : e.additions.lookup m.model.name with
  | none =>
    rw [Option.getD_none, List.append_nil]
    rfl
  | some fields =>
    rw [hl, Option.getD_some] at hfit
    have happend := Store.appendNew_of_fresh hfit.names hfit.fresh
    rw [Option.toList_some, List.foldl_cons, List.foldl_nil, happend]
    rfl

theorem joined_refines (hx : (existing.toGraph.rooted root).Shaped)
    (hd : Draft.Sound (existing.toGraph.rooted root) d ⟨e.graph, e.additions⟩)
    (hids : (existing.models.map (·.id)).Nodup) (record : AgentRecord) :
    ((existing.toGraph.rooted root).merged e record.rootModel).Refines
      ({ existing.joined (writes es) saved with agent := record } : StoredGraph).toGraph := by
  have hnames : (existing.models.map (·.model.name)).Nodup := by
    have hnodup : ((existing.models.map (·.model)).map (·.name)).Nodup := hx.modelNames
    rw [List.map_map] at hnodup
    exact hnodup
  refine ⟨rfl, ?_, ⟨_, List.Perm.refl _, ?_⟩, ⟨_, List.Perm.refl _, ?_⟩⟩
  · refine List.Perm.of_eq ?_
    show (existing.models.map (·.extended (writes es)) ++ saved.models).map (·.model) =
      (existing.models.map (·.model)).map (·.grow e.additions) ++ e.graph.models
    rw [List.map_append, h.savedModels, List.map_map, List.map_map]
    congr 1
    exact List.map_congr_left fun m hm => congrArg (·.model) (h.extended_eq hnames hd hids hm)
  · show List.Forall₂ Action.Refines (existing.actions.map (·.toAction) ++ e.graph.actions)
      ((existing.actions ++ saved.actions).map (·.toAction))
    rw [List.map_append, h.savedActions, List.map_map]
    refine List.rel_append (List.forall₂_same.mpr fun a _ => .refl a) ?_
    rw [List.forall₂_map_right_iff]
    refine forall₂_imp_mem h.targets fun a x _ hx hax => ?_
    rw [← hax.1]
    exact (h.steps x hx).refines _ _
  · show List.Forall₂ Schedule.Refines (existing.schedules.map (·.toSchedule) ++ e.graph.schedules)
      ((existing.schedules ++ saved.schedules.map (·.reread)).map (·.toSchedule))
    rw [List.map_append, h.savedSchedules, List.map_map, List.map_map]
    refine List.rel_append (List.forall₂_same.mpr fun c _ => .refl c) ?_
    rw [List.forall₂_map_right_iff]
    refine h.turns.imp fun c x hcx => ?_
    obtain ⟨rfl, hturns⟩ := hcx
    exact Schedule.refines_of_turns _ (forall₂_map_eq (hturns.imp fun t u htu => htu.1.symm)).symm

/-- A sound agent to which a completed graph was put is sound, under every record whose root model is
in reach. -/
theorem joined_sound (hx : (existing.toGraph.rooted root).Shaped)
    (hc : (existing.toGraph.rooted root).Closed) (hl : existing.Linked)
    (hg : d.Shaped) {permitted : Option (List String)}
    (he : d.enrich (existing.toGraph.rooted root) permitted = .ok e)
    (hids : (existing.models.map (·.id)).Nodup) {record : AgentRecord}
    (hblank : ∀ n, record.rootModel = some n → ¬Text.isBlank n)
    (hroot : ∀ n, record.rootModel = some n →
      Scope.Reaches ⟨existing.toGraph.rooted root, e.graph, e.additions⟩ n)
    (hproviders : (record.connections.map (·.provider)).Nodup) :
    ({ existing.joined (writes es) saved with agent := record } : StoredGraph).Sound := by
  have hd := Graph.sound_of_enrich he hg.models hg.modelNames
  have hr := Scope.issues_eq_nil.mp (Graph.resolves_of_enrich he).1
  have href := h.joined_refines hx hd hids record
  have hlinked := h.joined_linked hl
  exact ⟨href.shaped (Graph.merged_shaped hx hg hd hr hblank),
    href.closed (Graph.merged_closed hx hc hd hr hroot), ⟨hlinked.targets, hlinked.turns⟩, hproviders⟩

end Program.Completed
end AgentSpec
