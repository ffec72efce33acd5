import AgentSpec.Proofs.Graph.Shape
import AgentSpec.Proofs.Lists

/-!
Graphs in which every name resolves.

Like the conditions on shapes, this does not depend on the order of entities.  Both are kept when
entities are listed in another order, when steps get their code and when the steps of schedules are
sorted (`Graph.Refines.shaped`, `Graph.Refines.closed`).
-/
namespace AgentSpec

structure Graph.Closed (g : Graph) : Prop where
  root : ∀ n, g.rootModel = some n → ∃ m ∈ g.models, m.name = n
  references : ∀ m ∈ g.models, ∀ f ∈ m.fields, ∀ r, f.reference = some r →
    ∃ t ∈ g.models, t.name = r.model ∧ (r.field = idField ∨ r.field ∈ t.fieldNames)
  targets : ∀ a ∈ g.actions, ∃ m ∈ g.models, m.name = a.targetModel
  turns : ∀ c ∈ g.schedules, ∀ t ∈ c.steps, (∃ m ∈ g.models, m.name = t.modelName) ∧
    ∃ a ∈ g.actions, a.name = t.actionName ∧ a.targetModel = t.modelName

/-- The action with steps of the same names that are well-formed if the old ones are. -/
structure Action.Refines (a a' : Action) : Prop where
  eq : a' = { a with steps := a'.steps }
  names : a'.steps.map (·.name) = a.steps.map (·.name)
  wellFormed : (∀ s ∈ a.steps, s.WellFormed) → ∀ s ∈ a'.steps, s.WellFormed

/-- What a step of a schedule refers to, and its place. -/
def ScheduleStep.key (t : ScheduleStep) : String × String × UInt32 :=
  (t.modelName, t.actionName, t.order)

/-- The schedule with its steps in another order, their queries aside. -/
structure Schedule.Refines (c c' : Schedule) : Prop where
  eq : c' = { c with steps := c'.steps }
  keys : (c'.steps.map (·.key)).Perm (c.steps.map (·.key))

structure Graph.Refines (g g' : Graph) : Prop where
  root : g'.rootModel = g.rootModel
  models : g'.models.Perm g.models
  actions : ∃ l : List Action, l.Perm g.actions ∧ List.Forall₂ Action.Refines l g'.actions
  schedules : ∃ l : List Schedule, l.Perm g.schedules ∧ List.Forall₂ Schedule.Refines l g'.schedules

namespace Action.Refines

variable {a a' : Action}

theorem refl (a : Action) : a.Refines a := ⟨rfl, rfl, fun h => h⟩

theorem name (h : a.Refines a') : a.name = a'.name := by rw [h.eq]

theorem targetModel (h : a.Refines a') : a.targetModel = a'.targetModel := by rw [h.eq]

theorem shaped (h : a.Refines a') (ha : a.WellFormed) : a'.WellFormed := by
  refine ⟨?_, ?_, ?_, ?_, ?_, h.wellFormed ha.steps⟩
  · rw [h.eq]
    exact ha.name
  · rw [h.eq]
    exact ha.title
  · rw [h.eq]
    exact ha.targetModel
  · rw [h.eq]
    exact ha.emoji
  · rw [h.names]
    exact ha.stepNames

end Action.Refines

namespace Schedule.Refines

variable {c c' : Schedule}

theorem refl (c : Schedule) : c.Refines c := ⟨rfl, List.Perm.refl _⟩

theorem name (h : c.Refines c') : c.name = c'.name := by rw [h.eq]

/-- A step of the one schedule has the names of a step of the other. -/
theorem exists_step (h : c.Refines c') {t : ScheduleStep} (ht : t ∈ c'.steps) :
    ∃ u ∈ c.steps, u.modelName = t.modelName ∧ u.actionName = t.actionName := by
  obtain ⟨u, hu, hkey⟩ := List.mem_map.mp (h.keys.mem_iff.mp (List.mem_map_of_mem ht))
  exact ⟨u, hu, congrArg Prod.fst hkey, congrArg (·.2.1) hkey⟩

theorem shaped (h : c.Refines c') (hc : c.WellFormed) : c'.WellFormed := by
  refine ⟨?_, ?_, ?_, ?_, fun t ht => ?_⟩
  · rw [h.eq]
    exact hc.name
  · rw [h.eq]
    exact hc.interval
  · intro hnil
    have hlen := h.keys.length_eq
    rw [hnil, List.length_map, List.length_map] at hlen
    exact hc.nonempty (List.length_eq_zero_iff.mp hlen.symm)
  · have horders (c : Schedule) : c.steps.map (·.order) = (c.steps.map (·.key)).map (·.2.2) := by
      rw [List.map_map]
      rfl
    have hold := hc.orders
    rw [horders] at hold ⊢
    exact (h.keys.map _).nodup_iff.mpr hold
  · obtain ⟨u, hu, hmodel, haction⟩ := h.exists_step ht
    have hnamed := hc.steps u hu
    exact ⟨hmodel ▸ hnamed.model, haction ▸ hnamed.action⟩

end Schedule.Refines

namespace Graph.Refines

variable {g g' : Graph}

theorem mem_action (h : g.Refines g') {a' : Action} (ha : a' ∈ g'.actions) :
    ∃ a ∈ g.actions, a.Refines a' := by
  obtain ⟨l, hl, hr⟩ := h.actions
  obtain ⟨a, hmem, ha⟩ := forall₂_mem_right hr ha
  exact ⟨a, hl.mem_iff.mp hmem, ha⟩

theorem exists_action (h : g.Refines g') {a : Action} (ha : a ∈ g.actions) :
    ∃ a' ∈ g'.actions, a.Refines a' := by
  obtain ⟨l, hl, hr⟩ := h.actions
  exact forall₂_mem_left hr (hl.mem_iff.mpr ha)

theorem mem_schedule (h : g.Refines g') {c' : Schedule} (hc : c' ∈ g'.schedules) :
    ∃ c ∈ g.schedules, c.Refines c' := by
  obtain ⟨l, hl, hr⟩ := h.schedules
  obtain ⟨c, hmem, hc⟩ := forall₂_mem_right hr hc
  exact ⟨c, hl.mem_iff.mp hmem, hc⟩

theorem shaped (h : g.Refines g') (hg : g.Shaped) : g'.Shaped := by
  refine ⟨?_, ?_, ?_, ?_, ?_, ?_, ?_⟩
  · exact (h.models.map _).nodup_iff.mpr hg.modelNames
  · obtain ⟨l, hl, hr⟩ := h.actions
    rw [← forall₂_map_eq (hr.imp fun a a' ha => ha.name)]
    exact (hl.map _).nodup_iff.mpr hg.actionNames
  · obtain ⟨l, hl, hr⟩ := h.schedules
    rw [← forall₂_map_eq (hr.imp fun c c' hc => hc.name)]
    exact (hl.map _).nodup_iff.mpr hg.scheduleNames
  · rw [h.root]
    exact hg.root
  · exact fun m hm => hg.models m (h.models.mem_iff.mp hm)
  · intro a' ha'
    obtain ⟨a, ha, hr⟩ := h.mem_action ha'
    exact hr.shaped (hg.actions a ha)
  · intro c' hc'
    obtain ⟨c, hc, hr⟩ := h.mem_schedule hc'
    exact hr.shaped (hg.schedules c hc)

theorem exists_model (h : g.Refines g') {p : Model → Prop} (hm : ∃ m ∈ g.models, p m) :
    ∃ m ∈ g'.models, p m := by
  obtain ⟨m, hm, hp⟩ := hm
  exact ⟨m, h.models.mem_iff.mpr hm, hp⟩

theorem closed (h : g.Refines g') (hg : g.Closed) : g'.Closed := by
  refine ⟨fun n hn => ?_, fun m hm f hf r hr => ?_, fun a' ha' => ?_, fun c' hc' t ht => ?_⟩
  · exact h.exists_model (hg.root n (h.root ▸ hn))
  · exact h.exists_model (hg.references m (h.models.mem_iff.mp hm) f hf r hr)
  · obtain ⟨a, ha, hr⟩ := h.mem_action ha'
    rw [← hr.targetModel]
    exact h.exists_model (hg.targets a ha)
  · obtain ⟨c, hc, hr⟩ := h.mem_schedule hc'
    obtain ⟨u, hu, hmodel, haction⟩ := hr.exists_step ht
    obtain ⟨hm, a, ha, hname, htarget⟩ := hg.turns c hc u hu
    obtain ⟨a', ha', hra⟩ := h.exists_action ha
    refine ⟨?_, a', ha', ?_, ?_⟩
    · rw [← hmodel]
      exact h.exists_model hm
    · rw [← haction, ← hra.name, hname]
    · rw [← hmodel, ← hra.targetModel, htarget]

end Graph.Refines
end AgentSpec
