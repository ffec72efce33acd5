import AgentSpec.Proofs.Enrich.Draft
import AgentSpec.Proofs.Enrich.Scope
import AgentSpec.Proofs.Persist.Sound
import AgentSpec.Proofs.Persist.Unrefused

/-!
Completed graphs fit into the tables.

The tables and the check of a request both say what a valid agent is: one in keys and references of
rows, the other in names of entities.  A graph that was completed against what is listed of an agent
uses no name that a row of the agent has, and the check of its shape has found no name and no order
twice.

Main statement: `fits_of_enrich`.
-/
namespace AgentSpec

namespace Store.Lists

variable {s : Store} {agentId name : String} {g : StoredGraph}

theorem has_agent (hl : s.Lists agentId g) : s.hasAgent agentId := by
  obtain ⟨row, hrow, -⟩ := hl.agent
  have hid : row.id = agentId := by simpa using List.find?_some hrow
  exact hasAgent_iff.mpr (hid ▸ List.mem_map_of_mem (List.mem_of_find?_eq_some hrow))

theorem has_model (hl : s.Lists agentId g) {m : StoredModel} (hm : m ∈ g.models) :
    s.Has (.model m.id) := by
  obtain ⟨r, hr, hread⟩ := forall₂_mem_right hl.models hm
  have hid : r.id = m.id := (ModelRow.read_eq_ok.mp hread).1
  exact hasModel_iff.mpr (hid ▸ List.mem_map_of_mem (List.mem_of_mem_filter hr))

theorem has_action (hl : s.Lists agentId g) {a : StoredAction} (ha : a ∈ g.actions) :
    s.Has (.action a.id) := by
  obtain ⟨r, hr, hread⟩ := forall₂_mem_right hl.actions ha
  have hid : r.id = a.id := (readActionOf_eq_ok hread).1
  exact hasAction_iff.mpr (hid ▸ List.mem_map_of_mem (List.mem_of_mem_filter hr))

/-! ## Names that are taken -/

theorem model_of_key (hl : s.Lists agentId g) (hk : .named .models agentId name ∈ s.keys) :
    ∃ m ∈ g.models, m.model.name = name := by
  obtain ⟨r, hr, hagent, hname⟩ : ∃ r ∈ s.models, r.agentId = agentId ∧ r.name = name := by
    simpa [keys] using hk
  have hmem : r ∈ s.models.filter (·.agentId == agentId) :=
    List.mem_filter.mpr ⟨hr, beq_iff_eq.mpr hagent⟩
  obtain ⟨m, hm, hread⟩ := forall₂_mem_left hl.models hmem
  exact ⟨m, hm, (ModelRow.read_eq_ok.mp hread).2.1.symm.trans hname⟩

theorem action_of_key (hl : s.Lists agentId g) (hk : .named .actions agentId name ∈ s.keys) :
    ∃ a ∈ g.actions, a.name = name := by
  obtain ⟨r, hr, hagent, hname⟩ : ∃ r ∈ s.actions, r.agentId = agentId ∧ r.name = name := by
    simpa [keys] using hk
  have hmem : r ∈ s.actions.filter (·.agentId == agentId) :=
    List.mem_filter.mpr ⟨hr, beq_iff_eq.mpr hagent⟩
  obtain ⟨a, ha, hread⟩ := forall₂_mem_left hl.actions hmem
  exact ⟨a, ha, (readActionOf_eq_ok hread).2.1.symm.trans hname⟩

theorem schedule_of_key (hl : s.Lists agentId g) (hk : .named .schedules agentId name ∈ s.keys) :
    ∃ c ∈ g.schedules, c.name = name := by
  obtain ⟨r, hr, hagent, hname⟩ : ∃ r ∈ s.schedules, r.agentId = agentId ∧ r.name = name := by
    simpa [keys] using hk
  have hmem : r ∈ s.schedules.filter (·.agentId == agentId) :=
    List.mem_filter.mpr ⟨hr, beq_iff_eq.mpr hagent⟩
  obtain ⟨c, hc, hread⟩ := forall₂_mem_left hl.schedules hmem
  obtain ⟨turns, -, hread⟩ := bind_eq_ok.mp hread
  obtain ⟨hours, -, hread⟩ := bind_eq_ok.mp hread
  cases hread
  exact ⟨_, hc, hname⟩

end Store.Lists

namespace Program

variable {s : Store} {agentId : String} {g existing : StoredGraph} {root : Option String}
  {delta : Graph} {permitted : Option (List String)} {e : Enriched}

theorem knows_ofStored (hl : s.Lists agentId g) (hg : g.Reorders existing) :
    s.Knows (.ofStored existing) where
  models name id hid := by
    obtain ⟨m, hm, rfl, -⟩ := Known.exists_stored_model hid
    exact hl.has_model (hg.models.mem_iff.mpr hm)
  actions name id hid := by
    obtain ⟨a, ha, rfl, -⟩ : ∃ a ∈ existing.actions ++ [], a.id = id ∧ a.name = name :=
      Known.exists_action_of_lookup hid
    rw [List.append_nil] at ha
    exact hl.has_action (hg.actions.mem_iff.mpr ha)

/-- A graph of sound shape that was completed against what is listed of an agent fits. -/
theorem fits_of_enrich (hl : s.Lists agentId g) (hg : g.Reorders existing) (hshaped : delta.Shaped)
    (he : delta.enrich (existing.toGraph.rooted root) permitted = .ok e) :
    Fits s agentId e.graph (.ofStored existing) := by
  have hd := Graph.sound_of_enrich he hshaped.models hshaped.modelNames
  have hr := Scope.issues_eq_nil.mp (Graph.resolves_of_enrich he).1
  refine ⟨⟨hl.has_agent, hd.modelNames, ?_⟩, ⟨hl.has_agent, ?_, ?_⟩, ⟨hl.has_agent, ?_, ?_⟩, ?_,
    knows_ofStored hl hg⟩
  · intro name hname htaken
    obtain ⟨m, hm, rfl⟩ := List.mem_map.mp hname
    obtain ⟨old, hold, heq⟩ := hl.model_of_key htaken
    exact hr.newModels m hm old.model (List.mem_map_of_mem (hg.models.mem_iff.mp hold)) heq
  · show (e.graph.actions.map (·.name)).Nodup
    rw [hd.actions]
    exact hshaped.actionNames
  · intro name hname htaken
    obtain ⟨a, ha, rfl⟩ := List.mem_map.mp hname
    obtain ⟨old, hold, heq⟩ := hl.action_of_key htaken
    exact hr.newActions a ha old.toAction (List.mem_map_of_mem (hg.actions.mem_iff.mp hold)) heq
  · show (e.graph.schedules.map (·.name)).Nodup
    rw [hd.schedules]
    exact hshaped.scheduleNames
  · intro name hname htaken
    obtain ⟨c, hc, rfl⟩ := List.mem_map.mp hname
    obtain ⟨old, hold, heq⟩ := hl.schedule_of_key htaken
    exact hr.newSchedules c hc old.toSchedule (List.mem_map_of_mem (hg.schedules.mem_iff.mp hold))
      heq
  · intro p hp
    rw [hd.schedules] at hp
    exact (hshaped.schedules p hp).orders

end Program
end AgentSpec
