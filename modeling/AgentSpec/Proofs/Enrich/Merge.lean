import AgentSpec.Proofs.Enrich.Draft
import AgentSpec.Proofs.Enrich.Scope
import AgentSpec.Proofs.Graph.Closed

/-!
A stored graph with a completed one put to it.

Only the new graph is checked, against the stored one; the whole is never looked at again.  It is
well-formed all the same, and all its names resolve within it (`Graph.merged_shaped`,
`Graph.merged_closed`).
-/
namespace AgentSpec

namespace Scope

/-- The names in reach of a graph that stands alone. -/
def alone (g : Graph) : Scope := ⟨{}, g, []⟩

variable {g : Graph} {name : String}

theorem reaches_alone : (alone g).Reaches name ↔ ∃ m ∈ g.models, m.name = name := by
  constructor
  · rintro (⟨m, hm, -⟩ | h)
    · cases hm
    · exact h
  · exact Or.inr

theorem fieldNames_alone (hg : g.Shaped) {m : Model} (hm : m ∈ g.models) {field : String} :
    field ∈ (alone g).fieldNames m.name ↔ field ∈ m.fieldNames := by
  have hfind : (alone g).model? m.name = some m := by
    have h : g.model? m.name = some m := find?_of_mem hg.modelNames hm
    rw [model?, alone, h]
    rfl
  rw [fieldNames, hfind, Text.mem_sortedOnce, Option.map_some, Option.getD_some]
  exact (List.append_nil _ ▸ Iff.rfl)

theorem target?_alone (hg : g.Shaped) {a : Action} (ha : a ∈ g.actions) :
    (alone g).target? a.name = some a.targetModel := by
  have hnodup : (g.actions.reverse.map (·.name)).Nodup := by
    rw [List.map_reverse, List.nodup_reverse]
    exact hg.actionNames
  have hfind := find?_of_mem hnodup (List.mem_reverse.mpr ha)
  rw [target?]
  show ((g.actions.reverse.find? (·.name == a.name)).map (·.targetModel)) = _
  rw [hfind]
  rfl

/-- A well-formed graph that stands alone has no issues exactly if it is closed. -/
theorem issues_alone (hg : g.Shaped) : (alone g).issues = [] ↔ g.Closed := by
  rw [issues_eq_nil]
  constructor
  · intro h
    refine ⟨fun n hn => reaches_alone.mp (h.root n hn), fun m hm f hf r hr => ?_,
      fun a ha => reaches_alone.mp (h.targets a ha), fun c hc t ht => ?_⟩
    · obtain ⟨hreach, hfield⟩ := h.references m hm f hf r hr
      obtain ⟨t, ht, hname⟩ := reaches_alone.mp hreach
      refine ⟨t, ht, hname, hfield.imp_right fun hfield => ?_⟩
      rw [← hname] at hfield
      exact (fieldNames_alone hg ht).mp hfield
    · obtain ⟨hreach, htarget⟩ := h.turns c hc t ht
      obtain ⟨a, ha, hname, heq⟩ := exists_of_target htarget
      exact ⟨reaches_alone.mp hreach, a, ha, hname, heq⟩
  · intro h
    refine ⟨fun _ _ _ => List.not_mem_nil.elim, fun _ _ _ => List.not_mem_nil.elim,
      fun _ _ _ => List.not_mem_nil.elim, fun n hn => reaches_alone.mpr (h.root n hn),
      fun m hm f hf r hr => ?_, fun m hm => (hg.models m hm).displayFields,
      fun a ha => reaches_alone.mpr (h.targets a ha), fun c hc t ht => ?_⟩
    · obtain ⟨t, ht, hname, hfield⟩ := h.references m hm f hf r hr
      refine ⟨reaches_alone.mpr ⟨t, ht, hname⟩, hfield.imp_right fun hfield => ?_⟩
      rw [← hname]
      exact (fieldNames_alone hg ht).mpr hfield
    · obtain ⟨hmodel, a, ha, hname, htarget⟩ := h.turns c hc t ht
      refine ⟨reaches_alone.mpr hmodel, ?_⟩
      rw [← hname, ← htarget]
      exact target?_alone hg ha

end Scope

/-! ## Merged graphs -/

/-- The model with the fields that are kept for it. -/
def Model.grow (additions : Additions) (m : Model) : Model :=
  { m with fields := m.fields ++ additions.fieldsOf m.name }

/-- The graph with a completed one put to it. -/
def Graph.merged (g : Graph) (e : Enriched) (root : Option String) : Graph where
  rootModel := root
  models := g.models.map (·.grow e.additions) ++ e.graph.models
  actions := g.actions ++ e.graph.actions
  schedules := g.schedules ++ e.graph.schedules

namespace Graph

variable {existing g : Graph} {e : Enriched} {root : Option String}

/-- Distinct names on both sides, none on both. -/
theorem nodup_append_names {as bs : List α} {name : α → String} (ha : (as.map name).Nodup)
    (hb : (bs.map name).Nodup) (hnew : ∀ b ∈ bs, ∀ a ∈ as, name a ≠ name b) :
    ((as ++ bs).map name).Nodup := by
  rw [List.map_append, List.nodup_append]
  refine ⟨ha, hb, fun x hx y hy heq => ?_⟩
  obtain ⟨a, ha', rfl⟩ := List.mem_map.mp hx
  obtain ⟨b, hb', rfl⟩ := List.mem_map.mp hy
  exact hnew b hb' a ha' heq

/-- The fields kept for a stored model can be appended to it. -/
theorem fit_of_sound (hnames : (existing.models.map (·.name)).Nodup)
    (hd : Draft.Sound existing g ⟨e.graph, e.additions⟩) {m : Model} (hm : m ∈ existing.models) :
    Additions.Fit (e.additions.fieldsOf m.name) m :=
  hd.fieldsOf (find?_of_mem hnames hm)

theorem merged_shaped (hx : existing.Shaped) (hg : g.Shaped)
    (hd : Draft.Sound existing g ⟨e.graph, e.additions⟩)
    (hr : Scope.Resolves ⟨existing, e.graph, e.additions⟩)
    (hroot : ∀ n, root = some n → ¬Text.isBlank n) : (existing.merged e root).Shaped := by
  have hactions : e.graph.actions = g.actions := hd.actions
  have hschedules : e.graph.schedules = g.schedules := hd.schedules
  refine ⟨?_, ?_, ?_, hroot, ?_, ?_, ?_⟩
  · refine nodup_append_names ?_ hd.modelNames fun m hm old hold => ?_
    · rw [List.map_map]
      exact hx.modelNames
    · obtain ⟨m', hm', rfl⟩ := List.mem_map.mp hold
      exact hr.newModels m hm m' hm'
  · refine nodup_append_names hx.actionNames ?_ hr.newActions
    rw [hactions]
    exact hg.actionNames
  · refine nodup_append_names hx.scheduleNames ?_ hr.newSchedules
    rw [hschedules]
    exact hg.scheduleNames
  · refine List.forall_mem_append.mpr ⟨fun m hm => ?_, hd.models⟩
    obtain ⟨old, hold, rfl⟩ := List.mem_map.mp hm
    have hfit := fit_of_sound hx.modelNames hd hold
    exact (hx.models old hold).append hfit.wellFormed hfit.names hfit.fresh
  · refine List.forall_mem_append.mpr ⟨hx.actions, ?_⟩
    rw [hactions]
    exact hg.actions
  · refine List.forall_mem_append.mpr ⟨hx.schedules, ?_⟩
    rw [hschedules]
    exact hg.schedules

/-- A model that is found in the scope is found in the merged graph, with the fields kept for it. -/
theorem exists_merged_model {name : String}
    (h : Scope.Reaches ⟨existing, e.graph, e.additions⟩ name) :
    ∃ m ∈ (existing.merged e root).models, m.name = name := by
  rcases h with ⟨m, hm, hname⟩ | ⟨m, hm, hname⟩
  · exact ⟨m.grow e.additions, List.mem_append_left _ (List.mem_map_of_mem hm), hname⟩
  · exact ⟨m, List.mem_append_right _ hm, hname⟩

theorem exists_merged_field (hx : existing.Shaped)
    (hd : Draft.Sound existing g ⟨e.graph, e.additions⟩)
    (hr : Scope.Resolves ⟨existing, e.graph, e.additions⟩) {name field : String}
    (h : Scope.Reaches ⟨existing, e.graph, e.additions⟩ name)
    (hf : field ∈ Scope.fieldNames ⟨existing, e.graph, e.additions⟩ name) :
    ∃ m ∈ (existing.merged e root).models, m.name = name ∧ field ∈ m.fieldNames := by
  rw [Scope.fieldNames, Text.mem_sortedOnce, List.mem_append] at hf
  rcases h with ⟨m, hm, rfl⟩ | ⟨m, hm, rfl⟩
  · refine ⟨m.grow e.additions, List.mem_append_left _ (List.mem_map_of_mem hm), rfl, ?_⟩
    have hfind : Scope.model? ⟨existing, e.graph, e.additions⟩ m.name = some m := by
      have hnew : e.graph.model? m.name = none := by
        refine List.find?_eq_none.mpr fun m' hm' hname => ?_
        exact hr.newModels m' hm' m hm (beq_iff_eq.mp hname).symm
      have hold : existing.model? m.name = some m := find?_of_mem hx.modelNames hm
      rw [Scope.model?, hnew, hold]
      rfl
    rw [hfind] at hf
    rw [Model.fieldNames, Model.grow, List.map_append, List.mem_append]
    exact hf
  · refine ⟨m, List.mem_append_right _ hm, rfl, ?_⟩
    have hfind : Scope.model? ⟨existing, e.graph, e.additions⟩ m.name = some m := by
      have hnew : e.graph.model? m.name = some m := find?_of_mem hd.modelNames hm
      rw [Scope.model?, hnew]
      rfl
    rw [hfind] at hf
    rcases hf with hf | hf
    · exact hf
    -- nothing is kept for a name that is not stored
    · unfold Additions.fieldsOf at hf
      cases hl : e.additions.lookup m.name with
      | none =>
        rw [hl] at hf
        cases hf
      | some fields =>
        obtain ⟨old, hold, -⟩ := hd.additions _ (Dictionary.mem_of_lookup hl)
        have hname : old.name = m.name := by simpa using List.find?_some hold
        exact absurd hname (hr.newModels m hm old (List.mem_of_find?_eq_some hold))

theorem merged_closed (hx : existing.Shaped) (hc : existing.Closed)
    (hd : Draft.Sound existing g ⟨e.graph, e.additions⟩)
    (hr : Scope.Resolves ⟨existing, e.graph, e.additions⟩)
    (hroot : ∀ n, root = some n → Scope.Reaches ⟨existing, e.graph, e.additions⟩ n) :
    (existing.merged e root).Closed := by
  have hgrown {m : Model} (hm : m ∈ existing.models) :
      m.grow e.additions ∈ (existing.merged e root).models :=
    List.mem_append_left _ (List.mem_map_of_mem hm)
  refine ⟨fun n hn => exists_merged_model (hroot n hn), ?_, ?_, ?_⟩
  · refine List.forall_mem_append.mpr ⟨fun m hm f hf r href => ?_, fun m hm f hf r href => ?_⟩
    · obtain ⟨old, hold, rfl⟩ := List.mem_map.mp hm
      rcases List.mem_append.mp hf with hf | hf
      · obtain ⟨t, ht, hname, hfield⟩ := hc.references old hold f hf r href
        refine ⟨t.grow e.additions, hgrown ht, hname, hfield.imp_right fun h => ?_⟩
        rw [Model.fieldNames, Model.grow, List.map_append]
        exact List.mem_append_left _ h
      · rw [(fit_of_sound hx.modelNames hd hold).noReference f hf] at href
        cases href
    · obtain ⟨hreach, hfield | hfield⟩ := hr.references m hm f hf r href
      · obtain ⟨t, ht, hname⟩ := exists_merged_model hreach
        exact ⟨t, ht, hname, Or.inl hfield⟩
      · obtain ⟨t, ht, hname, hfield⟩ := exists_merged_field hx hd hr hreach hfield
        exact ⟨t, ht, hname, Or.inr hfield⟩
  · refine List.forall_mem_append.mpr ⟨fun a ha => ?_, fun a ha => ?_⟩
    · obtain ⟨m, hm, hname⟩ := hc.targets a ha
      exact ⟨m.grow e.additions, hgrown hm, hname⟩
    · exact exists_merged_model (hr.targets a ha)
  · refine List.forall_mem_append.mpr ⟨fun c hcm t ht => ?_, fun c hcm t ht => ?_⟩
    · obtain ⟨⟨m, hm, hname⟩, a, ha, haction⟩ := hc.turns c hcm t ht
      exact ⟨⟨m.grow e.additions, hgrown hm, hname⟩, a, List.mem_append_left _ ha, haction⟩
    · obtain ⟨hreach, htarget⟩ := hr.turns c hcm t ht
      obtain ⟨a, ha, haction⟩ := Scope.exists_of_target htarget
      exact ⟨exists_merged_model hreach, a, ha, haction⟩

end Graph
end AgentSpec
