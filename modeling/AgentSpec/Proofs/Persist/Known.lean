import AgentSpec.Proofs.Names
import AgentSpec.Proofs.Results

/-!
Identifiers by name.

A stage begins when all its names have identifiers.  The plan of a stage is then its entities, each
with what was found under the names that it uses.
-/
namespace AgentSpec

namespace Known

variable {known : Known}

theorem model_eq_ok {path name id : String} :
    known.model path name = .ok id ↔ known.models.lookup name = some id := by
  unfold model
  cases known.models.lookup name <;> simp

theorem action_eq_ok {path name id : String} :
    known.action path name = .ok id ↔ known.actions.lookup name = some id := by
  unfold action
  cases known.actions.lookup name <;> simp

/-! ## Plans -/

/-- What is made of the identifier of a model, or the one issue. -/
theorem withModel_eq_ok {path name : String} {f : String → β} {b : β} :
    ((match known.model path name with
      | .ok id => .ok (f id)
      | .error i => .error [i] : Except (List Issue) β) = .ok b) ↔
      ∃ id, known.models.lookup name = some id ∧ f id = b := by
  cases hm : known.model path name with
  | ok id =>
    rw [model_eq_ok.mp hm]
    simp
  | error i =>
    constructor
    · intro h
      cases h
    · rintro ⟨id, hid, -⟩
      rw [model_eq_ok.mpr hid] at hm
      cases hm

theorem resolveAdditions_eq_ok {additions : Additions} {appends : List (String × List Field)} :
    known.resolveAdditions additions = .ok appends ↔
      List.Forall₂ (fun add p => known.models.lookup add.1 = some p.1 ∧ p.2 = add.2)
        additions appends := by
  unfold resolveAdditions
  rw [gather_map_eq_ok]
  refine forall₂_iff_of_iff fun add p => withModel_eq_ok.trans ?_
  constructor
  · rintro ⟨id, hid, rfl⟩
    exact ⟨hid, rfl⟩
  · rintro ⟨hid, hfields⟩
    exact ⟨p.1, hid, Prod.ext rfl hfields.symm⟩

theorem resolveActions_eq_ok {actions : List Action} {targets : List (Action × String)} :
    known.resolveActions actions = .ok targets ↔
      List.Forall₂ (fun a t => t.1 = a ∧ known.models.lookup a.targetModel = some t.2)
        actions targets := by
  unfold resolveActions
  rw [gather_map_eq_ok]
  refine forall₂_iff_of_iff fun a t => withModel_eq_ok.trans ?_
  constructor
  · rintro ⟨id, hid, rfl⟩
    exact ⟨rfl, hid⟩
  · rintro ⟨ha, hid⟩
    exact ⟨t.2, hid, Prod.ext ha.symm rfl⟩

theorem resolveTurn_eq_ok {path : String} {t : ScheduleStep}
    {r : ScheduleStep × String × String} :
    known.resolveTurn path t = .ok r ↔
      r.1 = t ∧ known.models.lookup t.modelName = some r.2.1 ∧
        known.actions.lookup t.actionName = some r.2.2 := by
  obtain ⟨t', modelId, actionId⟩ := r
  rw [← @model_eq_ok _ path, ← @action_eq_ok _ path]
  unfold resolveTurn
  cases known.model path t.modelName <;> cases known.action path t.actionName <;>
    simp [Prod.ext_iff, eq_comm]

theorem resolveTurns_eq_ok {c : Schedule} {rs : List (ScheduleStep × String × String)} :
    gather (c.turns.map fun (t, i) =>
      known.resolveTurn s!"schedule '{c.name}'.steps[{i}]" t) = .ok rs ↔
      List.Forall₂ (fun t r => r.1 = t.1 ∧ known.models.lookup t.1.modelName = some r.2.1 ∧
        known.actions.lookup t.1.actionName = some r.2.2) c.turns rs :=
  gather_map_eq_ok.trans (forall₂_iff_of_iff fun _ _ => resolveTurn_eq_ok)

theorem resolveSchedules_eq_ok {schedules : List Schedule}
    {plans : List (Schedule × List (ScheduleStep × String × String))} :
    known.resolveSchedules schedules = .ok plans ↔
      List.Forall₂ (fun c p => p.1 = c ∧
        List.Forall₂ (fun t r => r.1 = t.1 ∧ known.models.lookup t.1.modelName = some r.2.1 ∧
          known.actions.lookup t.1.actionName = some r.2.2) c.turns p.2) schedules plans := by
  unfold resolveSchedules
  rw [gather_map_eq_ok]
  refine forall₂_iff_of_iff fun c p => ?_
  rw [map_eq_ok]
  constructor
  · rintro ⟨rs, hrs, rfl⟩
    exact ⟨rfl, resolveTurns_eq_ok.mp hrs⟩
  · rintro ⟨hc, hp⟩
    exact ⟨p.2, resolveTurns_eq_ok.mpr hp, Prod.ext hc.symm rfl⟩

/-! ## Plans exist when all names are known -/

theorem exists_resolveAdditions {additions : Additions}
    (h : ∀ add ∈ additions, ∃ id, known.models.lookup add.1 = some id) :
    ∃ appends, known.resolveAdditions additions = .ok appends :=
  exists_gather_map fun add hadd => by
    obtain ⟨id, hid⟩ := h add hadd
    exact ⟨(id, add.2), withModel_eq_ok.mpr ⟨id, hid, rfl⟩⟩

theorem exists_resolveActions {actions : List Action}
    (h : ∀ a ∈ actions, ∃ id, known.models.lookup a.targetModel = some id) :
    ∃ targets, known.resolveActions actions = .ok targets :=
  exists_gather_map fun a ha => by
    obtain ⟨id, hid⟩ := h a ha
    exact ⟨(a, id), withModel_eq_ok.mpr ⟨id, hid, rfl⟩⟩

theorem exists_resolveSchedules {schedules : List Schedule}
    (h : ∀ c ∈ schedules, ∀ t ∈ c.steps, (∃ id, known.models.lookup t.modelName = some id) ∧
      ∃ id, known.actions.lookup t.actionName = some id) :
    ∃ plans, known.resolveSchedules schedules = .ok plans :=
  exists_gather_map fun c hc => by
    have hturns : ∀ t ∈ c.turns, ∃ r,
        known.resolveTurn s!"schedule '{c.name}'.steps[{t.2}]" t.1 = .ok r := by
      intro t ht
      have hmem : t.1 ∈ c.steps := List.fst_mem_of_mem_zipIdx (List.mem_mergeSort.mp ht)
      obtain ⟨⟨modelId, hm⟩, actionId, ha⟩ := h c hc t.1 hmem
      exact ⟨(t.1, modelId, actionId), resolveTurn_eq_ok.mpr ⟨rfl, hm, ha⟩⟩
    obtain ⟨rs, hrs⟩ := exists_gather_map hturns
    exact ⟨(c, rs), by rw [hrs]; rfl⟩

/-! ## What becomes known -/

theorem addModels_models (models : List StoredModel) (known : Known) :
    (models.foldl addModel known).models =
      (models.map fun m => (m.model.name, m.id)).foldl (fun d e => d.insert e.1 e.2)
        known.models := by
  induction models generalizing known with
  | nil => rfl
  | cons m rest ih => exact ih (known.addModel m)

theorem addModels_actions (models : List StoredModel) (known : Known) :
    (models.foldl addModel known).actions = known.actions := by
  induction models generalizing known with
  | nil => rfl
  | cons m rest ih => exact ih (known.addModel m)

theorem addActions_actions (actions : List StoredAction) (known : Known) :
    (actions.foldl addAction known).actions =
      (actions.map fun a => (a.name, a.id)).foldl (fun d e => d.insert e.1 e.2) known.actions := by
  induction actions generalizing known with
  | nil => rfl
  | cons a rest ih => exact ih (known.addAction a)

theorem addActions_models (actions : List StoredAction) (known : Known) :
    (actions.foldl addAction known).models = known.models := by
  induction actions generalizing known with
  | nil => rfl
  | cons a rest ih => exact ih (known.addAction a)

theorem exists_addModels_models {models : List StoredModel} {name : String}
    (h : name ∈ models.map (·.model.name) ∨ ∃ id, known.models.lookup name = some id) :
    ∃ id, (models.foldl addModel known).models.lookup name = some id := by
  rw [addModels_models]
  refine Dictionary.exists_lookup_foldl_insert (h.imp_left fun hname => ?_)
  rw [List.map_map]
  exact hname

theorem exists_addActions_actions {actions : List StoredAction} {name : String}
    (h : name ∈ actions.map (·.name) ∨ ∃ id, known.actions.lookup name = some id) :
    ∃ id, (actions.foldl addAction known).actions.lookup name = some id := by
  rw [addActions_actions]
  refine Dictionary.exists_lookup_foldl_insert (h.imp_left fun hname => ?_)
  rw [List.map_map]
  exact hname

/-- All models of a stored graph are known. -/
theorem exists_ofStored_models {g : StoredGraph} {name : String}
    (h : name ∈ g.models.map (·.model.name)) :
    ∃ id, (ofStored g).models.lookup name = some id := by
  refine Dictionary.exists_lookup_foldl_insert (Or.inl ?_)
  rw [List.map_map]
  exact h

/-- All actions of a stored graph are known. -/
theorem exists_ofStored_actions {g : StoredGraph} {name : String}
    (h : name ∈ g.actions.map (·.name)) :
    ∃ id, (ofStored g).actions.lookup name = some id := by
  refine Dictionary.exists_lookup_foldl_insert (Or.inl ?_)
  rw [List.map_map]
  exact h

end Known
end AgentSpec
