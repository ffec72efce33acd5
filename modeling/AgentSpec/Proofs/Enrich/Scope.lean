import AgentSpec.Enrich.Reference
import AgentSpec.Proofs.Graph.Shape
import AgentSpec.Proofs.Names

/-!
What it means that a look-up of all names finds no issue.
-/
namespace AgentSpec.Scope

variable {s : Scope} {name : String}

/-- A model of this name is stored or new. -/
def Reaches (s : Scope) (name : String) : Prop :=
  (∃ m ∈ s.existing.models, m.name = name) ∨ ∃ m ∈ s.delta.models, m.name = name

theorem hasModel_iff : s.hasModel name ↔ s.Reaches name := by
  rw [hasModel, List.contains_iff_mem, modelNames, Text.mem_sortedOnce, List.mem_append,
    Graph.modelNames, Graph.modelNames, Text.mem_sortedOnce, Text.mem_sortedOnce, List.mem_map,
    List.mem_map]
  rfl

theorem exists_of_target {target : String} (h : s.target? name = some target) :
    ∃ a ∈ s.existing.actions ++ s.delta.actions, a.name = name ∧ a.targetModel = target := by
  obtain ⟨a, ha, rfl⟩ := Option.map_eq_some_iff.mp h
  exact ⟨a, List.mem_reverse.mp (List.mem_of_find?_eq_some ha), by simpa using List.find?_some ha,
    rfl⟩

/-- Every name resolves, and no name of a new entity is taken. -/
structure Resolves (s : Scope) : Prop where
  newModels : ∀ m ∈ s.delta.models, ∀ old ∈ s.existing.models, old.name ≠ m.name
  newActions : ∀ a ∈ s.delta.actions, ∀ old ∈ s.existing.actions, old.name ≠ a.name
  newSchedules : ∀ c ∈ s.delta.schedules, ∀ old ∈ s.existing.schedules, old.name ≠ c.name
  root : ∀ n, s.delta.rootModel = some n → s.Reaches n
  references : ∀ m ∈ s.delta.models, ∀ f ∈ m.fields, ∀ r, f.reference = some r →
    s.Reaches r.model ∧ (r.field = idField ∨ r.field ∈ s.fieldNames r.model)
  displayFields : ∀ m ∈ s.delta.models, ∀ n ∈ m.displayFields.getD [], m.hasField n
  targets : ∀ a ∈ s.delta.actions, s.Reaches a.targetModel
  turns : ∀ c ∈ s.delta.schedules, ∀ t ∈ c.steps,
    s.Reaches t.modelName ∧ s.target? t.actionName = some t.modelName

theorem collisions_eq_nil : s.collisions = [] ↔
    (∀ m ∈ s.delta.models, ∀ old ∈ s.existing.models, old.name ≠ m.name) ∧
      (∀ a ∈ s.delta.actions, ∀ old ∈ s.existing.actions, old.name ≠ a.name) ∧
      ∀ c ∈ s.delta.schedules, ∀ old ∈ s.existing.schedules, old.name ≠ c.name := by
  unfold collisions
  rw [List.append_eq_nil_iff, List.append_eq_nil_iff, List.map_eq_nil_iff, List.map_eq_nil_iff,
    List.map_eq_nil_iff, List.filter_eq_nil_iff, List.filter_eq_nil_iff, List.filter_eq_nil_iff,
    and_assoc]
  simp [Graph.model?, Graph.action?, Graph.schedule?]

theorem rootIssues_eq_nil :
    s.rootIssues = [] ↔ ∀ n, s.delta.rootModel = some n → s.Reaches n := by
  unfold rootIssues
  cases s.delta.rootModel with
  | none => simp
  | some n => simp [← hasModel_iff]

theorem referenceIssues_eq_nil {path : String} {r : FieldReference} :
    s.referenceIssues path r = [] ↔
      s.Reaches r.model ∧ (r.field = idField ∨ r.field ∈ s.fieldNames r.model) := by
  unfold referenceIssues
  rw [← hasModel_iff]
  by_cases hm : s.hasModel r.model
  · by_cases hf : r.field = idField ∨ r.field ∈ s.fieldNames r.model
    · simp [hm, hf]
    · have hb : ¬(r.field == idField || (s.fieldNames r.model).contains r.field) = true := by
        simpa using hf
      simp only [hm, Bool.not_true, Bool.false_eq_true, if_false, if_neg hb, true_and]
      constructor
      · intro h
        cases h
      · intro h
        exact absurd h hf
  · simp [hm]

theorem modelIssues_eq_nil {m : Model} : s.modelIssues m = [] ↔
    (∀ f ∈ m.fields, ∀ r, f.reference = some r →
      s.Reaches r.model ∧ (r.field = idField ∨ r.field ∈ s.fieldNames r.model)) ∧
    ∀ n ∈ m.displayFields.getD [], m.hasField n := by
  unfold modelIssues
  rw [List.append_eq_nil_iff, List.flatMap_eq_nil_iff, List.map_eq_nil_iff,
    List.filter_eq_nil_iff]
  refine and_congr (forall₂_congr fun f _ => ?_) (forall₂_congr fun n _ => by simp)
  cases f.reference with
  | none => simp
  | some r => simp [referenceIssues_eq_nil]

theorem actionIssues_eq_nil {a : Action} : s.actionIssues a = [] ↔ s.Reaches a.targetModel := by
  unfold actionIssues
  rw [← hasModel_iff]
  by_cases h : s.hasModel a.targetModel <;> simp [h]

theorem turnIssues_eq_nil {path : String} {t : ScheduleStep} : s.turnIssues path t = [] ↔
    s.Reaches t.modelName ∧ s.target? t.actionName = some t.modelName := by
  unfold turnIssues
  rw [← hasModel_iff]
  by_cases hm : s.hasModel t.modelName
  · cases ht : s.target? t.actionName with
    | none => simp [hm]
    | some target => by_cases heq : target = t.modelName <;> simp [hm, heq]
  · simp [hm]

theorem scheduleIssues_eq_nil {c : Schedule} : s.scheduleIssues c = [] ↔ ∀ t ∈ c.steps,
    s.Reaches t.modelName ∧ s.target? t.actionName = some t.modelName := by
  unfold scheduleIssues
  exact flatMap_zipIdx_eq_nil (fun t i => turnIssues_eq_nil) 0

theorem issues_eq_nil : s.issues = [] ↔ s.Resolves := by
  unfold issues
  simp only [List.append_eq_nil_iff, collisions_eq_nil, rootIssues_eq_nil, List.flatMap_eq_nil_iff,
    modelIssues_eq_nil, actionIssues_eq_nil, scheduleIssues_eq_nil]
  constructor
  · rintro ⟨⟨⟨⟨⟨hm, ha, hc⟩, hroot⟩, hmodels⟩, hactions⟩, hschedules⟩
    exact ⟨hm, ha, hc, hroot, fun m h => (hmodels m h).1, fun m h => (hmodels m h).2, hactions,
      hschedules⟩
  · rintro ⟨hm, ha, hc, hroot, hrefs, hdisplay, hactions, hschedules⟩
    exact ⟨⟨⟨⟨⟨hm, ha, hc⟩, hroot⟩, fun m h => ⟨hrefs m h, hdisplay m h⟩⟩, hactions⟩, hschedules⟩

end AgentSpec.Scope
