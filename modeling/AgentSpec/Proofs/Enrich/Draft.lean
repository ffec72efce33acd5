import AgentSpec.Enrich.Basic
import AgentSpec.Proofs.Connection.Collected
import AgentSpec.Proofs.Graph.Shape
import AgentSpec.Proofs.Names

/-!
What completing a graph does to it.

Fields are added to models of the graph, or are kept beside it for stored models, and a workspace
may be added.  All else stays.  A model that is well-formed stays so, and what is kept for a stored
model can be appended to it: the names are new there, they are distinct, and no field is a
reference.
-/
namespace AgentSpec

/-! ## Models with one more field -/

theorem Model.hasField_iff {m : Model} {name : String} :
    m.hasField name ↔ name ∈ m.fieldNames := by
  simp [hasField, fieldNames]

theorem Model.withField_name (m : Model) (f : Field) : (m.withField f).name = m.name := by
  unfold withField
  by_cases h : m.hasField f.name
  · rw [if_pos h]
  · rw [if_neg h]

/-- Fields at the end change nothing of what is found by name. -/
theorem Form.Fits.append {form : Form} {m : Model} (h : form.Fits m) (fields : List Field) :
    form.Fits { m with fields := m.fields ++ fields } := by
  refine ⟨h.name, fun n hn => ?_⟩
  obtain ⟨f, hf, hd⟩ := h.fields n hn
  exact ⟨f, by rw [Model.field?, List.find?_append, ← Model.field?, hf]; rfl, hd⟩

/-- A well-formed model with some more well-formed fields of new names. -/
theorem Model.WellFormed.append {m : Model} (h : m.WellFormed) {fields : List Field}
    (hf : ∀ f ∈ fields, f.WellFormed) (hnodup : (fields.map (·.name)).Nodup)
    (hnew : ∀ f ∈ fields, f.name ∉ m.fieldNames) :
    ({ m with fields := m.fields ++ fields } : Model).WellFormed := by
  refine ⟨h.name, ?_, ?_, ?_, fun form hform => (h.forms form hform).append fields⟩
  · rw [Model.fieldNames, List.map_append]
    refine List.nodup_append.mpr ⟨h.fieldNames, hnodup, fun a ha b hb heq => ?_⟩
    obtain ⟨f, hmem, rfl⟩ := List.mem_map.mp hb
    exact hnew f hmem (heq ▸ ha)
  · intro f hmem
    rcases List.mem_append.mp hmem with hmem | hmem
    · exact h.fields f hmem
    · exact hf f hmem
  · intro n hn
    have hold := h.displayFields n hn
    rw [Model.hasField_iff] at hold ⊢
    rw [Model.fieldNames, List.map_append]
    exact List.mem_append_left _ hold

theorem Model.WellFormed.withField {m : Model} (h : m.WellFormed) {f : Field}
    (hf : f.WellFormed) : (m.withField f).WellFormed := by
  unfold Model.withField
  by_cases hhas : m.hasField f.name
  · rw [if_pos hhas]
    exact h
  · rw [if_neg hhas]
    refine h.append (List.forall_mem_singleton.mpr hf) (List.nodup_singleton _)
      (List.forall_mem_singleton.mpr ?_)
    rw [← Model.hasField_iff]
    exact hhas

theorem Model.mem_of_displayField {m : Model} {f : Field} (h : m.displayField? = some f) :
    f ∈ m.fields := by
  unfold displayField? at h
  cases hr : DisplayRule.all.findSome? (fun r => m.fields.find? r.admits) with
  | none =>
    rw [hr] at h
    exact List.mem_of_head? h
  | some g =>
    rw [hr] at h
    cases h
    obtain ⟨r, -, hfind⟩ := List.exists_of_findSome?_eq_some hr
    exact List.mem_of_find?_eq_some hfind

theorem Model.WellFormed.withDisplayField {m : Model} (h : m.WellFormed) :
    m.withDisplayField.WellFormed := by
  refine ⟨h.name, h.fieldNames, h.fields, fun n hn => ?_, fun form hform => ?_⟩
  · cases hd : m.displayFields with
    | some names =>
      refine h.displayFields n ?_
      simpa [Model.withDisplayField, hd] using hn
    | none =>
      cases hf : m.displayField? with
      | none => simp [Model.withDisplayField, hd, hf] at hn
      | some f =>
        have hname : n = f.name := by simpa [Model.withDisplayField, hd, hf] using hn
        rw [hname, Model.hasField_iff]
        exact List.mem_map_of_mem (mem_of_displayField hf)
  · obtain ⟨hname, hfields⟩ := h.forms form hform
    exact ⟨hname, hfields⟩

/-! ## Graphs with one changed model -/

namespace Graph

variable {g : Graph} {name : String} {change : Model → Model}

theorem changeModel_names (hname : ∀ m, (change m).name = m.name) :
    (g.changeModel name change).models.map (·.name) = g.models.map (·.name) := by
  unfold changeModel
  generalize g.models = models
  induction models with
  | nil => rfl
  | cons m rest ih =>
    unfold changeModel.go
    by_cases h : m.name == name
    · rw [if_pos h, List.map_cons, List.map_cons, hname]
    · rw [if_neg h, List.map_cons, List.map_cons]
      exact congrArg _ ih

theorem mem_changeModel {m : Model} (h : m ∈ (g.changeModel name change).models) :
    m ∈ g.models ∨ ∃ old ∈ g.models, old.name = name ∧ m = change old := by
  unfold changeModel at h
  generalize g.models = models at h
  induction models with
  | nil => cases h
  | cons head rest ih =>
    unfold changeModel.go at h
    by_cases heq : head.name == name
    · rw [if_pos heq] at h
      rcases List.mem_cons.mp h with rfl | h
      · exact Or.inr ⟨head, List.mem_cons_self, beq_iff_eq.mp heq, rfl⟩
      · exact Or.inl (List.mem_cons_of_mem _ h)
    · rw [if_neg heq] at h
      rcases List.mem_cons.mp h with rfl | h
      · exact Or.inl List.mem_cons_self
      · rcases ih h with h | ⟨old, hold, h⟩
        · exact Or.inl (List.mem_cons_of_mem _ h)
        · exact Or.inr ⟨old, List.mem_cons_of_mem _ hold, h⟩

end Graph

/-! ## Drafts -/

/-- What is found to be true of the start and kept by each step is true of the end. -/
theorem foldl_keeps {P : β → Prop} {f : β → α → β} {as : List α} {b : β} (h : P b)
    (hstep : ∀ b, ∀ a ∈ as, P b → P (f b a)) : P (as.foldl f b) := by
  induction as generalizing b with
  | nil => exact h
  | cons a rest ih =>
    exact ih (hstep b a List.mem_cons_self h) fun b a ha =>
      hstep b a (List.mem_cons_of_mem _ ha)

/-- Fields are kept beside the graph for stored models only. -/
def Draft.Anchored (existing : Graph) (d : Draft) : Prop :=
  ∀ add ∈ d.additions, ∃ m ∈ existing.models, m.name = add.1

namespace Draft.Anchored

variable {existing : Graph} {d : Draft}

theorem addField (hd : d.Anchored existing) (name : String) (f : Field) :
    (d.addField existing name f).Anchored existing := by
  unfold Draft.addField
  cases d.graph.model? name with
  | some m => exact hd
  | none =>
    cases hold : existing.model? name with
    | none => exact hd
    | some m =>
      by_cases htaken : (m.hasField f.name ||
          (d.additions.fieldsOf name).any (·.name == f.name)) = true
      · simp only [if_pos htaken]
        exact hd
      · simp only [if_neg htaken]
        intro add hadd
        rcases Dictionary.mem_insert hadd with rfl | hadd
        · exact ⟨m, List.mem_of_find?_eq_some hold, by simpa using List.find?_some hold⟩
        · exact hd add hadd

theorem foldOutputs (hd : d.Anchored existing) : (d.foldOutputs existing).Anchored existing :=
  foldl_keeps hd fun _ _ _ hd => foldl_keeps hd fun _ _ _ hd => hd.addField _ _

theorem addCredentials (hd : d.Anchored existing) (services : List Service) :
    (d.addCredentials existing services).Anchored existing := by
  unfold Draft.addCredentials
  by_cases hnone : (services.map Service.credentialField).isEmpty
  · simp only [hnone, if_true]
    exact hd
  · simp only [hnone, Bool.false_eq_true, if_false]
    by_cases hthere : ((d.graph.model? workspaceName).isSome ||
        (existing.model? workspaceName).isSome) = true
    · rw [if_pos hthere]
      exact foldl_keeps hd fun _ _ _ hd => hd.addField _ _
    · rw [if_neg hthere]
      exact hd

end Draft.Anchored

/-- Fields that can be appended to a stored model. -/
structure Additions.Fit (fields : List Field) (m : Model) : Prop where
  wellFormed : ∀ f ∈ fields, f.WellFormed
  noReference : ∀ f ∈ fields, f.reference = none
  names : (fields.map (·.name)).Nodup
  fresh : ∀ f ∈ fields, f.name ∉ m.fieldNames

/-- What holds of a draft for a graph whose models are well-formed. -/
structure Draft.Sound (existing g : Graph) (d : Draft) : Prop where
  root : d.graph.rootModel = g.rootModel
  actions : d.graph.actions = g.actions
  schedules : d.graph.schedules = g.schedules
  models : ∀ m ∈ d.graph.models, m.WellFormed
  modelNames : (d.graph.models.map (·.name)).Nodup
  /-- Only the workspace may be new. -/
  defaultRoot : d.graph.defaultRoot? = g.defaultRoot?
  sorted : d.additions.Sorted
  additions : ∀ add ∈ d.additions, ∃ m, existing.model? add.1 = some m ∧ Additions.Fit add.2 m

theorem Graph.defaultRoot_congr {g g' : Graph}
    (h : g.models.map (·.name) = g'.models.map (·.name)) : g.defaultRoot? = g'.defaultRoot? := by
  have hroot (g : Graph) : g.defaultRoot? = (g.models.map (·.name)).find? (· != workspaceName) := by
    unfold defaultRoot?
    rw [List.find?_map]
    rfl
  rw [hroot, hroot, h]

namespace Additions

variable {fields : List Field} {m : Model}

theorem Fit.append (h : Fit fields m) {f : Field} (hf : f.WellFormed) (href : f.reference = none)
    (hnew : f.name ∉ m.fieldNames) (hother : f.name ∉ fields.map (·.name)) :
    Fit (fields ++ [f]) m := by
  refine ⟨?_, ?_, ?_, ?_⟩
  · exact List.forall_mem_append.mpr ⟨h.wellFormed, List.forall_mem_singleton.mpr hf⟩
  · exact List.forall_mem_append.mpr ⟨h.noReference, List.forall_mem_singleton.mpr href⟩
  · rw [List.map_append, List.nodup_append]
    refine ⟨h.names, List.nodup_singleton _, fun a ha b hb heq => hother ?_⟩
    have hb : b = f.name := List.mem_singleton.mp hb
    rw [← hb, ← heq]
    exact ha
  · exact List.forall_mem_append.mpr ⟨h.fresh, List.forall_mem_singleton.mpr hnew⟩

end Additions

namespace Draft

variable {existing g : Graph} {d : Draft} {f : Field} {name : String}

theorem Sound.fieldsOf (hd : d.Sound existing g) {m : Model} (hm : existing.model? name = some m) :
    Additions.Fit (d.additions.fieldsOf name) m := by
  unfold Additions.fieldsOf
  cases hl : d.additions.lookup name with
  | none =>
    exact ⟨List.forall_mem_nil _, List.forall_mem_nil _, List.nodup_nil, List.forall_mem_nil _⟩
  | some fields =>
    obtain ⟨m', hm', hfit⟩ := hd.additions _ (Dictionary.mem_of_lookup hl)
    rw [hm] at hm'
    cases hm'
    exact hfit

theorem Sound.addField (hd : d.Sound existing g) (hf : f.WellFormed) (href : f.reference = none) :
    (d.addField existing name f).Sound existing g := by
  unfold Draft.addField
  cases hnew : d.graph.model? name with
  | some m =>
    have hnames : (d.graph.changeModel name (·.withField f)).models.map (·.name) =
        d.graph.models.map (·.name) :=
      Graph.changeModel_names fun m => m.withField_name f
    refine { hd with models := fun m hm => ?_, modelNames := ?_, defaultRoot := ?_ }
    · rcases Graph.mem_changeModel hm with hm | ⟨old, hold, -, rfl⟩
      · exact hd.models m hm
      · exact (hd.models old hold).withField hf
    · rw [hnames]
      exact hd.modelNames
    · exact (Graph.defaultRoot_congr hnames).trans hd.defaultRoot
  | none =>
    cases hold : existing.model? name with
    | none => exact hd
    | some m =>
      have hfit := hd.fieldsOf hold
      by_cases htaken : (m.hasField f.name ||
          (d.additions.fieldsOf name).any (·.name == f.name)) = true
      · simp only [if_pos htaken]
        exact hd
      · simp only [if_neg htaken]
        rw [Bool.or_eq_true, not_or, Model.hasField_iff] at htaken
        refine { hd with sorted := hd.sorted.insert .., additions := fun add hadd => ?_ }
        rcases Dictionary.mem_insert hadd with rfl | hadd
        · exact ⟨m, hold, hfit.append hf href htaken.1 (by simpa using htaken.2)⟩
        · exact hd.additions add hadd

theorem Sound.addFields (hd : d.Sound existing g) {fields : List Field}
    (hf : ∀ f ∈ fields, f.WellFormed ∧ f.reference = none) :
    (fields.foldl (fun d f => d.addField existing name f) d).Sound existing g :=
  foldl_keeps hd fun _ f hmem hd => hd.addField (hf f hmem).1 (hf f hmem).2

end Draft

/-- A field that is neither an enumeration nor a reference needs only a name. -/
theorem Field.wellFormed_of_name {f : Field} (hname : ¬Text.isBlank f.name)
    (htype : f.type = .text ∨ f.type = .oauth) (href : f.reference = none) : f.WellFormed := by
  intro path
  unfold Field.violations Field.contentViolations
  rw [blankViolation_eq_nil.mpr hname, href]
  rcases htype with htype | htype <;> rw [htype] <;> rfl

theorem Action.outputs_wellFormed (a : Action) :
    ∀ f ∈ a.outputs, f.WellFormed ∧ f.reference = none := by
  intro f hf
  obtain ⟨s, -, hf⟩ := List.mem_flatMap.mp hf
  obtain ⟨name, hname, rfl⟩ := List.mem_map.mp hf
  have hblank : ¬Text.isBlank name := by simpa using (List.mem_filter.mp hname).2
  exact ⟨Field.wellFormed_of_name hblank (Or.inl rfl) rfl, rfl⟩

namespace Draft

variable {existing g : Graph} {d : Draft}

theorem Sound.foldOutputs (hd : d.Sound existing g) : (d.foldOutputs existing).Sound existing g :=
  foldl_keeps hd fun _ a _ hd => hd.addFields a.outputs_wellFormed

theorem Sound.withDisplayFields (hd : d.Sound existing g) :
    ({ d with graph := d.graph.withDisplayFields } : Draft).Sound existing g := by
  have hnames : d.graph.withDisplayFields.models.map (·.name) = d.graph.models.map (·.name) := by
    unfold Graph.withDisplayFields
    rw [List.map_map]
    rfl
  refine { hd with models := fun m hm => ?_, modelNames := ?_, defaultRoot := ?_ }
  · obtain ⟨old, hold, rfl⟩ := List.mem_map.mp hm
    exact (hd.models old hold).withDisplayField
  · rw [hnames]
    exact hd.modelNames
  · exact (Graph.defaultRoot_congr hnames).trans hd.defaultRoot

end Draft

/-! ## Credentials -/

theorem Service.wellFormed_credentialField {s : Service} (h : s ∈ Service.catalog) :
    s.credentialField.WellFormed := by
  have hname : ∀ s ∈ Service.catalog, ¬Text.isBlank s.fieldName := by decide
  exact Field.wellFormed_of_name (hname s h) (Or.inr rfl) rfl

theorem workspace_wellFormed {services : List Service} (h : services.Sublist Service.catalog) :
    (workspace (services.map Service.credentialField)).WellFormed := by
  have hnames : ((services.map Service.credentialField).map (·.name)).Sublist
      (Service.catalog.map (·.fieldName)) := by
    rw [List.map_map]
    exact h.map _
  have hname : ¬Text.isBlank workspaceName := by decide
  refine ⟨hname, ?_, ?_, ?_, List.forall_mem_nil _⟩
  · have hcatalog : ("name" :: Service.catalog.map (·.fieldName)).Nodup := by decide
    exact hcatalog.sublist (hnames.cons_cons "name")
  · refine List.forall_mem_cons.mpr ⟨fun path => rfl, fun f hf => ?_⟩
    obtain ⟨s, hs, rfl⟩ := List.mem_map.mp hf
    exact Service.wellFormed_credentialField (h.subset hs)
  · intro n hn
    have hn : n = "name" := List.mem_singleton.mp hn
    rw [hn]
    rfl

theorem Draft.Sound.addCredentials {existing g : Graph} {d : Draft} (hd : d.Sound existing g)
    {services : List Service} (h : services.Sublist Service.catalog) :
    (d.addCredentials existing services).Sound existing g := by
  unfold Draft.addCredentials
  by_cases hnone : (services.map Service.credentialField).isEmpty
  · simp only [hnone, if_true]
    exact hd
  · simp only [hnone, Bool.false_eq_true, if_false]
    by_cases hthere : ((d.graph.model? workspaceName).isSome ||
        (existing.model? workspaceName).isSome) = true
    · rw [if_pos hthere]
      refine hd.addFields fun f hf => ?_
      obtain ⟨s, hs, rfl⟩ := List.mem_map.mp hf
      exact ⟨Service.wellFormed_credentialField (h.subset hs), rfl⟩
    · rw [if_neg hthere]
      rw [Bool.or_eq_true, not_or] at hthere
      refine { hd with models := ?_, modelNames := ?_, defaultRoot := ?_ }
      · exact List.forall_mem_append.mpr
          ⟨hd.models, List.forall_mem_singleton.mpr (workspace_wellFormed h)⟩
      · rw [List.map_append, List.nodup_append]
        refine ⟨hd.modelNames, List.nodup_singleton _, fun n hn m hm heq => hthere.1 ?_⟩
        obtain ⟨model, hmodel, rfl⟩ := List.mem_map.mp hn
        have hname : model.name = workspaceName := heq.trans (List.mem_singleton.mp hm)
        exact List.find?_isSome.mpr ⟨model, hmodel, beq_iff_eq.mpr hname⟩
      · rw [← hd.defaultRoot]
        unfold Graph.defaultRoot?
        simp [List.find?_append, workspace]

/-! ## Completed graphs -/

theorem Graph.withOutputs_sound {g existing : Graph} (hmodels : ∀ m ∈ g.models, m.WellFormed)
    (hnames : (g.models.map (·.name)).Nodup) : (g.withOutputs existing).Sound existing g := by
  have h : ({ graph := g } : Draft).Sound existing g :=
    ⟨rfl, rfl, rfl, hmodels, hnames, rfl, List.Pairwise.nil, List.forall_mem_nil _⟩
  exact h.withDisplayFields.foldOutputs.withDisplayFields

/-- In a completed graph all names resolve, and what is kept beside it is for stored models. -/
theorem Graph.resolves_of_enrich {g existing : Graph} {permitted : Option (List String)}
    {e : Enriched} (h : g.enrich existing permitted = .ok e) :
    Scope.issues ⟨existing, e.graph, e.additions⟩ = [] ∧
      Draft.Anchored existing ⟨e.graph, e.additions⟩ := by
  unfold enrich at h
  simp only at h
  split at h
  case isFalse => cases h
  case isTrue hissues =>
    cases h
    have hempty : ({ graph := g.withDisplayFields } : Draft).Anchored existing :=
      List.forall_mem_nil _
    refine ⟨List.isEmpty_iff.mp hissues, Draft.Anchored.addCredentials ?_ _⟩
    exact hempty.foldOutputs

/-- What completing does to a graph of well-formed models. -/
theorem Graph.sound_of_enrich {g existing : Graph} {permitted : Option (List String)}
    {e : Enriched} (h : g.enrich existing permitted = .ok e)
    (hmodels : ∀ m ∈ g.models, m.WellFormed) (hnames : (g.models.map (·.name)).Nodup) :
    Draft.Sound existing g ⟨e.graph, e.additions⟩ := by
  unfold enrich at h
  simp only at h
  split at h
  case isFalse => cases h
  case isTrue hissues =>
    cases h
    have hservices : (g.mentionedServices.filter (·.isAllowed permitted)).Sublist
        Service.catalog := List.filter_sublist.trans g.mentionedServices_sublist
    exact (withOutputs_sound hmodels hnames).addCredentials hservices

/-- The connections of a completed graph are among those of the catalog, none twice. -/
theorem Graph.connections_of_enrich {g existing : Graph} {permitted : Option (List String)}
    {e : Enriched} (h : g.enrich existing permitted = .ok e) :
    (e.connections.map (·.provider)).Nodup := by
  unfold enrich at h
  simp only at h
  split at h
  case isFalse => cases h
  case isTrue hissues =>
    cases h
    have hservices : (g.mentionedServices.filter (·.isAllowed permitted)).Sublist
        Service.catalog := List.filter_sublist.trans g.mentionedServices_sublist
    have hcatalog : (Service.catalog.map (·.provider)).Nodup := by decide
    rw [List.map_map]
    exact hcatalog.sublist (hservices.map _)

end AgentSpec
