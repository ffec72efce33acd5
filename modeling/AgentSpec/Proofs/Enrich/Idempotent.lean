import AgentSpec.Proofs.Enrich.Conservative

/-!
Completing a completed graph again changes nothing, once there is a workspace.

The second run adds the same fields in the same order, since they come from the actions alone.  What
goes to a model of the graph is there already.  What goes to a stored model depends on the names of
the new models only, and these stay, so the same fields are kept beside the graph.  All models with
fields have display fields from the first run on, a workspace that got credentials included.

A workspace that the first run made is different: it missed the outputs of actions on it, and the
second run would add them.  Main statement: `Graph.enrich_idempotent`.
-/
namespace AgentSpec

/-! ## Models that have their display fields -/

namespace Model

variable {m : Model}

/-- There is nothing to choose: display fields are there, or no field is. -/
def Shown (m : Model) : Prop := m.displayFields.isSome ∨ m.fields = []

theorem displayField?_isSome (h : m.fields ≠ []) : m.displayField?.isSome := by
  unfold displayField?
  cases DisplayRule.all.findSome? (fun r => m.fields.find? r.admits) with
  | some f => rfl
  | none =>
    cases hf : m.fields with
    | nil => exact absurd hf h
    | cons f rest => rfl

theorem displayFields_isSome (h : m.fields ≠ []) : m.withDisplayField.displayFields.isSome := by
  have hfield := displayField?_isSome h
  show (m.displayFields <|> m.displayField?.map fun f => [f.name]).isSome
  cases m.displayFields with
  | some names => rfl
  | none => simpa using hfield

theorem shown_withDisplayField (m : Model) : m.withDisplayField.Shown := by
  by_cases h : m.fields = []
  · exact Or.inr h
  · exact Or.inl (displayFields_isSome h)

theorem Shown.withDisplayField_eq (h : m.Shown) : m.withDisplayField = m := by
  have hsame : (m.displayFields <|> m.displayField?.map fun f => [f.name]) = m.displayFields := by
    rcases h with hsome | hnil
    · obtain ⟨names, hnames⟩ := Option.isSome_iff_exists.mp hsome
      rw [hnames]
      rfl
    · have hnone : m.displayField? = none := by
        unfold displayField?
        rw [hnil]
        rfl
      rw [hnone]
      cases m.displayFields <;> rfl
  unfold withDisplayField
  rw [hsame]

end Model

namespace Graph

variable {g : Graph} {name : String} {change : Model → Model}

theorem withDisplayFields_eq_self (h : ∀ m ∈ g.models, m.Shown) : g.withDisplayFields = g := by
  have hmap : g.models.map Model.withDisplayField = g.models.map id :=
    List.map_congr_left fun m hm => (h m hm).withDisplayField_eq
  unfold withDisplayFields
  rw [hmap, List.map_id]

theorem changeModel_eq_self (h : ∀ m, g.model? name = some m → change m = m) :
    g.changeModel name change = g := by
  have hgo : ∀ models : List Model, (∀ m, models.find? (·.name == name) = some m → change m = m) →
      changeModel.go name change models = models := by
    intro models
    induction models with
    | nil =>
      intro _
      rfl
    | cons m rest ih =>
      intro hfirst
      unfold changeModel.go
      by_cases hm : m.name == name
      · have hsame : change m = m := hfirst m (by rw [List.find?_cons, hm])
        rw [if_pos hm, hsame]
      · have hskip : (m :: rest).find? (·.name == name) = rest.find? (·.name == name) :=
          List.find?_cons_of_neg hm
        rw [if_neg hm, ih fun k hk => hfirst k (hskip.trans hk)]
  unfold changeModel
  rw [hgo g.models h]

end Graph

/-! ## Fields added one after the other -/

namespace Draft

variable {existing : Graph} {d d' : Draft} {name : String} {f : Field}
  {fields : List (String × Field)}

/-- Each field is added to the model of the name beside it. -/
def addAll (existing : Graph) (fields : List (String × Field)) (d : Draft) : Draft :=
  fields.foldl (fun d p => d.addField existing p.1 p.2) d

theorem addAll_map (name : String) (fields : List Field) :
    d.addAll existing (fields.map fun f => (name, f)) =
      fields.foldl (fun d f => d.addField existing name f) d := by
  unfold addAll
  rw [List.foldl_map]

/-- The passes over outputs and credentials as one list of fields each. -/
theorem foldOutputs_eq : d.foldOutputs existing =
    d.addAll existing
      (d.graph.actions.flatMap fun a => a.outputs.map fun f => (a.targetModel, f)) := by
  unfold foldOutputs
  generalize d.graph.actions = actions
  induction actions generalizing d with
  | nil => rfl
  | cons a rest ih =>
    rw [List.foldl_cons, ih, List.flatMap_cons, ← addAll_map]
    unfold addAll
    rw [List.foldl_append]

theorem addCredentials_eq {services : List Service}
    (h : (d.graph.model? workspaceName).isSome ∨ (existing.model? workspaceName).isSome) :
    d.addCredentials existing services =
      d.addAll existing ((services.map Service.credentialField).map fun f => (workspaceName, f)) := by
  have hthere : ((d.graph.model? workspaceName).isSome ||
      (existing.model? workspaceName).isSome) = true := Bool.or_eq_true _ _ ▸ h
  rw [addAll_map]
  unfold addCredentials
  simp only [hthere, if_true]
  by_cases hnone : (services.map Service.credentialField).isEmpty
  · rw [if_pos hnone, List.isEmpty_iff.mp hnone]
    rfl
  · rw [if_neg hnone]

/-! ### What is held -/

/-- A field of this name is there, if the model is. -/
def Holds (existing : Graph) (d : Draft) (model field : String) : Prop :=
  ∀ fs, d.fields? existing model = some fs → field ∈ fs.map (·.name)

theorem holds_addField : (d.addField existing name f).Holds existing name f.name := by
  intro fs hfs
  rw [fields?_addField, if_pos rfl] at hfs
  obtain ⟨old, -, rfl⟩ := Option.map_eq_some_iff.mp hfs
  exact Store.mem_names_appendNew.mpr (Or.inr (List.mem_singleton.mpr rfl))

theorem Holds.addField {model field : String} (h : d.Holds existing model field) :
    (d.addField existing name f).Holds existing model field := by
  intro fs hfs
  rw [fields?_addField] at hfs
  by_cases hm : model = name
  · rw [if_pos hm] at hfs
    obtain ⟨old, hold, rfl⟩ := Option.map_eq_some_iff.mp hfs
    exact Store.mem_names_appendNew.mpr (Or.inl (h old hold))
  · rw [if_neg hm] at hfs
    exact h fs hfs

theorem Holds.addAll {model field : String} (h : d.Holds existing model field) :
    (d.addAll existing fields).Holds existing model field :=
  foldl_keeps (P := fun d' : Draft => d'.Holds existing model field) h fun _ _ _ hd => hd.addField

theorem holds_addAll : ∀ p ∈ fields, (d.addAll existing fields).Holds existing p.1 p.2.name := by
  induction fields generalizing d with
  | nil => exact List.forall_mem_nil _
  | cons p rest ih =>
    have hfirst : ((d.addField existing p.1 p.2).addAll existing rest).Holds existing p.1 p.2.name :=
      holds_addField.addAll
    exact List.forall_mem_cons.mpr ⟨hfirst, ih⟩

theorem Holds.withDisplayFields {model field : String} (h : d.Holds existing model field) :
    ({ d with graph := d.graph.withDisplayFields } : Draft).Holds existing model field := by
  intro fs hfs
  rw [fields?_withDisplayFields] at hfs
  exact h fs hfs

theorem Holds.hasField {model field : String} (h : d.Holds existing model field) {m : Model}
    (hm : d.graph.model? model = some m) : m.hasField field := by
  have hmem : field ∈ m.fieldNames := h m.fields (fields?_of_new hm)
  exact Model.hasField_iff.mpr hmem

/-! ### What stays -/

theorem graph_addField_of_has (h : ∀ m, d.graph.model? name = some m → m.hasField f.name) :
    (d.addField existing name f).graph = d.graph := by
  unfold addField
  cases hnew : d.graph.model? name with
  | some m => exact Graph.changeModel_eq_self fun k hk => if_pos (h k hk)
  | none =>
    cases existing.model? name with
    | none => rfl
    | some m =>
      simp only
      split <;> rfl

theorem graph_addAll_of_has
    (h : ∀ p ∈ fields, ∀ m, d.graph.model? p.1 = some m → m.hasField p.2.name) :
    (d.addAll existing fields).graph = d.graph := by
  induction fields generalizing d with
  | nil => rfl
  | cons p rest ih =>
    have hfirst : (d.addField existing p.1 p.2).graph = d.graph :=
      graph_addField_of_has (h p List.mem_cons_self)
    have hrest : ((d.addField existing p.1 p.2).addAll existing rest).graph =
        (d.addField existing p.1 p.2).graph := by
      refine ih fun q hq => ?_
      rw [hfirst]
      exact h q (List.mem_cons_of_mem _ hq)
    exact hrest.trans hfirst

/-- Nothing is left to choose in any model, and nothing will be if those of this name get fields. -/
def Shown (d : Draft) (name : String) : Prop :=
  ∀ m ∈ d.graph.models, m.Shown ∧ (m.name = name → m.displayFields.isSome)

theorem Shown.addField (h : d.Shown name) : (d.addField existing name f).Shown name := by
  intro m hm
  rcases mem_addField hm with hm | ⟨old, hold, hname, rfl⟩
  · exact h m hm
  · have hsome : (old.withField f).displayFields.isSome := by
      rw [Model.withField_displayFields]
      exact (h old hold).2 hname
    exact ⟨Or.inl hsome, fun _ => hsome⟩

theorem eq_of (hgraph : d'.graph = d.graph) (hadditions : d'.additions = d.additions) : d' = d := by
  cases d
  cases d'
  cases hgraph
  cases hadditions
  rfl

/-- The same fields are kept beside both graphs, and will be: the graphs have the same models by
name. -/
structure Alike (d d' : Draft) : Prop where
  names : d'.graph.models.map (·.name) = d.graph.models.map (·.name)
  additions : d'.additions = d.additions

theorem names_addField : (d.addField existing name f).graph.models.map (·.name) =
    d.graph.models.map (·.name) := by
  unfold addField
  cases d.graph.model? name with
  | some m => exact Graph.changeModel_names fun m => m.withField_name f
  | none =>
    cases existing.model? name with
    | none => rfl
    | some m =>
      simp only
      split <;> rfl

theorem additions_addField_of_new {m : Model} (h : d.graph.model? name = some m) :
    (d.addField existing name f).additions = d.additions := by
  unfold addField
  rw [h]

/-- What is kept for a stored model depends on what is kept already, not on the graph. -/
theorem additions_addField_of_stored (h : d.graph.model? name = none) :
    (d.addField existing name f).additions =
      match existing.model? name with
      | some m =>
        if m.hasField f.name || (d.additions.fieldsOf name).any (·.name == f.name) then d.additions
        else d.additions.append name f
      | none => d.additions := by
  unfold addField
  rw [h]
  cases existing.model? name with
  | none => rfl
  | some m =>
    simp only
    split <;> rfl

theorem Alike.addField (h : d.Alike d') :
    (d.addField existing name f).Alike (d'.addField existing name f) := by
  refine ⟨?_, ?_⟩
  · rw [names_addField, names_addField]
    exact h.names
  · have hnone : d'.graph.model? name = none ↔ d.graph.model? name = none :=
      Graph.model?_eq_none_congr h.names
    cases hnew : d.graph.model? name with
    | none => rw [additions_addField_of_stored hnew, additions_addField_of_stored (hnone.mpr hnew),
        h.additions]
    | some m =>
      have hnot : d'.graph.model? name ≠ none := by
        intro h'
        rw [hnone.mp h'] at hnew
        cases hnew
      obtain ⟨m', hnew'⟩ := Option.ne_none_iff_exists'.mp hnot
      rw [additions_addField_of_new hnew, additions_addField_of_new hnew', h.additions]

theorem Alike.addAll (h : d.Alike d') :
    (d.addAll existing fields).Alike (d'.addAll existing fields) := by
  induction fields generalizing d d' with
  | nil => exact h
  | cons p rest ih => exact ih h.addField

theorem Alike.withDisplayFields (h : d.Alike d') :
    Alike { d with graph := d.graph.withDisplayFields }
      { d' with graph := d'.graph.withDisplayFields } := by
  have hnames (g : Graph) : g.withDisplayFields.models.map (·.name) = g.models.map (·.name) :=
    names_of_extends Graph.extends_withDisplayFields
  refine ⟨?_, h.additions⟩
  rw [hnames, hnames]
  exact h.names

end Draft

/-! ## The second run -/

namespace Graph

variable {g existing : Graph} {permitted : Option (List String)}

theorem enrich_eq : g.enrich existing permitted =
    let d := g.drafted existing permitted
    let issues := Scope.issues ⟨existing, d.graph, d.additions⟩
    if issues.isEmpty then
      .ok
        { graph := d.graph
          additions := d.additions
          connections := (g.services permitted).map Service.connection
          warnings :=
            (g.mentionedServices.filter (!·.isAllowed permitted)).map (.notPermitted ·.provider) }
    else .error issues := rfl

/-- The outputs of all actions, each with the model that it goes to. -/
def targetedOutputs (g : Graph) : List (String × Field) :=
  g.actions.flatMap fun a => a.outputs.map fun f => (a.targetModel, f)

def targetedCredentials (g : Graph) (permitted : Option (List String)) : List (String × Field) :=
  ((g.services permitted).map Service.credentialField).map fun f => (workspaceName, f)

theorem withOutputs_eq : g.withOutputs existing =
    let d := ({ graph := g.withDisplayFields } : Draft).addAll existing g.targetedOutputs
    { d with graph := d.graph.withDisplayFields } := by
  unfold withOutputs
  rw [Draft.foldOutputs_eq]
  rfl

theorem services_congr {g' : Graph} (permitted : Option (List String))
    (h : g'.actions = g.actions) :
    g'.mentionedServices = g.mentionedServices ∧ g'.services permitted = g.services permitted := by
  have hmentioned : g'.mentionedServices = g.mentionedServices := by
    unfold mentionedServices codeDescriptions
    rw [h]
  unfold services
  rw [hmentioned]
  exact ⟨rfl, rfl⟩

/-- A workspace is given or stored. -/
def HasWorkspace (g existing : Graph) : Prop :=
  (g.model? workspaceName).isSome ∨ (existing.model? workspaceName).isSome

theorem HasWorkspace.congr {g' : Graph} (h : g.HasWorkspace existing)
    (hnames : g'.models.map (·.name) = g.models.map (·.name)) : g'.HasWorkspace existing := by
  have hnone : g'.model? workspaceName = none ↔ g.model? workspaceName = none :=
    model?_eq_none_congr hnames
  unfold HasWorkspace at h ⊢
  rw [Option.isSome_iff_ne_none, ne_eq, hnone]
  rwa [Option.isSome_iff_ne_none] at h

theorem drafted_eq (h : g.HasWorkspace existing) : g.drafted existing permitted =
    (g.withOutputs existing).addAll existing (g.targetedCredentials permitted) :=
  Draft.addCredentials_eq (h.congr (names_of_extends extends_withOutputs))

theorem names_drafted (h : g.HasWorkspace existing) :
    (g.drafted existing permitted).graph.models.map (·.name) = g.models.map (·.name) := by
  obtain ⟨given, new, hmodels, hgiven, hnew⟩ := extends_drafted g existing permitted
  have hnil : new = [] := by
    rcases hnew with hnil | ⟨w, -, -, hnone, hold⟩
    · exact hnil
    · rw [HasWorkspace, hnone, hold] at h
      simp at h
  rw [hmodels, hnil, List.append_nil]
  exact names_of_extends hgiven

/-- All that a second run adds was added in the first one. -/
theorem held_drafted (h : g.HasWorkspace existing) :
    ∀ p ∈ g.targetedOutputs ++ g.targetedCredentials permitted,
      (g.drafted existing permitted).Holds existing p.1 p.2.name := by
  rw [drafted_eq h, List.forall_mem_append]
  refine ⟨fun p hp => ?_, Draft.holds_addAll⟩
  rw [withOutputs_eq]
  exact (Draft.holds_addAll p hp).withDisplayFields.addAll

/-- A workspace that is given with a field is shown before it gets credentials. -/
theorem workspace_shown (hg : g.Shaped)
    (hfields : ∀ w, g.model? workspaceName = some w → w.fields ≠ []) {m : Model}
    (hm : m ∈ (g.withOutputs existing).graph.models) (hname : m.name = workspaceName) :
    m.displayFields.isSome := by
  have hfold : List.Forall₂ Model.ExtendsTo g.withDisplayFields.models
      (g.withOutputs existing).graph.models :=
    forall₂_extendsTo_trans (Draft.extends_foldOutputs (d := { graph := g.withDisplayFields }))
      extends_withDisplayFields
  obtain ⟨shown, hshown, hextends⟩ := forall₂_mem_right hfold hm
  obtain ⟨old, hold, rfl⟩ := List.mem_map.mp hshown
  have holdName : old.name = workspaceName := hextends.name.symm.trans hname
  have hfound : g.model? workspaceName = some old := holdName ▸ find?_of_mem hg.modelNames hold
  have hsome : old.withDisplayField.displayFields.isSome :=
    Model.displayFields_isSome (hfields old hfound)
  rw [hextends.displayFields hsome]
  exact hsome

theorem shown_drafted (hg : g.Shaped) (h : g.HasWorkspace existing)
    (hfields : ∀ w, g.model? workspaceName = some w → w.fields ≠ []) :
    ∀ m ∈ (g.drafted existing permitted).graph.models, m.Shown := by
  have hstart : (g.withOutputs existing).Shown workspaceName := by
    intro m hm
    have hshown : m.Shown := by
      obtain ⟨old, -, rfl⟩ := List.mem_map.mp hm
      exact old.shown_withDisplayField
    exact ⟨hshown, workspace_shown hg hfields hm⟩
  have hend : (g.drafted existing permitted).Shown workspaceName := by
    rw [drafted_eq h]
    refine foldl_keeps (P := fun d : Draft => d.Shown workspaceName) hstart fun d p hp hd => ?_
    obtain ⟨f, -, rfl⟩ := List.mem_map.mp hp
    exact hd.addField
  exact fun m hm => (hend m hm).1

/-- A graph that holds all that would be added, and shows it, is left by the passes. -/
theorem graph_drafted_of_held (h : g.HasWorkspace existing) (hshown : g.withDisplayFields = g)
    (hheld : ∀ p ∈ g.targetedOutputs ++ g.targetedCredentials permitted, ∀ m,
      g.model? p.1 = some m → m.hasField p.2.name) : (g.drafted existing permitted).graph = g := by
  rw [List.forall_mem_append] at hheld
  have houtputs : (g.withOutputs existing).graph = g := by
    have hadded : (({ graph := g } : Draft).addAll existing g.targetedOutputs).graph = g :=
      Draft.graph_addAll_of_has hheld.1
    rw [withOutputs_eq, hshown]
    simp only
    rw [hadded, hshown]
  have hcredentials : ((g.withOutputs existing).addAll existing
      (g.targetedCredentials permitted)).graph = (g.withOutputs existing).graph := by
    refine Draft.graph_addAll_of_has ?_
    rw [houtputs]
    exact hheld.2
  rw [drafted_eq h, hcredentials, houtputs]

theorem targeted_congr {g' : Graph} (permitted : Option (List String))
    (h : g'.actions = g.actions) :
    g'.targetedOutputs = g.targetedOutputs ∧
      g'.targetedCredentials permitted = g.targetedCredentials permitted := by
  unfold targetedOutputs targetedCredentials
  rw [h, (services_congr permitted h).2]
  exact ⟨rfl, rfl⟩

/-- What is kept beside the graph follows from its actions and the names of its models. -/
theorem additions_drafted_congr {g' : Graph} (h : g.HasWorkspace existing)
    (hnames : g'.models.map (·.name) = g.models.map (·.name)) (hactions : g'.actions = g.actions) :
    (g'.drafted existing permitted).additions = (g.drafted existing permitted).additions := by
  obtain ⟨houtputs, hcredentials⟩ := targeted_congr permitted hactions
  have hstart : Draft.Alike ⟨g, []⟩ ⟨g', []⟩ := ⟨hnames, rfl⟩
  have halike : (g.withOutputs existing).Alike (g'.withOutputs existing) := by
    rw [withOutputs_eq, withOutputs_eq, houtputs]
    exact hstart.withDisplayFields.addAll.withDisplayFields
  rw [drafted_eq h, drafted_eq (h.congr hnames), hcredentials]
  exact halike.addAll.additions

/-- The passes leave a graph that they made. -/
theorem drafted_drafted (hg : g.Shaped) (h : g.HasWorkspace existing)
    (hfields : ∀ w, g.model? workspaceName = some w → w.fields ≠ []) :
    (g.drafted existing permitted).graph.drafted existing permitted =
      g.drafted existing permitted := by
  have hactions : (g.drafted existing permitted).graph.actions = g.actions :=
    (drafted_sound hg).actions
  have hnames : (g.drafted existing permitted).graph.models.map (·.name) = g.models.map (·.name) :=
    names_drafted h
  obtain ⟨houtputs, hcredentials⟩ := targeted_congr permitted hactions
  refine Draft.eq_of (graph_drafted_of_held (h.congr hnames) ?_ ?_)
    (additions_drafted_congr h hnames hactions)
  · exact withDisplayFields_eq_self (shown_drafted hg h hfields)
  · rw [houtputs, hcredentials]
    exact fun p hp m hm => (held_drafted h p hp).hasField hm

/-- A graph that the assistant designed has a workspace with a name. -/
theorem ofAnswer_workspace {answer : Json} (h : Graph.ofAnswer answer = .ok g) :
    ∃ w, g.model? workspaceName = some w ∧ w.fields ≠ [] := by
  obtain ⟨read, -, h⟩ := bind_eq_ok.mp h
  obtain ⟨graph, -, h⟩ := bind_eq_ok.mp h
  have hroot : g.models = graph.withPlainWorkspace.models := by
    simp only at h
    split at h
    · cases h
    · cases h
      rfl
  have hplain : ∃ w, graph.withPlainWorkspace.model? workspaceName = some w ∧ w.fields ≠ [] := by
    unfold withPlainWorkspace
    by_cases hthere : (graph.model? workspaceName).isSome
    · obtain ⟨m, hm⟩ := Option.isSome_iff_exists.mp hthere
      have hfields : m.withoutCredentials.fields ≠ [] := by
        have hname := m.plainFields_name
        rw [Model.withoutCredentials_eq]
        intro hnil
        rw [show m.plainFields = [] from hnil] at hname
        cases hname
      refine ⟨m.withoutCredentials, ?_, hfields⟩
      rw [if_pos hthere, model?_changeModel fun m => by rw [Model.withoutCredentials_eq], if_pos rfl, hm]
      rfl
    · rw [if_neg hthere]
      refine ⟨workspace [], ?_, List.cons_ne_nil _ _⟩
      show (graph.models ++ [workspace []]).find? _ = _
      have hnone : graph.models.find? (·.name == workspaceName) = none :=
        Option.not_isSome_iff_eq_none.mp hthere
      rw [List.find?_append, hnone]
      rfl
  unfold model? at hplain ⊢
  rw [hroot]
  exact hplain

/-- The names of a completed graph are new, so it has no workspace beside a stored one. -/
theorem no_workspace_of_stored {e : Enriched} (he : g.enrich existing permitted = .ok e)
    (hstored : (existing.model? workspaceName).isSome) : g.model? workspaceName = none := by
  by_contra hsome
  obtain ⟨w, hw⟩ := Option.ne_none_iff_exists'.mp hsome
  obtain ⟨old, hold⟩ := Option.isSome_iff_exists.mp hstored
  have hnames : e.graph.models.map (·.name) = g.models.map (·.name) := by
    show e.draft.graph.models.map (·.name) = _
    rw [(enrich_eq_ok he).1]
    exact names_drafted (Or.inr hstored)
  have hmem : w.name ∈ e.graph.models.map (·.name) := by
    rw [hnames]
    exact List.mem_map_of_mem (List.mem_of_find?_eq_some hw)
  obtain ⟨m, hm, hname⟩ := List.mem_map.mp hmem
  have hresolves := Scope.issues_eq_nil.mp (resolves_of_enrich he).1
  have hnew := hresolves.newModels m hm old (List.mem_of_find?_eq_some hold)
  rw [name_of_model? hold, hname, name_of_model? hw] at hnew
  exact hnew rfl

/-- Where a workspace is stored or is given with a field, as it is in every graph that the assistant
designed, completing a completed graph gives the same graph, the same fields to keep, the same
connections and the same warnings. -/
theorem enrich_idempotent :
    (∀ answer g, Graph.ofAnswer answer = .ok g →
      ∃ w, g.model? workspaceName = some w ∧ w.fields ≠ []) ∧
    ∀ (g existing : Graph) (permitted : Option (List String)) (e : Enriched), g.violations = [] →
      ((existing.model? workspaceName).isSome ∨
        ∃ w, g.model? workspaceName = some w ∧ w.fields ≠ []) →
      g.enrich existing permitted = .ok e → e.graph.enrich existing permitted = .ok e := by
  refine ⟨fun answer g => ofAnswer_workspace, fun g existing permitted e hg hw he => ?_⟩
  have hshaped := violations_eq_nil.mp hg
  have hdraft : e.draft = g.drafted existing permitted := (enrich_eq_ok he).1
  have hgraph : e.graph = (g.drafted existing permitted).graph := congrArg Draft.graph hdraft
  have hactions : e.graph.actions = g.actions := actions_of_enrich he
  have hhas : g.HasWorkspace existing := by
    rcases hw with hstored | ⟨w, hw, -⟩
    · exact Or.inr hstored
    · exact Or.inl (hw ▸ rfl)
  have hfields : ∀ w, g.model? workspaceName = some w → w.fields ≠ [] := by
    intro w hfound
    rcases hw with hstored | ⟨v, hv, hfields⟩
    · rw [no_workspace_of_stored he hstored] at hfound
      cases hfound
    · rw [hfound] at hv
      cases hv
      exact hfields
  have hagain : e.graph.drafted existing permitted = g.drafted existing permitted := by
    rw [hgraph]
    exact drafted_drafted hshaped hhas hfields
  obtain ⟨hmentioned, hservices⟩ := services_congr permitted hactions
  rw [enrich_eq, hagain, hmentioned, hservices, ← enrich_eq]
  exact he

section Newsletter

/-- A designed graph in which the workspace is not mentioned. -/
def leadAnswer : Json := .object [("models", .array [.object [("name", .string "Lead")]])]

def designedLead : Graph where
  rootModel := some "Lead"
  models := [{ name := "Lead" }, workspace []]

theorem leadAnswer_designs : Graph.ofAnswer leadAnswer = .ok designedLead := by decide

/-- Actions on a stored model, a new one and the workspace. -/
def newsletter : Graph where
  models := [{ name := "Issue" }, { name := workspaceName, fields := [.textField "team" "Team"] }]
  actions := ["Lead", "Issue", workspaceName].map fun target => postingAction ("post " ++ target) target

def completedNewsletter : Enriched where
  graph :=
    { newsletter with
      models :=
        [{ name := "Issue", fields := [.ofOutput "postUrl" "post Issue" "publish"]
           displayFields := some ["postUrl"] },
          { name := workspaceName
            fields :=
              [.textField "team" "Team", .ofOutput "postUrl" "post Workspace" "publish",
                Service.x.credentialField]
            displayFields := some ["team"] }] }
  additions := [("Lead", [.ofOutput "postUrl" "post Lead" "publish"])]
  connections := [Service.x.connection]
  warnings := []

theorem newsletter_enrich : newsletter.enrich storedLead none = .ok completedNewsletter := by decide

theorem enrich_idempotent_newsletter :
    (Graph.ofAnswer leadAnswer = .ok designedLead ∧
      ∃ w, designedLead.model? workspaceName = some w ∧ w.fields ≠ []) ∧
    newsletter.violations = [] ∧
    newsletter.enrich storedLead none = .ok completedNewsletter ∧
    completedNewsletter.graph.enrich storedLead none = .ok completedNewsletter := by
  have hg : newsletter.violations = [] := by decide
  have hw : ∃ w, newsletter.model? workspaceName = some w ∧ w.fields ≠ [] :=
    ⟨_, rfl, List.cons_ne_nil _ _⟩
  exact ⟨⟨leadAnswer_designs, enrich_idempotent.1 _ _ leadAnswer_designs⟩, hg, newsletter_enrich,
    enrich_idempotent.2 _ _ _ _ hg (Or.inr hw) newsletter_enrich⟩

end Newsletter

end Graph
end AgentSpec
