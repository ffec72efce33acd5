import AgentSpec.Proofs.Enrich.Outputs

/-!
Completing a graph only adds to it.

All passes share one graph and the fields that are kept beside it for stored models.  A pass fills in
display fields, or it puts a field of a new name to the end of a model, so each given model is
extended by the one at its place in the completed graph.  Behind these stands a new workspace at most.

What is well-formed stays so.  Display fields in particular name fields of their model after every
pass, so the look-up of names cannot object to them.  Main statement: `Graph.enrich_conservative`.
-/
namespace AgentSpec

/-! ## Models that are extended -/

/-- Fields that can be put behind others: their names are not blank, distinct and new. -/
structure NewFields (old more : List Field) : Prop where
  names : ∀ f ∈ more, ¬Text.isBlank f.name
  distinct : (more.map (·.name)).Nodup
  fresh : ∀ f ∈ more, f.name ∉ old.map (·.name)

namespace NewFields

variable {old more last : List Field}

theorem nil (old : List Field) : NewFields old [] :=
  ⟨List.forall_mem_nil _, List.nodup_nil, List.forall_mem_nil _⟩

theorem append (h : NewFields old more) (h' : NewFields (old ++ more) last) :
    NewFields old (more ++ last) := by
  have hfresh : ∀ f ∈ last, f.name ∉ old.map (·.name) ∧ f.name ∉ more.map (·.name) := by
    intro f hf
    have hnew := h'.fresh f hf
    rw [List.map_append, List.mem_append, not_or] at hnew
    exact hnew
  refine ⟨List.forall_mem_append.mpr ⟨h.names, h'.names⟩, ?_, ?_⟩
  · rw [List.map_append, List.nodup_append]
    refine ⟨h.distinct, h'.distinct, ?_⟩
    intro a ha b hb heq
    obtain ⟨f, hf, rfl⟩ := List.mem_map.mp hb
    exact (hfresh f hf).2 (heq ▸ ha)
  · exact List.forall_mem_append.mpr ⟨h.fresh, fun f hf => (hfresh f hf).1⟩

end NewFields

theorem Field.WellFormed.name {f : Field} (h : f.WellFormed) : ¬Text.isBlank f.name := by
  have hv := h ""
  unfold Field.violations at hv
  rw [List.append_eq_nil_iff, List.append_eq_nil_iff] at hv
  exact blankViolation_eq_nil.mp hv.1.1

/-- What can be appended to a stored model. -/
theorem Additions.Fit.newFields {fields : List Field} {m : Model} (h : Additions.Fit fields m) :
    NewFields m.fields fields :=
  ⟨fun f hf => (h.wellFormed f hf).name, h.names, h.fresh⟩

namespace Model

/-- The second model is the first with new fields at its end, and with display fields if the first
had none. -/
def ExtendsTo (old m : Model) : Prop :=
  ∃ more shown, NewFields old.fields more ∧
    m = { old with fields := old.fields ++ more, displayFields := old.displayFields <|> shown }

theorem ExtendsTo.refl (m : Model) : m.ExtendsTo m := by
  refine ⟨[], none, .nil _, ?_⟩
  cases m
  simp

theorem ExtendsTo.trans {old m last : Model} (h : old.ExtendsTo m) (h' : m.ExtendsTo last) :
    old.ExtendsTo last := by
  obtain ⟨more, shown, hnew, rfl⟩ := h
  obtain ⟨more', shown', hnew', rfl⟩ := h'
  refine ⟨more ++ more', shown <|> shown', hnew.append hnew', ?_⟩
  have hshown : ((old.displayFields <|> shown) <|> shown') =
      (old.displayFields <|> (shown <|> shown')) := by
    cases old.displayFields <;> rfl
  rw [hshown, List.append_assoc]

theorem ExtendsTo.name {old m : Model} (h : old.ExtendsTo m) : m.name = old.name := by
  obtain ⟨more, shown, -, rfl⟩ := h
  rfl

/-- Display fields that are there stay. -/
theorem ExtendsTo.displayFields {old m : Model} (h : old.ExtendsTo m)
    (hshown : old.displayFields.isSome) : m.displayFields = old.displayFields := by
  obtain ⟨more, shown, -, rfl⟩ := h
  obtain ⟨names, hnames⟩ := Option.isSome_iff_exists.mp hshown
  rw [hnames]
  rfl

theorem extendsTo_withField (m : Model) {f : Field} (hf : ¬Text.isBlank f.name) :
    m.ExtendsTo (m.withField f) := by
  unfold withField
  by_cases h : m.hasField f.name
  · rw [if_pos h]
    exact .refl m
  · rw [if_neg h]
    have hfresh : f.name ∉ m.fields.map (·.name) := fun hmem => h (hasField_iff.mpr hmem)
    refine ⟨[f], none, ⟨?_, List.nodup_singleton _, ?_⟩, ?_⟩
    · exact List.forall_mem_singleton.mpr hf
    · exact List.forall_mem_singleton.mpr hfresh
    · cases m
      simp

theorem withField_displayFields (m : Model) (f : Field) :
    (m.withField f).displayFields = m.displayFields := by
  unfold withField
  by_cases h : m.hasField f.name
  · rw [if_pos h]
  · rw [if_neg h]

theorem extendsTo_withDisplayField (m : Model) : m.ExtendsTo m.withDisplayField := by
  refine ⟨[], m.displayField?.map fun f => [f.name], .nil _, ?_⟩
  rw [List.append_nil]
  rfl

end Model

/-! ## The passes -/

namespace Graph

variable {g : Graph} {name : String} {change : Model → Model}

theorem forall₂_changeModel {r : Model → Model → Prop} (hsame : ∀ m, r m m)
    (hchange : ∀ m, r m (change m)) :
    List.Forall₂ r g.models (g.changeModel name change).models := by
  unfold changeModel
  generalize g.models = models
  induction models with
  | nil => exact .nil
  | cons m rest ih =>
    unfold changeModel.go
    by_cases h : m.name == name
    · rw [if_pos h]
      exact .cons (hchange m) (List.forall₂_same.mpr fun m _ => hsame m)
    · rw [if_neg h]
      exact .cons (hsame m) ih

theorem extends_withDisplayFields :
    List.Forall₂ Model.ExtendsTo g.models g.withDisplayFields.models := by
  show List.Forall₂ _ g.models (g.models.map Model.withDisplayField)
  rw [List.forall₂_map_right_iff, List.forall₂_same]
  exact fun m _ => m.extendsTo_withDisplayField

/-- A graph has a model of this name exactly if a graph with the same names has. -/
theorem model?_eq_none_congr {g' : Graph} (h : g'.models.map (·.name) = g.models.map (·.name)) :
    g'.model? name = none ↔ g.model? name = none := by
  have hnone (k : Graph) : k.model? name = none ↔ name ∉ k.models.map (·.name) := by
    unfold model?
    rw [List.find?_eq_none, List.mem_map, not_exists]
    simp only [beq_iff_eq, not_and]
  rw [hnone, hnone, h]

end Graph

theorem forall₂_extendsTo_refl (models : List Model) :
    List.Forall₂ Model.ExtendsTo models models :=
  List.forall₂_same.mpr fun m _ => .refl m

theorem forall₂_extendsTo_trans {as bs cs : List Model} (h : List.Forall₂ Model.ExtendsTo as bs)
    (h' : List.Forall₂ Model.ExtendsTo bs cs) : List.Forall₂ Model.ExtendsTo as cs :=
  forall₂_trans h h' fun _ _ _ => Model.ExtendsTo.trans

theorem names_of_extends {as bs : List Model} (h : List.Forall₂ Model.ExtendsTo as bs) :
    bs.map (·.name) = as.map (·.name) :=
  forall₂_map_eq (h.flip.imp fun _ _ => Model.ExtendsTo.name)

namespace Draft

variable {existing : Graph} {d : Draft} {name : String}

theorem mem_addField {f : Field} {m : Model} (h : m ∈ (d.addField existing name f).graph.models) :
    m ∈ d.graph.models ∨ ∃ old ∈ d.graph.models, old.name = name ∧ m = old.withField f := by
  unfold addField at h
  cases hnew : d.graph.model? name with
  | some k =>
    rw [hnew] at h
    exact Graph.mem_changeModel h
  | none =>
    rw [hnew] at h
    cases hold : existing.model? name with
    | none =>
      rw [hold] at h
      exact Or.inl h
    | some k =>
      rw [hold] at h
      simp only at h
      split at h <;> exact Or.inl h

theorem extends_addField {f : Field} (hf : ¬Text.isBlank f.name) :
    List.Forall₂ Model.ExtendsTo d.graph.models (d.addField existing name f).graph.models := by
  unfold addField
  cases d.graph.model? name with
  | some m => exact Graph.forall₂_changeModel .refl fun m => m.extendsTo_withField hf
  | none =>
    cases existing.model? name with
    | none => exact forall₂_extendsTo_refl _
    | some m =>
      simp only
      split <;> exact forall₂_extendsTo_refl _

theorem extends_addFields {fields : List Field} (hf : ∀ f ∈ fields, ¬Text.isBlank f.name) :
    List.Forall₂ Model.ExtendsTo d.graph.models
      (fields.foldl (fun d f => d.addField existing name f) d).graph.models :=
  foldl_keeps (P := fun d' : Draft => List.Forall₂ Model.ExtendsTo d.graph.models d'.graph.models)
    (forall₂_extendsTo_refl _) fun _ f hmem h =>
      forall₂_extendsTo_trans h (extends_addField (hf f hmem))

theorem extends_foldOutputs :
    List.Forall₂ Model.ExtendsTo d.graph.models (d.foldOutputs existing).graph.models :=
  foldl_keeps (P := fun d' : Draft => List.Forall₂ Model.ExtendsTo d.graph.models d'.graph.models)
    (forall₂_extendsTo_refl _) fun _ a _ h =>
      forall₂_extendsTo_trans h
        (extends_addFields fun f hf => (a.outputs_wellFormed f hf).1.name)

/-- Credentials extend the models too, or they come with a workspace that nobody had. -/
theorem extends_addCredentials {services : List Service} (h : services ⊆ Service.catalog) :
    ∃ given new, (d.addCredentials existing services).graph.models = given ++ new ∧
      List.Forall₂ Model.ExtendsTo d.graph.models given ∧
      (new = [] ∨ ∃ w : Model, new = [w] ∧ w.name = workspaceName ∧
        d.graph.model? workspaceName = none ∧ existing.model? workspaceName = none) := by
  have hnames : ∀ f ∈ services.map Service.credentialField, ¬Text.isBlank f.name := by
    intro f hf
    obtain ⟨s, hs, rfl⟩ := List.mem_map.mp hf
    exact (Service.wellFormed_credentialField (h hs)).name
  unfold addCredentials
  simp only
  split
  case isTrue => exact ⟨_, [], (List.append_nil _).symm, forall₂_extendsTo_refl _, Or.inl rfl⟩
  case isFalse =>
    split
    case isTrue => exact ⟨_, [], (List.append_nil _).symm, extends_addFields hnames, Or.inl rfl⟩
    case isFalse hthere =>
      rw [Bool.or_eq_true, not_or, Option.not_isSome_iff_eq_none,
        Option.not_isSome_iff_eq_none] at hthere
      exact ⟨_, _, rfl, forall₂_extendsTo_refl _, Or.inr ⟨_, rfl, rfl, hthere.1, hthere.2⟩⟩

end Draft

/-! ## Completed graphs -/

namespace Graph

variable {g existing : Graph} {permitted : Option (List String)}

/-- What is looked through for names: the graph after all passes, and the fields kept beside it. -/
def drafted (g existing : Graph) (permitted : Option (List String)) : Draft :=
  (g.withOutputs existing).addCredentials existing (g.services permitted)

theorem services_sublist (g : Graph) (permitted : Option (List String)) :
    (g.services permitted).Sublist Service.catalog :=
  List.filter_sublist.trans g.mentionedServices_sublist

theorem extends_withOutputs :
    List.Forall₂ Model.ExtendsTo g.models (g.withOutputs existing).graph.models := by
  have hfold : List.Forall₂ Model.ExtendsTo g.withDisplayFields.models
      (({ graph := g.withDisplayFields } : Draft).foldOutputs existing).graph.models :=
    Draft.extends_foldOutputs (d := { graph := g.withDisplayFields })
  exact forall₂_extendsTo_trans extends_withDisplayFields
    (forall₂_extendsTo_trans hfold extends_withDisplayFields)

theorem extends_drafted (g existing : Graph) (permitted : Option (List String)) :
    ∃ given new, (g.drafted existing permitted).graph.models = given ++ new ∧
      List.Forall₂ Model.ExtendsTo g.models given ∧
      (new = [] ∨ ∃ w : Model, new = [w] ∧ w.name = workspaceName ∧
        g.model? workspaceName = none ∧ existing.model? workspaceName = none) := by
  have hout : List.Forall₂ Model.ExtendsTo g.models (g.withOutputs existing).graph.models :=
    extends_withOutputs
  obtain ⟨given, new, hmodels, hgiven, hnew⟩ := Draft.extends_addCredentials
    (d := g.withOutputs existing) (services_sublist g permitted).subset
  refine ⟨given, new, hmodels, forall₂_extendsTo_trans hout hgiven, hnew.imp_right ?_⟩
  rintro ⟨w, rfl, hname, hnone, hold⟩
  exact ⟨w, rfl, hname, (model?_eq_none_congr (names_of_extends hout)).mp hnone, hold⟩

theorem drafted_sound (hg : g.Shaped) : (g.drafted existing permitted).Sound existing g :=
  (withOutputs_sound hg.models hg.modelNames).addCredentials (services_sublist g permitted)

/-- Of a well-formed model only references can be at fault. -/
theorem modelIssues_of_wellFormed {m : Model} (h : m.WellFormed) (s : Scope) :
    s.modelIssues m = m.fields.flatMap fun f =>
      f.reference.toList.flatMap (s.referenceIssues (m.path ++ "." ++ f.name)) := by
  have hnone : (m.displayFields.getD []).filter (!m.hasField ·) = [] := by
    rw [List.filter_eq_nil_iff]
    intro n hn
    simp [h.displayFields n hn]
  rw [Scope.modelIssues, hnone, List.map_nil, List.append_nil]

end Graph

/-- A completed graph is the given one with additions only.  Its own models and the stored ones take
new fields at their end, the former display fields too, and all are well-formed afterwards. -/
structure Enriched.Conservative (e : Enriched) (existing g : Graph) : Prop where
  root : e.graph.rootModel = g.rootModel
  actions : e.graph.actions = g.actions
  schedules : e.graph.schedules = g.schedules
  /-- At most a workspace is new, and only if there was none. -/
  models : ∃ given new, e.graph.models = given ++ new ∧
    List.Forall₂ Model.ExtendsTo g.models given ∧
    (new = [] ∨ ∃ w : Model, new = [w] ∧ w.name = workspaceName ∧
      g.model? workspaceName = none ∧ existing.model? workspaceName = none)
  wellFormed : e.graph.violations = []
  keys : (e.additions.map (·.1)).Nodup
  additions : ∀ add ∈ e.additions, ∃ m, existing.model? add.1 = some m ∧
    NewFields m.fields add.2 ∧ ({ m with fields := m.fields ++ add.2 } : Model).violations = []

namespace Graph

variable {g existing : Graph} {permitted : Option (List String)} {e : Enriched}

/-- A graph that is completed keeps all that it has, and stays well-formed together with the models
that it is added to.  Whether or not its names resolve, the look-up finds no fault in display
fields: all it can say of a model is about references. -/
theorem enrich_conservative (hg : g.violations = [])
    (hx : ∀ m ∈ existing.models, m.violations = []) :
    (∀ m ∈ (g.drafted existing permitted).graph.models, ∀ s : Scope,
      s.modelIssues m = m.fields.flatMap fun f =>
        f.reference.toList.flatMap (s.referenceIssues (m.path ++ "." ++ f.name))) ∧
    ∀ e, g.enrich existing permitted = .ok e → e.Conservative existing g := by
  have hg := violations_eq_nil.mp hg
  have hd : (g.drafted existing permitted).Sound existing g := drafted_sound hg
  refine ⟨fun m hm s => modelIssues_of_wellFormed (hd.models m hm) s, ?_⟩
  intro e he
  have hdraft : g.drafted existing permitted = e.draft := (enrich_eq_ok he).1.symm
  obtain ⟨given, new, hmodels, hgiven, hnew⟩ := extends_drafted g existing permitted
  rw [hdraft] at hd hmodels
  have hactions : e.graph.actions = g.actions := hd.actions
  have hschedules : e.graph.schedules = g.schedules := hd.schedules
  refine ⟨hd.root, hactions, hschedules, ⟨given, new, hmodels, hgiven, hnew⟩, ?_, hd.sorted.nodup, ?_⟩
  · rw [violations_eq_nil]
    refine ⟨hd.modelNames, ?_, ?_, fun n hn => hg.root n (hd.root.symm.trans hn), hd.models, ?_, ?_⟩
    · rw [hactions]
      exact hg.actionNames
    · rw [hschedules]
      exact hg.scheduleNames
    · rw [hactions]
      exact hg.actions
    · rw [hschedules]
      exact hg.schedules
  · intro add hadd
    obtain ⟨m, hm, hfit⟩ := hd.additions add hadd
    have hold : m.WellFormed := Model.violations_eq_nil.mp (hx m (List.mem_of_find?_eq_some hm))
    refine ⟨m, hm, hfit.newFields, Model.violations_eq_nil.mpr ?_⟩
    exact hold.append hfit.wellFormed hfit.names hfit.fresh

section Outreach

/-- Two actions post, one of them on a stored model. -/
def outreach : Graph where
  models := [{ name := "Draft" }]
  actions := [postingAction "announce" "Lead", postingAction "write" "Draft"]

def storedLead : Graph where
  models := [{ name := "Lead", fields := [.textField "name" "Name"], displayFields := some ["name"] }]

def completedOutreach : Enriched where
  graph :=
    { outreach with
      models :=
        [{ name := "Draft", fields := [.ofOutput "postUrl" "write" "publish"]
           displayFields := some ["postUrl"] },
          workspace [Service.x.credentialField]] }
  additions := [("Lead", [.ofOutput "postUrl" "announce" "publish"])]
  connections := [Service.x.connection]
  warnings := []

theorem outreach_enrich : outreach.enrich storedLead none = .ok completedOutreach := by decide

theorem enrich_conservative_outreach : outreach.violations = [] ∧
    (∀ m ∈ storedLead.models, m.violations = []) ∧
    outreach.enrich storedLead none = .ok completedOutreach ∧
    completedOutreach.Conservative storedLead outreach := by
  have hg : outreach.violations = [] := by decide
  have hx : ∀ m ∈ storedLead.models, m.violations = [] := by decide
  exact ⟨hg, hx, outreach_enrich, (enrich_conservative hg hx).2 _ outreach_enrich⟩

end Outreach

end Graph
end AgentSpec
