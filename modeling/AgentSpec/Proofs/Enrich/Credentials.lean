import AgentSpec.Proofs.Enrich.Fields
import AgentSpec.Proofs.Store.Grown

/-!
Every service that an agent is connected to has a field of its name in the workspace.

It need not be a credential.  What is added to a model is compared by name only, so a field of the
service's name that the author gave, or that a step's output became just before, keeps the
credential out.  Main statement: `Graph.account_held_iff`.
-/
namespace AgentSpec

/-- The field of this name is one for an account, and no step writes it. -/
def Field.HoldsAccount (f : Field) (name : String) : Prop :=
  f.name = name ∧ f.type = .oauth ∧ f.derived = false

instance (f : Field) (name : String) : Decidable (f.HoldsAccount name) :=
  inferInstanceAs (Decidable (_ ∧ _ ∧ _))

/-- Some field is for the account of this name. -/
abbrev HoldAccount (fields : List Field) (name : String) : Prop :=
  ∃ f ∈ fields, f.HoldsAccount name

namespace Store

variable {old fields : List Field} {name : String}

theorem mem_appendNew_old {f : Field} (h : f ∈ old) : f ∈ appendNew old fields :=
  (prefix_appendNew old fields).subset h

/-- Outputs are no credentials. -/
theorem holdAccount_appendNew_derived (h : ∀ f ∈ fields, f.derived = true) :
    HoldAccount (appendNew old fields) name ↔ HoldAccount old name := by
  constructor
  · rintro ⟨f, hf, haccount⟩
    rcases mem_appendNew hf with hf | ⟨hf, -⟩
    · exact ⟨f, hf, haccount⟩
    · have hderived := h f hf
      rw [haccount.2.2] at hderived
      cases hderived
  · rintro ⟨f, hf, haccount⟩
    exact ⟨f, mem_appendNew_old hf, haccount⟩

/-- A credential finds its place exactly if its name is free, or a credential has it already. -/
theorem holdAccount_appendNew (h : ∀ f ∈ fields, f.HoldsAccount f.name)
    (hname : name ∈ fields.map (·.name)) :
    HoldAccount (appendNew old fields) name ↔ HoldAccount old name ∨ name ∉ old.map (·.name) := by
  constructor
  · rintro ⟨f, hf, haccount⟩
    rcases mem_appendNew hf with hf | ⟨-, hnew⟩
    · exact Or.inl ⟨f, hf, haccount⟩
    · exact Or.inr (haccount.1 ▸ hnew)
  · rintro (⟨f, hf, haccount⟩ | hfree)
    · exact ⟨f, mem_appendNew_old hf, haccount⟩
    · have hmem : name ∈ (appendNew old fields).map (·.name) :=
        mem_names_appendNew.mpr (Or.inr hname)
      obtain ⟨f, hf, rfl⟩ := List.mem_map.mp hmem
      rcases mem_appendNew hf with hold | ⟨hnew, -⟩
      · exact absurd (List.mem_map_of_mem hold) hfree
      · exact ⟨f, hf, h f hnew⟩

end Store

namespace Graph

variable {existing g : Graph} {permitted : Option (List String)} {e : Enriched}

theorem derived_of_mem_outputsFor {model : String} :
    ∀ f ∈ g.outputsFor model, f.derived = true := by
  intro f hf
  obtain ⟨a, -, hf⟩ := List.mem_flatMap.mp hf
  obtain ⟨s, -, hf⟩ := List.mem_flatMap.mp hf
  obtain ⟨n, -, rfl⟩ := List.mem_map.mp hf
  rfl

theorem holdsAccount_of_service {services : List Service} :
    ∀ f ∈ services.map Service.credentialField, f.HoldsAccount f.name := by
  intro f hf
  obtain ⟨s, -, rfl⟩ := List.mem_map.mp hf
  exact ⟨rfl, rfl, rfl⟩

/-- The workspace has a field for every connection.  It is a credential exactly if the given
workspace has that credential, or leaves its name to it, as the outputs of the steps must too. -/
theorem account_held_iff (h : g.enrich existing permitted = .ok e) :
    ∀ c ∈ e.connections, ∃ w, e.draft.model? existing workspaceName = some w ∧
      w.hasField c.fieldName ∧
      (HoldAccount w.fields c.fieldName ↔ ∀ m, g.given? existing workspaceName = some m →
        HoldAccount m.fields c.fieldName ∨
          (c.fieldName ∉ m.fieldNames ∧
            c.fieldName ∉ (g.outputsFor workspaceName).map (·.name))) := by
  intro c hc
  rw [(enrich_eq_ok h).2] at hc
  obtain ⟨s, hs, rfl⟩ := List.mem_map.mp hc
  have hname : s.fieldName ∈ ((g.services permitted).map Service.credentialField).map (·.name) :=
    List.mem_map_of_mem (List.mem_map_of_mem hs)
  have hfields := fields?_of_enrich h workspaceName
  simp only [givenFields?, if_true] at hfields
  show ∃ w : Model, _ ∧ _ ∧ (HoldAccount w.fields s.fieldName ↔ _)
  cases hgiven : g.given? existing workspaceName with
  | some m =>
    simp only [hgiven, Option.map_some] at hfields
    obtain ⟨w, hw, hwf⟩ := Option.map_eq_some_iff.mp hfields
    refine ⟨w, hw, ?_, ?_⟩
    · rw [Model.hasField_iff, Model.fieldNames, hwf]
      exact Store.mem_names_appendNew.mpr (Or.inr hname)
    · rw [hwf, Store.holdAccount_appendNew holdsAccount_of_service hname,
        Store.holdAccount_appendNew_derived derived_of_mem_outputsFor, Store.mem_names_appendNew,
        not_or]
      constructor
      · intro hholds m' hm'
        cases hm'
        exact hholds
      · intro hall
        exact hall m rfl
  | none =>
    have hsome : g.services permitted ≠ [] := List.ne_nil_of_mem hs
    simp only [hgiven, Option.map_none, if_neg hsome] at hfields
    obtain ⟨w, hw, hwf⟩ := Option.map_eq_some_iff.mp hfields
    refine ⟨w, hw, ?_, ?_⟩
    · rw [Model.hasField_iff, Model.fieldNames, hwf]
      exact List.mem_cons_of_mem _ hname
    · have hholds : HoldAccount w.fields s.fieldName := by
        refine ⟨s.credentialField, ?_, rfl, rfl, rfl⟩
        rw [hwf]
        exact List.mem_cons_of_mem _ (List.mem_map_of_mem hs)
      simp only [hholds, true_iff]
      intro m hm
      cases hm

section Announcement

/-- One step tells two services and keeps something under the name of the credential of one. -/
def announcement : Graph where
  models := [{ name := workspaceName, fields := [.textField "name" "Name"] }]
  actions :=
    [{ name := "announce", title := "announce", targetModel := workspaceName
       steps :=
        [{ name := "publish", description := "Post to X and tell Slack", outputFields := ["xAuth"]
           config := .customCode none [] [] }] }]

def completedAnnouncement : Enriched where
  graph :=
    { announcement with
      models :=
        [{ name := workspaceName
           fields :=
            [.textField "name" "Name", .ofOutput "xAuth" "announce" "publish",
              Service.slack.credentialField]
           displayFields := some ["name"] }] }
  additions := []
  connections := [Service.x.connection, Service.slack.connection]
  warnings := []

theorem announcement_enrich : announcement.enrich {} none = .ok completedAnnouncement := by decide

theorem account_held_iff_announcement : announcement.enrich {} none = .ok completedAnnouncement ∧
    (∃ w, completedAnnouncement.draft.model? {} workspaceName = some w ∧
      HoldAccount w.fields "slackAuth") ∧
    ∃ w, completedAnnouncement.draft.model? {} workspaceName = some w ∧
      w.hasField "xAuth" ∧ ¬HoldAccount w.fields "xAuth" := by
  have held := account_held_iff announcement_enrich
  refine ⟨announcement_enrich, ?_, ?_⟩
  · obtain ⟨w, hw, -, hiff⟩ := held Service.slack.connection (by decide)
    refine ⟨w, hw, hiff.mpr fun m hm => ?_⟩
    cases hm
    exact Or.inr (by decide)
  · obtain ⟨w, hw, hhas, hiff⟩ := held Service.x.connection (by decide)
    refine ⟨w, hw, hhas, fun haccount => ?_⟩
    have hnot := hiff.mp haccount _ rfl
    revert hnot
    decide

/-- A step's output keeps a credential out of the workspace. -/
theorem account_not_always_held :
    ¬∀ (g existing : Graph) (permitted : Option (List String)) (e : Enriched),
      g.violations = [] → g.enrich existing permitted = .ok e →
      ∀ c ∈ e.connections, ∃ w, e.draft.model? existing workspaceName = some w ∧
        HoldAccount w.fields c.fieldName := by
  intro h
  obtain ⟨w, hw, haccount⟩ := h announcement {} none completedAnnouncement (by decide)
    announcement_enrich Service.x.connection (by decide)
  cases hw
  revert haccount
  decide

end Announcement

end Graph
end AgentSpec
