import AgentSpec.Proofs.Enrich.Fields

/-!
What steps write, their action's target model holds.

The outputs become fields before the services are looked for, so they reach every model that is
given.  They do not reach a workspace that the credentials call for: it is made afterwards, with
its name and the credentials only, and still it is a target that the look-up of names accepts.
Main statement: `Graph.outputs_held_iff`.
-/
namespace AgentSpec.Graph

variable {existing g : Graph} {permitted : Option (List String)} {e : Enriched}

theorem mem_outputsFor {a : Action} (ha : a ∈ g.actions) {s : Step} (hs : s ∈ a.steps) {n : String}
    (hn : n ∈ s.outputFields) (hblank : ¬Text.isBlank n) :
    n ∈ (g.outputsFor a.targetModel).map (·.name) := by
  have houtput : Field.ofOutput n a.name s.name ∈ a.outputs := by
    refine List.mem_flatMap.mpr ⟨s, hs, List.mem_map.mpr ⟨n, ?_, rfl⟩⟩
    exact List.mem_filter.mpr ⟨hn, by simpa using hblank⟩
  refine List.mem_map.mpr ⟨Field.ofOutput n a.name s.name, ?_, rfl⟩
  refine List.mem_flatMap.mpr ⟨a, List.mem_filter.mpr ⟨ha, ?_⟩, houtput⟩
  exact beq_self_eq_true _

theorem exists_target (h : g.enrich existing permitted = .ok e) {a : Action}
    (ha : a ∈ e.graph.actions) : ∃ m, e.draft.model? existing a.targetModel = some m := by
  have hreach := (Scope.issues_eq_nil.mp (resolves_of_enrich h).1).targets a ha
  cases hm : e.draft.model? existing a.targetModel with
  | some m => exact ⟨m, rfl⟩
  | none =>
    have hnone : e.draft.fields? existing a.targetModel = none := by rw [Draft.fields?, hm]; rfl
    obtain ⟨hnew, hold⟩ := Draft.fields?_eq_none.mp hnone
    rcases hreach with ⟨m, hm, hname⟩ | ⟨m, hm, hname⟩
    · exact absurd (beq_iff_eq.mpr hname) (List.find?_eq_none.mp hold m hm)
    · exact absurd (beq_iff_eq.mpr hname) (List.find?_eq_none.mp hnew m hm)

/-- Every output is a field of its action's target, except on a workspace that is only made for the
credentials.  There it is one if it happens to have the name of one of its fields. -/
theorem outputs_held_iff (h : g.enrich existing permitted = .ok e) :
    ∀ a ∈ e.graph.actions, ∃ m, e.draft.model? existing a.targetModel = some m ∧
      ∀ s ∈ a.steps, ∀ n ∈ s.outputFields, ¬Text.isBlank n →
        (m.hasField n ↔ (g.given? existing a.targetModel).isSome ∨
          (a.targetModel = workspaceName ∧
            (n = "name" ∨ n ∈ e.connections.map (·.fieldName)))) := by
  intro a ha
  obtain ⟨m, hm⟩ := exists_target h ha
  refine ⟨m, hm, fun s hs n hn hblank => ?_⟩
  have hfields : e.draft.fields? existing a.targetModel = some m.fields := by
    rw [Draft.fields?, hm]
    rfl
  have hcredentials : ((g.services permitted).map Service.credentialField).map (·.name) =
      e.connections.map (·.fieldName) := by
    rw [(enrich_eq_ok h).2, List.map_map, List.map_map]
    rfl
  rw [fields?_of_enrich h, givenFields?] at hfields
  simp only at hfields
  rw [Model.hasField_iff, Model.fieldNames]
  cases hgiven : g.given? existing a.targetModel with
  | some old =>
    have hout := mem_outputsFor (actions_of_enrich h ▸ ha) hs hn hblank
    simp only [hgiven, Option.map_some] at hfields
    have hmem : n ∈ m.fields.map (·.name) := by
      by_cases hw : a.targetModel = workspaceName
      · rw [if_pos hw, Option.some.injEq] at hfields
        rw [← hfields, Store.mem_names_appendNew, Store.mem_names_appendNew]
        exact Or.inl (Or.inr hout)
      · rw [if_neg hw, Option.some.injEq] at hfields
        rw [← hfields, Store.mem_names_appendNew]
        exact Or.inr hout
    simp only [hmem, Option.isSome_some, true_or]
  | none =>
    simp only [hgiven, Option.map_none] at hfields
    by_cases hw : a.targetModel = workspaceName
    · rw [if_pos hw] at hfields
      by_cases hservices : g.services permitted = []
      · rw [if_pos hservices] at hfields
        cases hfields
      · rw [if_neg hservices, Option.some.injEq] at hfields
        rw [← hfields, List.map_cons, List.mem_cons, hcredentials]
        simp only [Option.isSome_none, Bool.false_eq_true, false_or, hw, true_and]
        exact Iff.rfl
    · rw [if_neg hw] at hfields
      cases hfields

section Campaign

def postingAction (name target : String) : Action where
  name := name
  title := name
  targetModel := target
  steps :=
    [{ name := "publish", description := "Post to X", outputFields := ["postUrl"]
       config := .customCode none [] [] }]

/-- One action posts for a model of the graph, one for a workspace that nobody gave. -/
def campaign : Graph where
  models := [{ name := "Lead" }]
  actions := [postingAction "announce" "Lead", postingAction "post" workspaceName]

def completedCampaign : Enriched where
  graph :=
    { campaign with
      models :=
        [{ name := "Lead", fields := [.ofOutput "postUrl" "announce" "publish"]
           displayFields := some ["postUrl"] },
          workspace [Service.x.credentialField]] }
  additions := []
  connections := [Service.x.connection]
  warnings := []

theorem campaign_enrich : campaign.enrich {} none = .ok completedCampaign := by decide

theorem outputs_held_iff_campaign : campaign.enrich {} none = .ok completedCampaign ∧
    (∃ m, completedCampaign.draft.model? {} "Lead" = some m ∧ m.hasField "postUrl") ∧
    ∃ m, completedCampaign.draft.model? {} workspaceName = some m ∧ ¬m.hasField "postUrl" := by
  have held := outputs_held_iff campaign_enrich
  refine ⟨campaign_enrich, ?_, ?_⟩
  · obtain ⟨m, hm, hfields⟩ := held (postingAction "announce" "Lead") (by decide)
    refine ⟨m, hm, (hfields _ List.mem_cons_self _ List.mem_cons_self (by decide)).mpr ?_⟩
    exact Or.inl (by decide)
  · obtain ⟨m, hm, hfields⟩ := held (postingAction "post" workspaceName) (by decide)
    refine ⟨m, hm, fun hhas => ?_⟩
    have hiff := (hfields _ List.mem_cons_self _ List.mem_cons_self (by decide)).mp hhas
    revert hiff
    decide

/-- The output of an action on a workspace that nobody gave is lost. -/
theorem outputs_not_always_held :
    ¬∀ (g existing : Graph) (permitted : Option (List String)) (e : Enriched),
      g.violations = [] → g.enrich existing permitted = .ok e →
      ∀ a ∈ e.graph.actions, ∀ s ∈ a.steps, ∀ n ∈ s.outputFields, ¬Text.isBlank n →
        ∃ m, e.draft.model? existing a.targetModel = some m ∧ m.hasField n := by
  intro h
  obtain ⟨m, hm, hhas⟩ := h campaign {} none completedCampaign (by decide) campaign_enrich
    (postingAction "post" workspaceName) (by decide) _ List.mem_cons_self "postUrl"
    List.mem_cons_self (by decide)
  have hworkspace : m = workspace [Service.x.credentialField] := (Option.some.inj hm).symm
  rw [hworkspace] at hhas
  exact absurd hhas (by decide)

end Campaign

end AgentSpec.Graph
