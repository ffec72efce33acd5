import AgentSpec.Proofs.Compile.Permitted

/-!
What an agent is connected to depends on what its custom code is said to do, and on nothing else.

The services are collected from step to step and sorted afterwards, so neither the order nor the number
of the steps that mention one shows in the result: it is the catalog without the services that no step
mentions, split by what is permitted.  Main statement: `Graph.connections_required`.
-/
namespace AgentSpec.Graph

variable {g g' existing : Graph} {permitted : Option (List String)} {e : Enriched}

instance (g : Graph) (s : Service) : Decidable (g.Mentions s) :=
  inferInstanceAs (Decidable (∃ a ∈ g.actions, ∃ step ∈ a.steps, _ ∧ _))

/-- Some step with custom code has this description. -/
def Describes (g : Graph) (text : String) : Prop :=
  ∃ a ∈ g.actions, ∃ step ∈ a.steps, step.kind = .customCode ∧ step.description = text

theorem mentions_iff {s : Service} : g.Mentions s ↔ ∃ text, g.Describes text ∧ s.isMentioned text := by
  constructor
  · rintro ⟨a, ha, step, hstep, hcode, hs⟩
    exact ⟨step.description, ⟨a, ha, step, hstep, hcode, rfl⟩, hs⟩
  · rintro ⟨_, ⟨a, ha, step, hstep, hcode, rfl⟩, hs⟩
    exact ⟨a, ha, step, hstep, hcode, hs⟩

theorem mentionedServices_eq : g.mentionedServices = Service.catalog.filter fun s => g.Mentions s := by
  rw [mentionedServices_eq_filter]
  refine List.filter_congr fun s _ => ?_
  rw [Bool.eq_iff_iff, decide_eq_true_iff, mentions_iff, List.any_eq_true]
  simp only [mem_codeDescriptions]
  rfl

/-- The mentioned services that satisfy a condition, in the order of the catalog. -/
theorem filter_mentionedServices (p : Service → Bool) : g.mentionedServices.filter p =
    Service.catalog.filter fun s => g.Mentions s ∧ p s := by
  rw [mentionedServices_eq, List.filter_filter]
  refine List.filter_congr fun s _ => ?_
  rw [Bool.eq_iff_iff, Bool.and_eq_true, decide_eq_true_iff, decide_eq_true_iff, and_comm]

/-- Graphs whose custom code is described alike mention the same services. -/
theorem mentionedServices_congr (h : ∀ text, g'.Describes text ↔ g.Describes text) :
    g'.mentionedServices = g.mentionedServices := by
  have hmentions (s : Service) : g'.Mentions s ↔ g.Mentions s := by
    rw [mentions_iff, mentions_iff]
    simp only [h]
  rw [mentionedServices_eq, mentionedServices_eq]
  simp only [hmentions]

/-- A completed graph is connected to the services of the catalog that its custom code mentions and
that are permitted, and warns of those that are not, both in the order of the catalog and once each.
The rest of the graph, and the order and number of the steps, do not matter. -/
theorem connections_required (h : g.enrich existing permitted = .ok e) :
    e.connections = (Service.catalog.filter fun s => g.Mentions s ∧ s.isAllowed permitted).map
      Service.connection ∧
    e.warnings = (Service.catalog.filter fun s => g.Mentions s ∧ ¬s.isAllowed permitted).map
      (.notPermitted ·.provider) ∧
    (e.connections.map (·.provider)).Nodup ∧ e.warnings.Nodup ∧
    ∀ (g' existing' : Graph) (e' : Enriched), g'.enrich existing' permitted = .ok e' →
      (∀ text, g'.Describes text ↔ g.Describes text) →
      e'.connections = e.connections ∧ e'.warnings = e.warnings := by
  refine ⟨?_, ?_, connections_of_enrich h, warnings_nodup h, fun g' existing' e' h' halike => ?_⟩
  · rw [(enrich_eq_ok h).2, services, filter_mentionedServices]
  · rw [warnings_of_enrich h, filter_mentionedServices]
    simp only [Bool.not_eq_true', Bool.not_eq_true]
  · rw [(enrich_eq_ok h').2, (enrich_eq_ok h).2, warnings_of_enrich h', warnings_of_enrich h, services,
      services, mentionedServices_congr halike]
    exact ⟨rfl, rfl⟩

section Witness

/-- One action whose steps are described like this. -/
def telling (texts : List String) : Graph where
  models := [{ name := "Idea" }]
  actions :=
    [{ name := "announce", title := "Announce", targetModel := "Idea"
       steps := texts.map fun text => { name := text, description := text, config := .uncoded } }]

theorem telling_describes {texts : List String} {text : String} :
    (telling texts).Describes text ↔ text ∈ texts := by
  simp [Describes, telling, Step.kind, StepConfig.uncoded, StepConfig.kind]

theorem connections_required_telling : ∃ e e',
    (telling ["Tell Slack", "Post to X"]).enrich {} (some [" X "]) = .ok e ∧
    (telling ["Post to X", "Tell Slack", "Post to X"]).enrich {} (some [" X "]) = .ok e' ∧
    (∀ text, (telling ["Post to X", "Tell Slack", "Post to X"]).Describes text ↔
      (telling ["Tell Slack", "Post to X"]).Describes text) ∧
    e'.connections = e.connections ∧ e'.warnings = e.warnings ∧
    e.connections = [Service.x.connection] ∧ e.warnings = [.notPermitted "slack"] := by
  have hruns (texts : List String) (h : ((telling texts).enrich {} (some [" X "])).toOption.isSome) :
      ∃ e, (telling texts).enrich {} (some [" X "]) = .ok e := by
    obtain ⟨e, he⟩ := Option.isSome_iff_exists.mp h
    exact ⟨e, eq_ok_of_toOption he⟩
  obtain ⟨e, he⟩ := hruns ["Tell Slack", "Post to X"] (by decide +kernel)
  obtain ⟨e', he'⟩ := hruns ["Post to X", "Tell Slack", "Post to X"] (by decide +kernel)
  have halike (text : String) : (telling ["Post to X", "Tell Slack", "Post to X"]).Describes text ↔
      (telling ["Tell Slack", "Post to X"]).Describes text := by
    rw [telling_describes, telling_describes]
    simp only [List.mem_cons, List.not_mem_nil, or_false]
    tauto
  obtain ⟨hconnections, hwarnings, -, -, hsame⟩ := connections_required he
  obtain ⟨hc, hw⟩ := hsame _ _ e' he' halike
  refine ⟨e, e', he, he', halike, hc, hw, ?_, ?_⟩
  · rw [hconnections]
    decide +kernel
  · rw [hwarnings]
    decide +kernel

end Witness

end AgentSpec.Graph
