import AgentSpec.Proofs.Compile.Synthesis
import AgentSpec.Proofs.Enrich.Fields

/-!
Designed agents get accounts only for services that they may use.

An account can come to the workspace of a designed graph from its author, from an output of a step or
from a service that custom code mentions.  The author's accounts are taken off before the graph is
completed and outputs are texts, so only the last way is open.  Main statement:
`Graph.accounts_permitted`.
-/
namespace AgentSpec

namespace Graph

variable {g : Graph} {permitted : List String} {e : Enriched} {s : Service}

/-- A step with custom code mentions the service. -/
def Mentions (g : Graph) (s : Service) : Prop :=
  ∃ a ∈ g.actions, ∃ step ∈ a.steps, step.kind = .customCode ∧ s.isMentioned step.description

/-- A service of the catalog that is mentioned and permitted. -/
structure Grants (g : Graph) (permitted : List String) (s : Service) : Prop where
  known : s ∈ Service.catalog
  mentioned : g.Mentions s
  permitted : Service.isPermitted s.provider permitted

/-! ## Services that are mentioned -/

theorem mem_codeDescriptions {text : String} : text ∈ g.codeDescriptions ↔
    ∃ a ∈ g.actions, ∃ step ∈ a.steps, step.kind = .customCode ∧ step.description = text := by
  unfold codeDescriptions
  rw [List.mem_filterMap]
  constructor
  · rintro ⟨step, hstep, htext⟩
    obtain ⟨a, ha, hstep⟩ := List.mem_flatMap.mp hstep
    split at htext
    case isTrue hcode =>
      exact ⟨a, ha, step, hstep, beq_iff_eq.mp hcode, Option.some.inj htext⟩
    case isFalse => cases htext
  · rintro ⟨a, ha, step, hstep, hcode, rfl⟩
    exact ⟨step, List.mem_flatMap.mpr ⟨a, ha, hstep⟩, if_pos (beq_iff_eq.mpr hcode)⟩

theorem mem_mentionedServices :
    s ∈ g.mentionedServices ↔ s ∈ Service.catalog ∧ g.Mentions s := by
  rw [mentionedServices_eq_filter]
  simp only [List.mem_filter, List.any_eq_true, mem_codeDescriptions]
  refine and_congr_right fun _ => ?_
  constructor
  · rintro ⟨_, ⟨a, ha, step, hstep, hcode, rfl⟩, hs⟩
    exact ⟨a, ha, step, hstep, hcode, hs⟩
  · rintro ⟨a, ha, step, hstep, hcode, hs⟩
    exact ⟨_, ⟨a, ha, step, hstep, hcode, rfl⟩, hs⟩

theorem mem_services : s ∈ g.services (some permitted) ↔ g.Grants permitted s := by
  unfold services
  rw [List.mem_filter, mem_mentionedServices]
  constructor
  · rintro ⟨⟨hknown, hmentioned⟩, hallowed⟩
    exact ⟨hknown, hmentioned, hallowed⟩
  · intro h
    exact ⟨⟨h.known, h.mentioned⟩, h.permitted⟩

/-! ## Accounts on the workspace -/

/-- Nothing is stored yet, so a model is completed in the new graph itself. -/
theorem model?_draft_empty (e : Enriched) (name : String) :
    e.draft.model? {} name = e.graph.model? name := by
  show (e.graph.model? name <|> none) = _
  cases e.graph.model? name <;> rfl

theorem model?_of_filter {name : String} {m : Model}
    (h : g.models.filter (·.name == name) = [m]) : g.model? name = some m := by
  unfold model?
  rw [← List.head?_filter, h]
  rfl

theorem noAccount_of_outputsFor {model : String} {f : Field} (hf : f ∈ g.outputsFor model) :
    f.type ≠ .oauth := by
  obtain ⟨a, -, hf⟩ := List.mem_flatMap.mp hf
  obtain ⟨step, -, hf⟩ := List.mem_flatMap.mp hf
  obtain ⟨n, -, rfl⟩ := List.mem_map.mp hf
  intro h
  cases h

/-- A plain workspace is completed by accounts for services that are granted, and by no other. -/
theorem accounts_of_enrich {m : Model} (hm : g.model? workspaceName = some m) (hplain : m.Plain)
    (he : g.enrich {} (some permitted) = .ok e) :
    ∃ w, e.graph.model? workspaceName = some w ∧ ∀ f ∈ w.fields, f.type = .oauth →
      ∃ s, g.Grants permitted s ∧ f = s.credentialField := by
  have hgiven : g.givenFields? {} workspaceName = some m.fields := by
    unfold givenFields? given? Scope.model?
    rw [hm]
    rfl
  have hfields := fields?_of_enrich he workspaceName
  simp only [hgiven, Option.map_some, if_true] at hfields
  unfold Draft.fields? at hfields
  rw [model?_draft_empty] at hfields
  obtain ⟨w, hw, hwf⟩ := Option.map_eq_some_iff.mp hfields
  refine ⟨w, hw, fun f hf haccount => ?_⟩
  rw [hwf] at hf
  rcases Store.mem_appendNew hf with hf | ⟨hf, -⟩
  · rcases Store.mem_appendNew hf with hf | ⟨hf, -⟩
    · exact absurd haccount (hplain.noAccount f hf)
    · exact absurd haccount (noAccount_of_outputsFor hf)
  · obtain ⟨s, hs, rfl⟩ := List.mem_map.mp hf
    exact ⟨s, mem_services.mp hs, rfl⟩

/-! ## Warnings -/

theorem warnings_of_enrich {existing : Graph} {permitted : Option (List String)}
    (he : g.enrich existing permitted = .ok e) : e.warnings =
      (g.mentionedServices.filter (!·.isAllowed permitted)).map (.notPermitted ·.provider) := by
  unfold enrich at he
  simp only at he
  split at he
  · cases he
    rfl
  · cases he

theorem mem_warnings_of_enrich {warning : Warning} (he : g.enrich {} (some permitted) = .ok e) :
    warning ∈ e.warnings ↔ ∃ s ∈ Service.catalog, g.Mentions s ∧
      ¬Service.isPermitted s.provider permitted ∧ warning = .notPermitted s.provider := by
  rw [warnings_of_enrich he]
  simp only [List.mem_map, List.mem_filter, mem_mentionedServices, Bool.not_eq_true',
    Service.isAllowed, Option.all_some]
  constructor
  · rintro ⟨s, ⟨⟨hknown, hmentioned⟩, hnot⟩, rfl⟩
    exact ⟨s, hknown, hmentioned, Bool.eq_false_iff.mp hnot, rfl⟩
  · rintro ⟨s, hknown, hmentioned, hnot, rfl⟩
    exact ⟨s, ⟨⟨hknown, hmentioned⟩, Bool.eq_false_iff.mpr hnot⟩, rfl⟩

/-- The providers of the catalog differ, and each of its services is collected once. -/
theorem warnings_nodup {existing : Graph} {permitted : Option (List String)}
    (he : g.enrich existing permitted = .ok e) : e.warnings.Nodup := by
  have hcatalog : (Service.catalog.map fun s => Warning.notPermitted s.provider).Nodup := by decide
  have hsub : (g.mentionedServices.filter (!·.isAllowed permitted)).Sublist Service.catalog :=
    List.filter_sublist.trans g.mentionedServices_sublist
  rw [warnings_of_enrich he]
  exact hcatalog.sublist (hsub.map _)

/-- The workspace of a completed design has accounts for granted services only, and so have its
connections.  Each service that is mentioned and not permitted is told once, and nothing else. -/
theorem accounts_permitted {answer : Json} (hg : ofAnswer answer = .ok g)
    (he : g.enrich {} (some permitted) = .ok e) :
    (∃ w, e.graph.model? workspaceName = some w ∧ ∀ f ∈ w.fields, f.type = .oauth →
      ∃ s, g.Grants permitted s ∧ f = s.credentialField) ∧
    (∀ c ∈ e.connections, ∃ s, g.Grants permitted s ∧ c = s.connection) ∧
    (∀ s ∈ Service.catalog, g.Mentions s → ¬Service.isPermitted s.provider permitted →
      e.warnings.count (.notPermitted s.provider) = 1) ∧
    ∀ warning ∈ e.warnings, ∃ s ∈ Service.catalog, g.Mentions s ∧
      ¬Service.isPermitted s.provider permitted ∧ warning = .notPermitted s.provider := by
  obtain ⟨read, -, hvs, hother, rfl⟩ := ofAnswer_eq_ok.mp hg
  obtain ⟨m, hm, hplain⟩ := (designed hvs hother).workspace
  refine ⟨accounts_of_enrich (model?_of_filter hm) hplain he, ?_, ?_, ?_⟩
  · intro c hc
    rw [(enrich_eq_ok he).2] at hc
    obtain ⟨s, hs, rfl⟩ := List.mem_map.mp hc
    exact ⟨s, mem_services.mp hs, rfl⟩
  · intro s hknown hmentioned hnot
    refine List.count_eq_one_of_mem (warnings_nodup he) ?_
    exact (mem_warnings_of_enrich he).mpr ⟨s, hknown, hmentioned, hnot, rfl⟩
  · intro warning hwarning
    exact (mem_warnings_of_enrich he).mp hwarning

section Witness

/-- A design that has given itself an account, and whose only step tells a service that it may use
and one that it may not. -/
def tellingDesign : Json :=
  .ofMembers [
    ("models", .array [
      .ofMembers [
        ("name", .string "Workspace"),
        ("fields", .array [.ofMembers [
          ("name", .string "gmailAuth"), ("title", .string "Gmail"), ("type", .string "oauth")]])],
      .ofMembers [("name", .string "Idea"), ("fields", .array [])]]),
    ("actions", .array [
      .ofMembers [
        ("name", .string "announce"), ("title", .string "Announce"),
        ("targetModel", .string "Idea"),
        ("steps", .array [.ofMembers [
          ("name", .string "publish"), ("description", .string "Post to X and tell Slack"),
          ("kind", .string "custom_code")]])]])]

theorem accounts_permitted_tellingDesign : ∃ g e, ofAnswer tellingDesign = .ok g ∧
    g.enrich {} (some [" X "]) = .ok e ∧ e.connections = [Service.x.connection] ∧
    e.warnings.count (.notPermitted "slack") = 1 ∧
    ∃ w, e.graph.model? workspaceName = some w ∧ ∀ f ∈ w.fields, f.type = .oauth →
      ∃ s, g.Grants [" X "] s ∧ f = s.credentialField := by
  have hruns : (ofAnswer tellingDesign).toOption.any fun g =>
      (g.enrich {} (some [" X "])).toOption.any fun e =>
        e.connections == [Service.x.connection] && g.mentionedServices.contains Service.slack := by
    decide +kernel
  cases hg : ofAnswer tellingDesign with
  | error fault =>
    rw [hg] at hruns
    cases hruns
  | ok g =>
    rw [hg] at hruns
    cases he : g.enrich {} (some [" X "]) with
    | error issues =>
      simp only [Except.toOption, Option.any_some, he] at hruns
      cases hruns
    | ok e =>
      simp only [Except.toOption, Option.any_some, he, Bool.and_eq_true, beq_iff_eq,
        List.contains_iff_mem] at hruns
      obtain ⟨hconnections, hslack⟩ := hruns
      obtain ⟨haccounts, -, hwarnings, -⟩ := accounts_permitted hg he
      have hmentioned := (mem_mentionedServices.mp hslack).2
      exact ⟨g, e, rfl, he, hconnections,
        hwarnings Service.slack (by decide) hmentioned (by decide), haccounts⟩

end Witness

end Graph
end AgentSpec
