import AgentSpec.Compile.Basic
import AgentSpec.Proofs.Enrich.Draft
import AgentSpec.Proofs.Results

/-!
Graphs that are completed are well-formed, whether users give them or the assistant designs them.

A designed graph is checked before the credentials are taken off its workspace; what is left of the
workspace is well-formed too (`Model.WellFormed.withoutCredentials`).
-/
namespace AgentSpec

theorem checked_eq_ok {vs : List Violation} {a b : α} (h : checked vs a = .ok b) :
    vs = [] ∧ a = b := by
  unfold checked at h
  by_cases hvs : vs.isEmpty
  · rw [if_pos hvs] at h
    exact ⟨List.isEmpty_iff.mp hvs, Except.ok.inj h⟩
  · rw [if_neg hvs] at h
    cases h

/-! ## The workspace without credentials -/

/-- The field that a workspace without a name gets. -/
def nameField : Field := { Field.textField "name" "Name" with required := true }

theorem nameField_wellFormed : nameField.WellFormed := fun _ => rfl

namespace Model

variable {m : Model}

/-- The fields that are left of a workspace, with a name among them. -/
def plainFields (m : Model) : List Field :=
  let kept := m.fields.filter (!·.isCredential)
  if kept.any (·.name == "name") then kept else nameField :: kept

theorem mem_plainFields {f : Field} (h : f ∈ m.plainFields) : f = nameField ∨ f ∈ m.fields := by
  unfold plainFields at h
  simp only at h
  split at h
  · exact Or.inr (List.mem_of_mem_filter h)
  · exact (List.mem_cons.mp h).imp_right List.mem_of_mem_filter

theorem plainFields_nodup (h : m.fieldNames.Nodup) : (m.plainFields.map (·.name)).Nodup := by
  have hsub : (m.fields.filter (!·.isCredential)).Sublist m.fields := List.filter_sublist
  have hkept : ((m.fields.filter (!·.isCredential)).map (·.name)).Nodup := h.sublist (hsub.map _)
  unfold plainFields
  simp only
  split
  case isTrue => exact hkept
  case isFalse hno =>
    refine List.nodup_cons.mpr ⟨fun hmem => hno ?_, hkept⟩
    obtain ⟨f, hf, hname⟩ := List.mem_map.mp hmem
    exact List.any_eq_true.mpr ⟨f, hf, beq_iff_eq.mpr hname⟩

theorem plainFields_name : m.plainFields.any (·.name == "name") := by
  unfold plainFields
  simp only
  split
  case isTrue h => exact h
  case isFalse => rfl

/-- A field that is left under a name is the new one or the old one of this name. -/
theorem find?_plainFields (h : m.fieldNames.Nodup) {n : String}
    (hn : m.plainFields.any (·.name == n)) :
    ∃ f, m.plainFields.find? (·.name == n) = some f ∧ (f = nameField ∨ m.field? n = some f) := by
  obtain ⟨f, hf, hname⟩ := List.any_eq_true.mp hn
  have hname : f.name = n := beq_iff_eq.mp hname
  refine ⟨f, hname ▸ find?_of_mem (plainFields_nodup h) hf, ?_⟩
  exact (mem_plainFields hf).imp_right fun hmem => hname ▸ find?_of_mem h hmem

theorem withoutCredentials_eq (m : Model) : m.withoutCredentials =
    { m with
      fields := m.plainFields
      displayFields := m.displayFields.map fun names =>
        match names.filter fun n => m.plainFields.any (·.name == n) with
        | [] => ["name"]
        | kept => kept
      forms := m.forms.map fun form =>
        { form with fields := form.fields.filter fun n => m.plainFields.any (·.name == n) } } := by
  unfold withoutCredentials plainFields hasField
  simp only
  split <;> rfl

theorem WellFormed.withoutCredentials (h : m.WellFormed) : m.withoutCredentials.WellFormed := by
  rw [withoutCredentials_eq]
  refine ⟨h.name, plainFields_nodup h.fieldNames, fun f hf => ?_, fun n hn => ?_,
    fun form hform => ?_⟩
  · rcases mem_plainFields hf with rfl | hf
    · exact nameField_wellFormed
    · exact h.fields f hf
  · cases hd : m.displayFields with
    | none =>
      rw [hd] at hn
      cases hn
    | some names =>
      rw [hd, Option.map_some, Option.getD_some] at hn
      cases hk : names.filter fun n => m.plainFields.any (·.name == n) with
      | nil =>
        rw [hk] at hn
        rw [List.mem_singleton.mp hn]
        exact plainFields_name
      | cons k rest =>
        rw [hk] at hn
        have hmem : n ∈ names.filter fun n => m.plainFields.any (·.name == n) := hk ▸ hn
        exact (List.mem_filter.mp hmem).2
  · obtain ⟨old, hold, rfl⟩ := List.mem_map.mp hform
    obtain ⟨hname, hfields⟩ := h.forms old hold
    refine ⟨hname, fun n hn => ?_⟩
    obtain ⟨hn, hplain⟩ := List.mem_filter.mp hn
    obtain ⟨f, hf, hsource⟩ := find?_plainFields h.fieldNames hplain
    refine ⟨f, hf, ?_⟩
    rcases hsource with rfl | hsource
    · exact fun hderived => Bool.false_ne_true hderived.1
    · obtain ⟨f', hf', hd⟩ := hfields n hn
      rw [hsource] at hf'
      cases hf'
      exact hd

end Model

/-! ## Designed graphs -/

namespace Graph

variable {g : Graph}

theorem Shaped.withRoot (h : g.Shaped) : g.withRoot.Shaped := by
  refine { h with root := fun n hn => ?_ }
  cases hr : g.rootModel with
  | some root =>
    rw [Graph.withRoot, hr] at hn
    cases hn
    exact h.root n hr
  | none =>
    have hn : g.defaultRoot? = some n := by
      rw [Graph.withRoot, hr] at hn
      exact hn
    obtain ⟨m, hm, rfl⟩ := Option.map_eq_some_iff.mp hn
    exact (h.models m (List.mem_of_find?_eq_some hm)).name

theorem Shaped.withPlainWorkspace (h : g.Shaped) : g.withPlainWorkspace.Shaped := by
  unfold Graph.withPlainWorkspace
  by_cases hthere : (g.model? workspaceName).isSome
  · rw [if_pos hthere]
    have hnames : (g.changeModel workspaceName Model.withoutCredentials).models.map (·.name) =
        g.models.map (·.name) := changeModel_names fun m => by rw [Model.withoutCredentials_eq]
    refine { h with modelNames := ?_, models := fun m hm => ?_ }
    · rw [hnames]
      exact h.modelNames
    · rcases mem_changeModel hm with hm | ⟨old, hold, -, rfl⟩
      · exact h.models m hm
      · exact (h.models old hold).withoutCredentials
  · rw [if_neg hthere]
    refine { h with modelNames := ?_, models := ?_ }
    · rw [List.map_append, List.nodup_append]
      refine ⟨h.modelNames, List.nodup_singleton _, fun n hn k hk heq => hthere ?_⟩
      obtain ⟨m, hm, rfl⟩ := List.mem_map.mp hn
      have hname : m.name = workspaceName := heq.trans (List.mem_singleton.mp hk)
      exact List.find?_isSome.mpr ⟨m, hm, beq_iff_eq.mpr hname⟩
    · exact List.forall_mem_append.mpr ⟨h.models,
        List.forall_mem_singleton.mpr (@workspace_wellFormed [] (List.nil_sublist _))⟩

theorem ofAnswer_shaped {answer : Json} (h : Graph.ofAnswer answer = .ok g) : g.Shaped := by
  obtain ⟨read, -, h⟩ := bind_eq_ok.mp h
  obtain ⟨graph, hchecked, h⟩ := bind_eq_ok.mp h
  have hshaped : graph.Shaped := by
    cases hc : checked read.violations read with
    | error vs =>
      rw [hc] at hchecked
      cases hchecked
    | ok k =>
      rw [hc] at hchecked
      cases hchecked
      obtain ⟨hvs, rfl⟩ := checked_eq_ok hc
      exact violations_eq_nil.mp hvs
  simp only at h
  split at h
  · cases h
  · cases h
    exact hshaped.withPlainWorkspace.withRoot

end Graph

/-- The graph that a compilation completes. -/
theorem CompileRequest.graph_shaped {r : CompileRequest} {g : Graph} (h : r.violations = [])
    (hg : r.source = .graph g ∨ ∃ answer, Graph.ofAnswer answer = .ok g) : g.withRoot.Shaped := by
  rcases hg with hg | ⟨answer, hg⟩
  · rw [violations, List.append_eq_nil_iff] at h
    have hsource := h.2
    rw [hg, Source.violations, List.append_eq_nil_iff] at hsource
    exact (Graph.violations_eq_nil.mp hsource.2).withRoot
  · exact (Graph.ofAnswer_shaped hg).withRoot

theorem UpdateRequest.delta_shaped {r : UpdateRequest} (h : r.violations = []) : r.delta.Shaped := by
  rw [violations, List.append_eq_nil_iff] at h
  exact Graph.violations_eq_nil.mp h.2

end AgentSpec
