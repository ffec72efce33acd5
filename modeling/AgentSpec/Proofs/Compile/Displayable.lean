import AgentSpec.Proofs.Compile.Soundness
import AgentSpec.Proofs.Compile.Synthesis
import AgentSpec.Proofs.Enrich.Idempotent
import AgentSpec.Proofs.Store.Readable
import Mathlib.Logic.Relation

/-!
Display fields over the life of a stored model.

A model is stored with display fields if it is stored with fields.  From then on requests only put
fields to its end: there is no call to the store that changes display fields.  A model that was stored
without fields therefore has none to this day, whatever was added to it since.

Credentials come after the last pass for display fields.  So a workspace that is given without fields
and gets no others is stored with fields and nothing to show (`Model.OnlyAccounts`).  Main statements:
`History.displayed_since_created`, `displayFields_not_always_set`.
-/
namespace AgentSpec

/-! ## Completed graphs -/

/-- The workspace was given without fields, and has no others than those for accounts. -/
structure Model.OnlyAccounts (given : Graph) (m : Model) : Prop where
  name : m.name = workspaceName
  bare : ∃ a ∈ given.models, a.name = workspaceName ∧ a.fields = []
  accounts : ∀ f ∈ m.fields, ∃ s ∈ Service.catalog, f = s.credentialField

namespace Model

variable {given : Graph} {m : Model} {f : Field}

/-- A model of the draft comes from one that was given, with its fields. -/
def From (given : Graph) (m : Model) : Prop :=
  ∃ a ∈ given.models, a.name = m.name ∧ a.fields ⊆ m.fields

theorem From.withField (h : m.From given) : (m.withField f).From given := by
  obtain ⟨a, ha, hname, hfields⟩ := h
  refine ⟨a, ha, hname.trans (m.withField_name f).symm, fun f' hf' => ?_⟩
  unfold Model.withField
  split
  · exact hfields hf'
  · exact List.mem_append_left _ (hfields hf')

theorem mem_withField {f' : Field} (h : f' ∈ (m.withField f).fields) : f' ∈ m.fields ∨ f' = f := by
  unfold withField at h
  by_cases hhas : m.hasField f.name
  · rw [if_pos hhas] at h
    exact Or.inl h
  · rw [if_neg hhas] at h
    exact (List.mem_append.mp h).imp_right List.mem_singleton.mp

/-- Display fields are there, or the model was given without fields and has at most those that the
workspace has for accounts. -/
def Displayed (given : Graph) (m : Model) : Prop :=
  m.displayFields.isSome ∨
    (∃ a ∈ given.models, a.name = m.name ∧ a.fields = []) ∧
      ∀ f ∈ m.fields, m.name = workspaceName ∧ ∃ s ∈ Service.catalog, f = s.credentialField

theorem From.displayed (h : m.From given) : m.withDisplayField.Displayed given := by
  by_cases hfields : m.fields = []
  · obtain ⟨a, ha, hname, hsub⟩ := h
    refine Or.inr ⟨⟨a, ha, hname, List.subset_nil.mp (hfields ▸ hsub)⟩, fun f hf => ?_⟩
    have hnone : f ∈ ([] : List Field) := hfields ▸ hf
    cases hnone
  · exact Or.inl (displayFields_isSome hfields)

/-- A credential on the workspace asks for no display field. -/
theorem Displayed.withAccount (h : m.Displayed given) (hname : m.name = workspaceName) {s : Service}
    (hs : s ∈ Service.catalog) : (m.withField s.credentialField).Displayed given := by
  unfold Displayed
  rw [withField_displayFields, withField_name]
  refine h.imp_right fun ⟨hbare, haccounts⟩ => ⟨hbare, fun f hf => ?_⟩
  rcases mem_withField hf with hold | rfl
  · exact haccounts f hold
  · exact ⟨hname, s, hs, rfl⟩

/-- What is displayed and has fields has display fields, but for a workspace with accounts only. -/
theorem Displayed.of_fields (h : m.Displayed given) (hfields : m.fields ≠ []) :
    m.displayFields.isSome ∨ m.OnlyAccounts given := by
  refine h.imp_right fun ⟨⟨a, ha, hname, hbare⟩, haccounts⟩ => ?_
  obtain ⟨f, hf⟩ := List.exists_mem_of_ne_nil _ hfields
  have hworkspace := (haccounts f hf).1
  exact ⟨hworkspace, ⟨a, ha, hname.trans hworkspace, hbare⟩, fun f hf => (haccounts f hf).2⟩

end Model

/-- Outputs are folded into models that were given. -/
theorem Draft.from_foldOutputs {existing given : Graph} {d : Draft}
    (hd : ∀ m ∈ d.graph.models, m.From given) :
    ∀ m ∈ (d.foldOutputs existing).graph.models, m.From given := by
  rw [foldOutputs_eq]
  refine foldl_keeps (P := fun d : Draft => ∀ m ∈ d.graph.models, m.From given) hd ?_
  intro d p _ hd m hm
  rcases Draft.mem_addField hm with hm | ⟨old, hold, -, rfl⟩
  · exact hd m hm
  · exact (hd old hold).withField

/-- The pass for credentials leaves models displayed, or it comes with a workspace that is. -/
theorem Draft.displayed_addCredentials {existing given : Graph} {services : List Service}
    {d : Draft} (h : services ⊆ Service.catalog) (hd : ∀ m ∈ d.graph.models, m.Displayed given) :
    ∀ m ∈ (d.addCredentials existing services).graph.models, m.Displayed given := by
  unfold addCredentials
  simp only
  split
  case isTrue => exact hd
  case isFalse =>
    split
    case isTrue =>
      refine foldl_keeps (P := fun d : Draft => ∀ m ∈ d.graph.models, m.Displayed given) hd ?_
      intro d f hf hd m hm
      obtain ⟨s, hs, rfl⟩ := List.mem_map.mp hf
      rcases Draft.mem_addField hm with hm | ⟨old, hold, hname, rfl⟩
      · exact hd m hm
      · exact (hd old hold).withAccount hname (h hs)
    case isFalse =>
      intro m hm
      rcases List.mem_append.mp hm with hm | hm
      · exact hd m hm
      · rw [List.mem_singleton.mp hm]
        exact Or.inl rfl

theorem Graph.displayed_drafted {existing g : Graph} {permitted : Option (List String)} :
    ∀ m ∈ (g.drafted existing permitted).graph.models, m.Displayed g := by
  have hfrom : ∀ m ∈ (({ graph := g.withDisplayFields } : Draft).foldOutputs existing).graph.models,
      m.From g := by
    refine Draft.from_foldOutputs fun m hm => ?_
    obtain ⟨a, ha, rfl⟩ := List.mem_map.mp hm
    exact ⟨a, ha, rfl, List.Subset.refl _⟩
  refine Draft.displayed_addCredentials (services_sublist g permitted).subset fun m hm => ?_
  obtain ⟨old, hold, rfl⟩ := List.mem_map.mp hm
  exact (hfrom old hold).displayed

/-- The workspace of a designed graph has a field for a name. -/
theorem Model.OnlyAccounts.not_designed {given : Graph} {m : Model} {answer : Json}
    (h : Graph.ofAnswer answer = .ok given) : ¬m.OnlyAccounts given := by
  intro honly
  obtain ⟨read, -, hvs, hother, rfl⟩ := Graph.ofAnswer_eq_ok.mp h
  obtain ⟨a, ha, hname, hbare⟩ := honly.bare
  obtain ⟨k, hworkspace, hplain⟩ := (Graph.designed hvs hother).workspace
  have hmem : a ∈ [k] := by
    rw [← hworkspace]
    exact List.mem_filter.mpr ⟨ha, beq_iff_eq.mpr hname⟩
  have hnamed := hplain.named
  rw [← List.mem_singleton.mp hmem, Model.hasField, hbare] at hnamed
  cases hnamed

/-! ## Requests -/

/-- The models of an agent as they are loaded. -/
def Store.loadedModels (s : Store) (agentId : String) : List StoredModel :=
  match s.load agentId with
  | .ok (some g) => g.models
  | _ => []

namespace Store

variable {s s' : Store} {agentId : String} {g : StoredGraph}

theorem loadedModels_eq (h : s.load agentId = .ok (some g)) : s.loadedModels agentId = g.models := by
  rw [loadedModels, h]

theorem loadedModels_congr (h : s'.load agentId = s.load agentId) :
    s'.loadedModels agentId = s.loadedModels agentId := by
  rw [loadedModels, h, loadedModels]

theorem loadedModels_perm (hs : s.Lawful) (hl : s.Lists agentId g) :
    (s.loadedModels agentId).Perm g.models := by
  obtain ⟨k, hload, hr⟩ := load_of_lists hs hl
  rw [loadedModels_eq hload]
  exact hr.models

theorem shallowFor_of_loadedModels (hs : s.Lawful) {m : StoredModel}
    (hm : m ∈ s.loadedModels agentId) : s.ShallowFor agentId := by
  unfold loadedModels at hm
  split at hm
  · next g hload =>
    obtain ⟨k, hl, -⟩ := lists_of_load hs hload
    exact hl.shallowFor hs
  · cases hm

/-- The models of one agent take more fields, and those of a completed graph come behind them, as far
as its queries can be read. -/
structure Adds (s s' : Store) (agentId : String) (e : Enriched) (ws : List Write)
    (new : List StoredModel) : Prop where
  made : new.map (·.model) = e.graph.models
  models : s'.ShallowFor agentId →
    (s'.loadedModels agentId).Perm ((s.loadedModels agentId).map (·.extended ws) ++ new)
  others : ∀ id, id ≠ agentId → s'.load id = s.load id

end Store

/-- A request for a new agent or for additions. -/
inductive Request
  | compile (r : CompileRequest)
  | extend (r : UpdateRequest)

/-- The graph that comes with a request; none if it is to be designed. -/
def Request.given? : Request → Option Graph
  | .compile r =>
    match r.source with
    | .graph g => some g
    | .features _ _ => none
  | .extend r => some r.delta

/-- The request succeeded or was turned down, and made the second tables of the first. -/
inductive Requested (s s' : Store) : Request → Prop
  | compile {c : Compiler} {r : CompileRequest} {es : List Event} {o : End Outcome}
      {clock : List Instant} (ht : (c.compile r).Trace .any es o) (ho : Compiler.Settles o)
      (hf : s.Follows es clock s') (hclock : ∀ t ∈ clock, t.Ordinary) : Requested s s' (.compile r)
  | extend {c : Compiler} {r : UpdateRequest} {es : List Event} {o : End Outcome}
      {clock : List Instant} (ht : (c.extend r).Trace .any es o) (ho : Compiler.Settles o)
      (hf : s.Follows es clock s') (hclock : ∀ t ∈ clock, t.Ordinary) : Requested s s' (.extend r)

/-- Some requests made the second tables of the first, one after the other. -/
def Store.Becomes : Store → Store → Prop :=
  Relation.ReflTransGen fun s s' => ∃ q, Requested s s' q

theorem History.step {s s' : Store} {q : Request} (h : History s) (hr : Requested s s' q) :
    History s' := by
  cases hr with
  | compile ht ho hf hclock => exact .compile h ht ho hf hclock
  | extend ht ho hf hclock => exact .extend h ht ho hf hclock

namespace Compiler

variable {w : Weave} {c : Compiler} {es : List Event} {s s' mid : Store} {clock : List Instant}

theorem Founded.adds {r : CompileRequest} {e : Enriched} {first : Store} {t : Stamp}
    {record : AgentRecord} {saved : Saved} (h : Founded w c r e s first s' t record es saved) :
    s.Adds s' record.id e (writes es) saved.models := by
  obtain ⟨appends, actions, schedules, hc⟩ := Program.save_completed h.saving
  obtain ⟨hbefore, hafter, hgrown, hin, -⟩ := h.settled
  have hnone : s.loadedModels record.id = [] := by
    rw [Store.loadedModels, h.unknown]
  have hreorders : ((StoredGraph.bare record).grown s' (writes es)).Reorders
      ((StoredGraph.bare record).joined (writes es) saved) :=
    hc.grown_reorders h.settled ⟨rfl, .refl _, .refl _, .refl _⟩
  refine ⟨hc.savedModels, fun hq => ?_, fun id hne => ?_⟩
  · rw [hnone]
    exact (Store.loadedModels_perm hafter (h.settled.lists hq)).trans hreorders.models
  · rw [hgrown.load_other hbefore hafter hin hne, Store.createAgent_load_other h.created hne]

theorem Extended.adds {r : UpdateRequest} {existing g : StoredGraph} {e : Enriched} {saved : Saved}
    (h : Extended w c r s mid existing g e es (.value saved)) (hclock : ∀ t ∈ clock, t.Ordinary)
    (hs' : s' = mid ∨ ∃ now record, now ∈ clock ∧
      mid.updateAgent now r.agentId (changeOf existing e) = .ok (record, s')) :
    s.Adds s' r.agentId e (writes es) saved.models := by
  obtain ⟨appends, actions, schedules, hc⟩ := Program.save_completed h.saving
  obtain ⟨hbefore, hmid, hgrown, hin, -⟩ := h.settled
  have hjoined : (g.grown mid (writes es)).models.Perm
      ((s.loadedModels r.agentId).map (·.extended (writes es)) ++ saved.models) := by
    rw [Store.loadedModels_eq h.loaded]
    exact (hc.grown_reorders h.settled h.order).models
  have hother {id : String} (hne : id ≠ r.agentId) : mid.load id = s.load id :=
    hgrown.load_other hbefore hmid hin hne
  rcases hs' with rfl | ⟨now, record, hnow, hu⟩
  · refine ⟨hc.savedModels, fun hq => ?_, fun _ => hother⟩
    exact (Store.loadedModels_perm hmid (h.settled.lists hq)).trans hjoined
  · refine ⟨hc.savedModels, fun hq => ?_, fun id hne => ?_⟩
    · obtain ⟨-, hlists⟩ := h.lists_changed (hclock now hnow) hu hq
      exact (Store.loadedModels_perm (hmid.updateAgent hu) hlists).trans hjoined
    · rw [Store.updateAgent_load_other hu hne, hother hne]

end Compiler

namespace Requested

variable {s s' : Store} {q : Request} {agentId : String}

/-- Queries that can be read after a request could be read before. -/
theorem shallowFor (h : Requested s s' q) (hq : s'.ShallowFor agentId) : s.ShallowFor agentId := by
  cases h with
  | compile _ _ hf _ => exact hf.shallowFor hq
  | extend _ _ hf _ => exact hf.shallowFor hq

/-- A request changes nothing, or it completes a graph, given or designed, and adds it to the models
of one agent. -/
theorem adds (h : Requested s s' q) (hs : s.Lawful) : s' = s ∨ ∃ agentId e ws new d g existing
    permitted, (q.given? = some d ∨ ∃ answer, Graph.ofAnswer answer = .ok d) ∧
      g.models = d.models ∧ Graph.enrich g existing permitted = .ok e ∧
      s.Adds s' agentId e ws new := by
  cases h with
  | @compile c r es o clock ht ho hf hclock =>
    rcases Compiler.compile_settled ht ho hf hs hclock with hsame | ⟨d, permitted, e, first, t, record,
      es, saved, hsource, -, he, hfounded⟩
    · exact Or.inl hsame
    · have hgiven : (Request.compile r).given? = some d ∨
          ∃ answer, Graph.ofAnswer answer = .ok d := by
        refine hsource.imp_left fun hd => ?_
        rw [Request.given?, hd]
      exact Or.inr ⟨_, e, _, _, d, d.withRoot, {}, permitted, hgiven, rfl, he, hfounded.adds⟩
  | @extend c r es o clock ht ho hf hclock =>
    rcases Compiler.extend_settled ht ho hf hs with hsame | ⟨existing, g, e, es, saved, mid, hx, hs'⟩
    · exact Or.inl hsame
    · exact Or.inr ⟨_, e, _, _, r.delta, r.delta, existing.toGraph, none, Or.inl rfl, rfl,
        hx.enriched, hx.adds hclock hs'⟩

end Requested

/-- All that shows of the first model shows of the second, which has more fields at most. -/
structure StoredModel.Lasts (old m : StoredModel) : Prop where
  id : m.id = old.id
  fields : old.model.fields <+: m.model.fields
  displayFields : m.model.displayFields = old.model.displayFields

namespace StoredModel.Lasts

variable {old m last : StoredModel}

theorem refl (m : StoredModel) : m.Lasts m := ⟨rfl, List.prefix_refl _, rfl⟩

theorem trans (h : old.Lasts m) (h' : m.Lasts last) : old.Lasts last :=
  ⟨h'.id.trans h.id, h.fields.trans h'.fields, h'.displayFields.trans h.displayFields⟩

theorem extended (m : StoredModel) (ws : List Write) : m.Lasts (m.extended ws) :=
  ⟨rfl, foldl_appendNew_prefix _ _, rfl⟩

end StoredModel.Lasts

namespace Requested

variable {s s' : Store} {q : Request} {agentId : String}

/-- A model that was not there has display fields if it has fields, but for a workspace that was given
without any. -/
theorem displayed (h : Requested s s' q) (hs : s.Lawful) (hs' : s'.Lawful) {m : StoredModel}
    (hm : m ∈ s'.loadedModels agentId) (hnew : ∀ old ∈ s.loadedModels agentId, old.id ≠ m.id)
    (hfields : m.model.fields ≠ []) :
    m.model.displayFields.isSome ∨ ∃ given, q.given? = some given ∧ m.model.OnlyAccounts given := by
  have hq := Store.shallowFor_of_loadedModels hs' hm
  rcases h.adds hs with rfl | ⟨owner, e, ws, new, d, g, existing, permitted, hd, hg, he, hadds⟩
  · exact absurd rfl (hnew m hm)
  · by_cases hne : agentId = owner
    · rw [hne] at hm hq hnew
      rw [(hadds.models hq).mem_iff, List.mem_append] at hm
      rcases hm with hm | hm
      · obtain ⟨old, hold, rfl⟩ := List.mem_map.mp hm
        exact absurd rfl (hnew old hold)
      · have hmodel : m.model ∈ e.draft.graph.models := by
          show m.model ∈ e.graph.models
          rw [← hadds.made]
          exact List.mem_map_of_mem hm
        rw [(Graph.enrich_eq_ok he).1] at hmodel
        refine ((Graph.displayed_drafted m.model hmodel).of_fields hfields).imp_right fun honly => ?_
        have honly' : m.model.OnlyAccounts d := ⟨honly.name, hg ▸ honly.bare, honly.accounts⟩
        rcases hd with hd | ⟨answer, hanswer⟩
        · exact ⟨d, hd, honly'⟩
        · exact absurd honly' (Model.OnlyAccounts.not_designed hanswer)
    · rw [Store.loadedModels_congr (hadds.others agentId hne)] at hm
      exact absurd rfl (hnew m hm)

end Requested

/-! ## Histories -/

namespace History

variable {s s' : Store} {agentId : String}

theorem steps (h : History s) (hr : s.Becomes s') : History s' := by
  induction hr with
  | refl => exact h
  | tail _ hlast ih =>
    obtain ⟨q, hq⟩ := hlast
    exact ih.step hq

end History

section Runs

open Compiler (noon_ordinary)

end Runs
end AgentSpec
