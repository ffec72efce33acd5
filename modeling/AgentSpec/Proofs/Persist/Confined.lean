import AgentSpec.Proofs.Persist.Stages
import AgentSpec.Proofs.Store.Frame

/-!
A run writes for its own agent only, wherever it stops.
-/
namespace AgentSpec

theorem mem_writes {es : List Event} {w : Write} :
    w ∈ writes es ↔ ∃ x ∈ es, x.write? = some w := List.mem_filterMap

namespace Store.Confined

variable {s : Store} {agentId : String} {ws ws' : List Write}

theorem nil : s.Confined agentId [] := by
  constructor <;> simp

/-- Writes that come in parts, each for the agent. -/
theorem of_parts (h : ∀ w ∈ ws, ∃ part, w ∈ part ∧ (∀ v ∈ part, v ∈ ws) ∧ s.Confined agentId part) :
    s.Confined agentId ws := by
  constructor
  · intro new record hw
    obtain ⟨part, hp, -, hin⟩ := h _ hw
    exact hin.agents new record hp
  · intro id change record hw
    obtain ⟨part, hp, -, hin⟩ := h _ hw
    exact hin.changes id change record hp
  · intro id m hw
    obtain ⟨part, hp, -, hin⟩ := h _ hw
    exact hin.models id m hp
  · intro id fs hw
    obtain ⟨part, hp, -, hin⟩ := h _ hw
    exact hin.fields id fs hp
  · intro owner id modelId a hw
    obtain ⟨part, hp, -, hin⟩ := h _ hw
    exact hin.actions owner id modelId a hp
  · intro id t hw
    obtain ⟨part, hp, hsub, hin⟩ := h _ hw
    obtain ⟨modelId, a, ha⟩ := hin.steps id t hp
    exact ⟨modelId, a, hsub _ ha⟩
  · intro owner id c hw
    obtain ⟨part, hp, -, hin⟩ := h _ hw
    exact hin.schedules owner id c hp
  · intro id t hw
    obtain ⟨part, hp, hsub, hin⟩ := h _ hw
    obtain ⟨c, hc⟩ := hin.turns id t hp
    exact ⟨c, hsub _ hc⟩

theorem append (h : s.Confined agentId ws) (h' : s.Confined agentId ws') :
    s.Confined agentId (ws ++ ws') := by
  refine of_parts fun w hw => ?_
  rcases List.mem_append.mp hw with hw | hw
  · exact ⟨ws, hw, fun v hv => List.mem_append_left _ hv, h⟩
  · exact ⟨ws', hw, fun v hv => List.mem_append_right _ hv, h'⟩

theorem of_model (m : StoredModel) : s.Confined agentId [.model agentId m] := by
  constructor <;> simp +contextual

theorem of_fields {id : String} {fs : List Field}
    (h : ∃ r ∈ s.models, r.id = id ∧ r.agentId = agentId) :
    s.Confined agentId [.fields id fs] := by
  constructor <;> simp +contextual [h]

/-- An action and steps that are written under it. -/
theorem of_action (id modelId : String) (a : Action) (steps : List StoredStep) :
    s.Confined agentId (.action agentId id modelId a :: steps.map (.step id)) := by
  constructor <;> simp +contextual

/-- A schedule and turns that are written under it. -/
theorem of_schedule (id : String) (c : Schedule) (turns : List StoredTurn) :
    s.Confined agentId (.schedule agentId id c :: turns.map (.turn id)) := by
  constructor <;> simp +contextual

end Store.Confined

namespace Program

variable {w : Weave} {es : List Event} {s : Store} {agentId : String}

theorem stage_confined {plan : Except (List Issue) γ} {strands : γ → List (Strand β)}
    {milestone : List β → Milestone} {result : List β → δ} {o : End δ}
    (h : (stage plan strands milestone result).Trace w es o)
    (hin : ∀ p, plan = .ok p → ∀ st ∈ strands p, ∀ l e, st.Trace l e →
      s.Confined agentId (writes l)) : s.Confined agentId (writes es) := by
  rcases stage_writes h with hw | ⟨p, es', o', hp, ht, hw⟩
  · rw [hw]
    exact .nil
  · rw [hw]
    refine .of_parts fun v hv => ?_
    obtain ⟨x, hx, hxv⟩ := mem_writes.mp hv
    obtain ⟨st, hst, l, e, htr, hxl, hsub⟩ := ht.exists_trace hx
    refine ⟨writes l, mem_writes.mpr ⟨x, hxl, hxv⟩, fun u hu => ?_, hin p hp st hst l e htr⟩
    obtain ⟨y, hy, hyu⟩ := mem_writes.mp hu
    exact mem_writes.mpr ⟨y, hsub y hy, hyu⟩

variable {coding : Bool} {known : Known}

theorem saveModels_confined {models : List Model} {additions : Additions} {o : End (List StoredModel)}
    (h : (saveModels agentId models additions known).Trace w es o)
    (hold : ∀ add ∈ additions, ∀ id, known.models.lookup add.1 = some id →
      ∃ r ∈ s.models, r.id = id ∧ r.agentId = agentId) : s.Confined agentId (writes es) := by
  rw [saveModels_eq] at h
  refine stage_confined h fun appends hplan st hst l e htr => ?_
  rcases List.mem_append.mp hst with hst | hst
  · obtain ⟨m, -, rfl⟩ := List.mem_map.mp hst
    rcases Strand.saveModel_writes htr with hw | ⟨id, hw⟩
    · exact hw ▸ .nil
    · exact hw ▸ .of_model _
  · obtain ⟨p, hp, rfl⟩ := List.mem_map.mp hst
    obtain ⟨add, hadd, hid, -⟩ := forall₂_mem_right (Known.resolveAdditions_eq_ok.mp hplan) hp
    rcases Strand.appendFields_writes htr with hw | hw
    · exact hw ▸ .nil
    · exact hw ▸ .of_fields (hold add hadd p.1 hid)

theorem saveActions_confined {actions : List Action} {o : End (List StoredAction × List Warning)}
    (h : (saveActions coding agentId actions known).Trace w es o) :
    s.Confined agentId (writes es) := by
  rw [saveActions_eq] at h
  refine stage_confined h fun targets _ st hst l e htr => ?_
  obtain ⟨t, -, rfl⟩ := List.mem_map.mp hst
  rcases Strand.saveAction_writes htr with hw | ⟨id, steps, hw⟩
  · exact hw ▸ .nil
  · exact hw ▸ .of_action id t.2 t.1 steps

theorem saveSchedules_confined {schedules : List Schedule} {o : End (List StoredSchedule)}
    (h : (saveSchedules agentId schedules known).Trace w es o) :
    s.Confined agentId (writes es) := by
  rw [saveSchedules_eq] at h
  refine stage_confined h fun plans _ st hst l e htr => ?_
  obtain ⟨p, -, rfl⟩ := List.mem_map.mp hst
  rcases Strand.saveSchedule_writes htr with hw | ⟨id, turns, hw⟩
  · exact hw ▸ .nil
  · exact hw ▸ .of_schedule id p.1 turns

theorem save_confined {g : Graph} {additions : Additions} {o : End Saved}
    (h : (save coding agentId g additions known).Trace w es o)
    (hold : ∀ add ∈ additions, ∀ id, known.models.lookup add.1 = some id →
      ∃ r ∈ s.models, r.id = id ∧ r.agentId = agentId) : s.Confined agentId (writes es) := by
  rcases trace_bind_events h with ⟨models, es₁, es₂, h₁, h₂, rfl⟩ | ⟨o', h₁⟩
  · rw [writes_append]
    refine (saveModels_confined h₁ hold).append ?_
    rcases trace_bind_events h₂ with ⟨actions, es₃, es₄, h₃, h₄, rfl⟩ | ⟨o', h₃⟩
    · rw [writes_append]
      refine (saveActions_confined h₃).append ?_
      rcases trace_bind_events h₄ with ⟨schedules, es₅, es₆, h₅, h₆, rfl⟩ | ⟨o', h₅⟩
      · obtain ⟨rfl, -⟩ := trace_pure.mp h₆
        rw [List.append_nil]
        exact saveSchedules_confined h₅
      · exact saveSchedules_confined h₅
    · exact saveActions_confined h₃
  · exact saveModels_confined h₁ hold

/-- Fields are appended to models of the agent only, since only their identifiers are known. -/
theorem save_confined_of_lists {g : Graph} {additions : Additions} {o : End Saved}
    {listed existing : StoredGraph} (hl : s.Lists agentId listed) (hr : listed.Reorders existing)
    (h : (save coding agentId g additions (.ofStored existing)).Trace w es o) :
    s.Confined agentId (writes es) := by
  refine save_confined h fun add _ id hlookup => ?_
  have hmem := Dictionary.mem_of_lookup ((Dictionary.lookup_ofList _ _).symm.trans hlookup)
  obtain ⟨m, hm, heq⟩ := List.mem_map.mp (List.mem_reverse.mp hmem)
  obtain ⟨row, hrow, hread⟩ := forall₂_mem_right hl.models (hr.models.mem_iff.mpr hm)
  obtain ⟨hrow, hagent⟩ := List.mem_filter.mp hrow
  refine ⟨row, hrow, ?_, beq_iff_eq.mp hagent⟩
  rw [(ModelRow.read_eq_ok.mp hread).1]
  exact congrArg Prod.snd heq

end Program
end AgentSpec
