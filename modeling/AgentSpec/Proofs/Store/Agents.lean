import AgentSpec.Proofs.Store.Rows

/-!
Calls that read or write an agent as a whole.

They touch no table but that of the agents, so what is read of another agent does not change.
-/
namespace AgentSpec

/-- An agent that has nothing but its record. -/
def StoredGraph.bare (a : AgentRecord) : StoredGraph := ⟨a, [], [], []⟩

namespace Store

variable {s s' : Store} {es : List Event} {clock : List Instant} {id agentId : String}

/-! ## One answered call of a trace -/

namespace Follows

theorem of_answer {c : StoreCall} {r : c.Reply} {mid : Store} (t : Stamp)
    (hr : c.answer t s = (r, mid))
    (h : Follows mid es clock s') : Follows s (.replied c r :: es) (t.now :: clock) s' := by
  obtain rfl : (c.answer t s).1 = r := congrArg Prod.fst hr
  obtain rfl : (c.answer t s).2 = mid := congrArg Prod.snd hr
  exact .answered t c h

theorem of_called {c : StoreCall} (h : Follows s (.called c :: es) clock s') :
    Follows s es clock s' := by
  cases h with
  | silent _ h => exact h

/-- A reply other than a failure was given by the tables. -/
theorem of_replied_ok {c : StoreCall} {v : c.Value}
    (h : Follows s (.replied c (.ok v) :: es) clock s') :
    ∃ t rest, clock = t.now :: rest ∧ (c.answer t s).1 = .ok v ∧
      Follows (c.answer t s).2 es rest s' := by
  generalize hall : Event.replied c (.ok v) :: es = all at h
  cases h with
  | nil => cases hall
  | answered t c' h =>
    injection hall with hx hes
    injection hx with hc hr
    subst hc
    exact ⟨t, _, rfl, (eq_of_heq hr).symm, hes ▸ h⟩
  | refused c' e h =>
    injection hall with hx hes
    injection hx with hc hr
    subst hc
    cases eq_of_heq hr
  | silent hx h =>
    injection hall with hx' hes
    exact absurd hx'.symm (hx _ _)

theorem of_asked {c : StoreCall} {v : c.Value}
    (h : Follows s ([.called c, .replied c (.ok v)] ++ es) clock s') :
    ∃ t rest, clock = t.now :: rest ∧ (c.answer t s).1 = .ok v ∧
      Follows (c.answer t s).2 es rest s' := of_replied_ok (of_called h)

/-- What was asked without changing anything left the tables. -/
theorem eq_of_reads (h : Follows s es clock s')
    (hes : ∀ c r, .replied c r ∈ es → ¬c.isWrite) : s' = s := by
  induction h with
  | nil s => rfl
  | @answered s s' es clock t c h ih =>
    have hread : (c.answer t s).2 = s := by
      cases c with
      | loadGraph id => rfl
      | _ => exact absurd rfl (hes _ _ List.mem_cons_self)
    rw [hread] at ih
    exact ih fun c r hr => hes c r (List.mem_cons_of_mem _ hr)
  | refused c e h ih => exact ih fun c r hr => hes c r (List.mem_cons_of_mem _ hr)
  | silent hx h ih => exact ih fun c r hr => hes c r (List.mem_cons_of_mem _ hr)

theorem load {g : Option StoredGraph}
    (h : Follows s ([.called (.loadGraph id), .replied (.loadGraph id) (.ok g)] ++ es) clock s') :
    ∃ t rest, clock = t :: rest ∧ s.load id = .ok g ∧ Follows s es rest s' := by
  obtain ⟨t, rest, hclock, hv, h⟩ := h.of_asked
  exact ⟨t.now, rest, hclock, hv, h⟩

theorem createAgent {a : NewAgent} {record : AgentRecord}
    (h : Follows s ([.called (.createAgent a), .replied (.createAgent a) (.ok record)] ++ es) clock
      s') : ∃ t rest mid, clock = t.now :: rest ∧ s.createAgent t a = .ok (record, mid) ∧
      Follows mid es rest s' := by
  obtain ⟨t, rest, hclock, hv, h⟩ := h.of_asked
  refine ⟨t, rest, _, hclock, ?_, h⟩
  simp only [StoreCall.answer] at hv ⊢
  cases hc : s.createAgent t a with
  | error e =>
    rw [hc] at hv
    cases hv
  | ok p =>
    rw [hc] at hv
    cases hv
    rfl

theorem updateAgent {c : AgentChange} {record : AgentRecord}
    (h : Follows s ([.called (.updateAgent agentId c),
      .replied (.updateAgent agentId c) (.ok record)] ++ es) clock s') :
    ∃ now rest mid, clock = now :: rest ∧ s.updateAgent now agentId c = .ok (record, mid) ∧
      Follows mid es rest s' := by
  obtain ⟨t, rest, hclock, hv, h⟩ := h.of_asked
  refine ⟨t.now, rest, _, hclock, ?_, h⟩
  simp only [StoreCall.answer] at hv ⊢
  cases hc : s.updateAgent t.now agentId c with
  | error e =>
    rw [hc] at hv
    cases hv
  | ok p =>
    rw [hc] at hv
    cases hv
    rfl

end Follows

/-! ## The table of agents -/

/-- Only the row of the agent itself matters among the agents. -/
theorem load_agents {agents : List AgentRow}
    (h : agents.find? (·.id == id) = s.agents.find? (·.id == id)) :
    ({ s with agents := agents } : Store).load id = s.load id := by
  have hagent : ({ s with agents := agents } : Store).agent? id = s.agent? id := by
    rw [agent?, agent?, h]
  simp only [load]
  rw [hagent]
  rfl

theorem agent?_of_lists {g : StoredGraph} (hl : s.Lists agentId g) :
    s.agent? agentId = .ok (some g.agent) := by
  obtain ⟨row, hrow, hread⟩ := hl.agent
  rw [agent?, hrow, Option.mapM_some, hread]
  rfl

theorem agent?_eq_ok {record : AgentRecord} (h : s.agent? agentId = .ok (some record)) :
    record.id = agentId ∧ s.hasAgent agentId := by
  unfold agent? at h
  cases hrow : s.agents.find? (·.id == agentId) with
  | none =>
    rw [hrow] at h
    cases h
  | some row =>
    rw [hrow] at h
    change row.read.map some = .ok (some record) at h
    obtain ⟨r, hread, hr⟩ := map_eq_ok.mp h
    cases hr
    have hself : row.id = agentId := by simpa using List.find?_some hrow
    refine ⟨(AgentRow.read_eq_ok.mp hread).1.symm.trans hself, ?_⟩
    exact List.any_eq_true.mpr ⟨row, List.mem_of_find?_eq_some hrow, beq_iff_eq.mpr hself⟩

theorem agentId_of_lists {g : StoredGraph} (hl : s.Lists agentId g) : g.agent.id = agentId := by
  obtain ⟨row, hrow, hread⟩ := hl.agent
  rw [← (AgentRow.read_eq_ok.mp hread).1]
  simpa using List.find?_some hrow

theorem createAgent_load_other {t : Stamp} {a : NewAgent} {record : AgentRecord}
    (h : s.createAgent t a = .ok (record, s')) (hne : id ≠ record.id) : s'.load id = s.load id := by
  obtain ⟨-, rfl, -⟩ := createAgent_eq_ok h
  refine load_agents ?_
  have hrow : ((AgentRow.ofRecord record).id == id) = false := beq_eq_false_iff_ne.mpr hne.symm
  rw [List.find?_append, List.find?_cons, hrow, List.find?_nil, Option.or_none]

theorem createAgent_lists {t : Stamp} {a : NewAgent} {record : AgentRecord} (hs : s.Lawful)
    (ht : t.now.Ordinary) (h : s.createAgent t a = .ok (record, s')) :
    s'.Lists record.id (.bare record) := by
  obtain ⟨hrecord, rfl, hid⟩ := createAgent_eq_ok h
  have hfresh : ¬s.hasAgent record.id := by
    rw [hasAgent_iff, hrecord]
    exact hid
  have hnone {α : Type} {rows : List α} {key : α → String}
      (hparents : ∀ r ∈ rows, s.hasAgent (key r)) :
      rows.filter (fun r => key r == record.id) = [] := by
    refine List.filter_eq_nil_iff.mpr fun r hr hr' => hfresh ?_
    rw [← beq_iff_eq.mp hr']
    exact hparents r hr
  refine ⟨⟨.ofRecord record, ?_, ?_⟩, ?_, ?_, ?_⟩
  · have hold : s.agents.find? (·.id == record.id) = none := by
      refine List.find?_eq_none.mpr fun r hr hr' => hfresh ?_
      exact List.any_eq_true.mpr ⟨r, hr, hr'⟩
    have hrow : ((AgentRow.ofRecord record).id == record.id) = true := beq_self_eq_true record.id
    rw [List.find?_append, hold, List.find?_cons, hrow]
    rfl
  · refine AgentRow.read_ofRecord ?_ ?_
    · rw [hrecord]
      exact ht
    · rw [hrecord]
      exact ht
  · rw [hnone hs.modelParents]
    exact .nil
  · rw [hnone fun r hr => (hs.actionParents r hr).1]
    exact .nil
  · rw [hnone hs.scheduleParents]
    exact .nil

/-- What stands in the row of an agent after a change. -/
theorem find?_setRecord {record : AgentRecord} :
    (s.agents.map (AgentRow.setRecord agentId record)).find? (·.id == id) =
      (s.agents.find? (·.id == id)).map (AgentRow.setRecord agentId record) := by
  rw [List.find?_map]
  congr 2
  funext r
  exact congrArg (· == id) (r.setRecord_id agentId record)

theorem updateAgent_load_other {now : Instant} {c : AgentChange} {record : AgentRecord}
    (h : s.updateAgent now agentId c = .ok (record, s')) (hne : id ≠ agentId) :
    s'.load id = s.load id := by
  obtain ⟨old, -, -, rfl⟩ := updateAgent_eq_ok h
  refine load_agents ?_
  rw [find?_setRecord]
  cases hrow : s.agents.find? (·.id == id) with
  | none => rfl
  | some row =>
    have hid : row.id = id := by simpa using List.find?_some hrow
    rw [Option.map_some, AgentRow.setRecord, if_neg (hid ▸ hne)]

/-- The record of a changed agent is the old one with the change, and its row holds it. -/
theorem updateAgent_row {now : Instant} {c : AgentChange} {record a : AgentRecord} {row : AgentRow}
    (hrow : s.agents.find? (·.id == agentId) = some row) (hread : row.read = .ok a)
    (hnow : now.Ordinary) (h : s.updateAgent now agentId c = .ok (record, s')) :
    record = AgentChange.apply c now a ∧
      ∃ row', s'.agents.find? (·.id == agentId) = some row' ∧ row'.read = .ok record := by
  obtain ⟨old, hold, hrecord, rfl⟩ := updateAgent_eq_ok h
  rw [agent?, hrow, Option.mapM_some, hread] at hold
  cases hold
  obtain ⟨hid, hname, -, howner, -, -, hcreated, -⟩ := AgentRow.read_eq_ok.mp hread
  have hself : row.id = agentId := by simpa using List.find?_some hrow
  refine ⟨hrecord, row.setRecord agentId record, by rw [find?_setRecord, hrow]; rfl, ?_⟩
  rw [AgentRow.setRecord, if_pos hself]
  refine AgentRow.read_eq_ok.mpr ⟨?_, ?_, rfl, ?_, rfl, Column.read_ofConnections _, ?_, ?_⟩
  · rw [hid, hrecord]
    rfl
  · rw [hname, hrecord]
    rfl
  · rw [howner, hrecord]
    rfl
  · rw [hcreated, hrecord]
    rfl
  · rw [hrecord]
    exact AgentRow.readInstant_of_ordinary hnow

/-- After a change to the agent all else of it stays. -/
theorem updateAgent_lists {now : Instant} {c : AgentChange} {record : AgentRecord} {g : StoredGraph}
    (hl : s.Lists agentId g) (hnow : now.Ordinary)
    (h : s.updateAgent now agentId c = .ok (record, s')) :
    record = AgentChange.apply c now g.agent ∧ s'.Lists agentId { g with agent := record } := by
  obtain ⟨row, hrow, hread⟩ := hl.agent
  obtain ⟨hrecord, hagent⟩ := updateAgent_row hrow hread hnow h
  obtain ⟨old, -, -, rfl⟩ := updateAgent_eq_ok h
  exact ⟨hrecord, ⟨hagent, hl.models, hl.actions, hl.schedules⟩⟩

end Store
end AgentSpec
