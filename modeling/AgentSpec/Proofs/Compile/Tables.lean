import AgentSpec.Compile.Run
import AgentSpec.Proofs.Compile.Phases
import AgentSpec.Proofs.Persist.Readback
import AgentSpec.Proofs.Trace.Runs

/-!
What requests do to the tables.

An update that has read its agent makes the tables grow by writes for the agent and then changes the
agent itself (`extend_follows`).  A compilation that stores its graph makes a new agent first
(`storing_follows`).
-/
namespace AgentSpec

namespace Store

variable {w : Weave} {s s' : Store} {es : List Event} {clock : List Instant}

/-- A call that fails leaves the tables. -/
theorem answer_error {c : StoreCall} {t : Stamp} {e : StoreError} (h : (c.answer t s).1 = .error e) :
    (c.answer t s).2 = s := by
  have hsettle {α : Type} {r : Except StoreError (α × Store)}
      (h : (StoreCall.answer.settle s r).1 = .error e) : (StoreCall.answer.settle s r).2 = s := by
    cases r with
    | ok p => cases h
    | error e => rfl
  cases c with
  | loadGraph id => rfl
  | _ => exact hsettle h

/-- A call that must succeed changes the tables only as its answer says. -/
theorem Follows.of_ask {phase : Phase} {c : StoreCall} {o : End c.Value}
    (hf : s.Follows es clock s') (h : (Program.ask phase c).Trace w es o) :
    s' = s ∨ ∃ t v, t.now ∈ clock ∧ c.answer t s = (.ok v, s') := by
  rcases Program.trace_ask h with ⟨rfl, -⟩ | ⟨rfl, -⟩ | ⟨v, rfl, -⟩ | ⟨e, rfl, -⟩
  · exact Or.inl (hf.eq_of_reads (by simp))
  · exact Or.inl (hf.eq_of_reads (by simp))
  · obtain ⟨t, rest, rfl, hv, hrest⟩ := (hf : s.Follows (_ ++ []) clock s').of_asked
    have hs' : s' = (c.answer t s).2 := hrest.eq_of_reads (by simp)
    exact Or.inr ⟨t, v, List.mem_cons_self, Prod.ext hv hs'.symm⟩
  · refine Or.inl ?_
    have hf := hf.of_called
    generalize hall : [Event.replied c (.error e)] = all at hf
    cases hf with
    | nil => cases hall
    | answered t c' h =>
      injection hall with hx hes
      injection hx with hc hr
      subst hc
      rw [answer_error (eq_of_heq hr).symm] at h
      exact h.eq_of_reads (by simp [← hes])
    | refused c' e' h =>
      injection hall with hx hes
      exact h.eq_of_reads (by simp [← hes])
    | silent hx h =>
      injection hall with hx' hes
      exact absurd hx'.symm (hx _ _)

end Store

namespace Compiler

/-! ## Runs -/

section Runs

variable {c : Compiler} {env : Surroundings} {w w' : World}

theorem perform_eq_ok {p : Program α} {a : α} :
    c.perform env p w = (.ok a, w') ↔ (p.run env).run w = (.ok a, w') := by
  unfold perform
  cases hp : (p.run env).run w with
  | mk result after =>
    constructor
    · intro h
      cases result with
      | ok b =>
        cases h
        rfl
      | error e => cases h
    · intro h
      cases h
      rfl

theorem perform_lawful {p : Program α} {a : α} (h : c.perform env p w = (.ok a, w'))
    (hs : w.store.Lawful) : w'.store.Lawful := by
  obtain ⟨es, -, hran⟩ := Program.run_trace (perform_eq_ok.mp h)
  obtain ⟨clock, hf, -⟩ := hran.follows
  exact hf.lawful hs

end Runs

variable {w : Weave} {es : List Event} {s s' : Store} {clock : List Instant} {c : Compiler}

/-! ## Updates -/

/-- The change that an update makes to the agent itself. -/
def changeOf (existing : StoredGraph) (e : Enriched) : AgentChange where
  rootModel := if existing.agent.rootModel.isSome then none else e.graph.defaultRoot?
  connections := some (mergeConnections existing.agent.connections e.connections)

/-- After everything is stored the tables change only by the change to the agent. -/
theorem closing_follows {existing : StoredGraph} {e : Enriched} {saved : Saved} {o : End Outcome}
    (h : (closing existing e saved).Trace w es o) (hf : s.Follows es clock s') :
    s' = s ∨ ∃ now record, now ∈ clock ∧
      s.updateAgent now existing.agent.id (changeOf existing e) = .ok (record, s') := by
  have hask {es : List Event} {clock : List Instant} {mid : Store} {o : End AgentRecord}
      (hf : s.Follows es clock mid)
      (h : (Program.ask .agent (.updateAgent existing.agent.id (changeOf existing e))).Trace w es o) :
      mid = s ∨ ∃ now record, now ∈ clock ∧
        s.updateAgent now existing.agent.id (changeOf existing e) = .ok (record, mid) := by
    rcases hf.of_ask h with hmid | ⟨t, v, ht, hv⟩
    · exact Or.inl hmid
    · refine Or.inr ⟨t.now, v, ht, ?_⟩
      simp only [StoreCall.answer] at hv
      cases hu : s.updateAgent t.now existing.agent.id (changeOf existing e) with
      | error err =>
        rw [hu] at hv
        cases hv
      | ok p =>
        rw [hu] at hv
        cases hv
        rfl
  rcases Program.trace_bind_events h with ⟨record, es₁, es₂, h₁, h₂, rfl⟩ | ⟨o', h₁⟩
  · obtain ⟨before, after, mid, rfl, hf₁, hf₂⟩ := Store.Follows.append_iff.mp hf
    have hreads : Reads es₂ := by
      rcases Program.trace_bind_events h₂ with ⟨graph, es₃, es₄, h₃, h₄, rfl⟩ | ⟨o', h₃⟩
      · intro call hcall
        rcases List.mem_append.mp hcall with hcall | hcall
        · exact (trace_stored h₃).1.reads call hcall
        · exact absurd hcall ((trace_finish h₄).1 call)
      · exact (trace_stored h₃).1.reads
    obtain rfl := hf₂.eq_of_reads fun c r hr => hreads c (h₂.called hr)
    rcases hask hf₁ h₁ with hmid | ⟨now, record, hnow, hu⟩
    · exact Or.inl hmid
    · exact Or.inr ⟨now, record, List.mem_append_left _ hnow, hu⟩
  · exact hask hf h₁

/-- An update that was not turned down, up to the change of the agent. -/
structure Extended (w : Weave) (c : Compiler) (r : UpdateRequest) (s mid : Store)
    (existing g : StoredGraph) (e : Enriched) (es : List Event) (o : End Saved) : Prop where
  request : r.violations = []
  loaded : s.load r.agentId = .ok (some existing)
  listed : s.Lists r.agentId g
  order : g.Reorders existing
  enriched : r.delta.enrich existing.toGraph none = .ok e
  saving : (Program.save c.coding r.agentId e.graph e.additions (.ofStored existing)).Trace w es o
  settled : Settled s mid r.agentId g (writes es)

/-- The tables list the grown agent after its change, with the new record, if its queries can be
read. -/
theorem Extended.lists_changed {r : UpdateRequest} {mid : Store} {existing g : StoredGraph}
    {e : Enriched} {o : End Saved} {now : Instant} {record : AgentRecord}
    (h : Extended w c r s mid existing g e es o) (hnow : now.Ordinary)
    (hu : mid.updateAgent now r.agentId (changeOf existing e) = .ok (record, s'))
    (hq : s'.ShallowFor r.agentId) :
    record = Store.AgentChange.apply (changeOf existing e) now existing.agent ∧
      s'.Lists r.agentId { g.grown mid (writes es) with agent := record } := by
  have hmid : mid.ShallowFor r.agentId := by
    obtain ⟨-, -, -, rfl⟩ := Store.updateAgent_eq_ok hu
    exact hq
  have hagent : (g.grown mid (writes es)).agent = existing.agent := h.order.agent
  rw [← hagent]
  exact Store.updateAgent_lists (h.settled.lists hmid) hnow hu

/-- If the agent is loaded after its change, the queries that were added can be read. -/
theorem Extended.shallowFor_of_load {r : UpdateRequest} {mid : Store} {existing g graph : StoredGraph}
    {e : Enriched} {o : End Saved} {now : Instant} {change : AgentChange} {record : AgentRecord}
    (h : Extended w c r s mid existing g e es o)
    (hu : mid.updateAgent now r.agentId change = .ok (record, s'))
    (hload : s'.load record.id = .ok (some graph)) : mid.ShallowFor r.agentId := by
  have hs' := h.settled.after.updateAgent hu
  obtain ⟨k, hl, -⟩ := Store.lists_of_load hs' hload
  obtain ⟨old, hold, hrecord, rfl⟩ := Store.updateAgent_eq_ok hu
  have hid : record.id = r.agentId := by
    rw [hrecord]
    exact (Store.agent?_eq_ok hold).1
  exact hid ▸ hl.shallowFor hs'

/-- What the tables are after an update, wherever it stopped. -/
theorem extend_follows {r : UpdateRequest} {o : End Outcome} (h : (c.extend r).Trace w es o)
    (hf : s.Follows es clock s') (hs : s.Lawful) :
    s' = s ∨ ∃ existing g e es₁ o₁ mid, Extended w c r s mid existing g e es₁ o₁ ∧
      ((s' = mid ∧ ((∃ err, o₁ = .error err ∧ o = .error err) ∨ o = .cut)) ∨
        ∃ saved, o₁ = .value saved ∧ (s' = mid ∨ ∃ now record, now ∈ clock ∧
          mid.updateAgent now r.agentId (changeOf existing e) = .ok (record, s'))) := by
  have hreads {o : End StoredGraph} (hload : (stored r.agentId).Trace w es o) : s' = s :=
    hf.eq_of_reads fun c _ hr => (trace_stored hload).1.reads c (hload.called hr)
  cases trace_extend h with
  | shape => exact Or.inl (hf.eq_of_reads (by simp))
  | unread _ hload => exact Or.inl (hreads hload)
  | foreign _ hload => exact Or.inl (hreads hload)
  | references _ hload => exact Or.inl (hreads hload)
  | cut hes => exact Or.inl (hf.eq_of_reads fun c _ hr => hes c (h.called hr))
  | @adding _ _ existing e _ hrequest hload _ he hadding =>
    refine Or.inr ?_
    rw [trace_stored_value hload] at hf
    obtain ⟨t, rest, rfl, hload, hf⟩ := hf.load
    obtain ⟨g, hl, hg⟩ := Store.lists_of_load hs hload
    have hid : existing.agent.id = r.agentId := hg.agent ▸ Store.agentId_of_lists hl
    have hextended {es₁ : List Event} {before : List Instant} {mid : Store} {o₁ : End Saved}
        (hf₁ : s.Follows es₁ before mid)
        (hsave : (Program.save c.coding existing.agent.id e.graph e.additions
          (.ofStored existing)).Trace w es₁ o₁) : Extended w c r s mid existing g e es₁ o₁ := by
      rw [hid] at hsave
      exact ⟨hrequest, hload, hl, hg, he, hsave, hf₁.settled hs hl hg hsave⟩
    rcases Program.trace_bind hadding with ⟨saved, es₁, es₂, hsave, hclosing, rfl⟩ |
      ⟨err, hsave, rfl⟩ | ⟨hsave, rfl⟩
    · obtain ⟨before, after, mid, rfl, hf₁, hf₂⟩ := Store.Follows.append_iff.mp hf
      refine ⟨existing, g, e, es₁, _, mid, hextended hf₁ hsave, Or.inr ⟨saved, rfl, ?_⟩⟩
      rcases closing_follows hclosing hf₂ with hs' | ⟨now, record, hnow, hu⟩
      · exact Or.inl hs'
      · rw [hid] at hu
        exact Or.inr ⟨now, record, List.mem_cons_of_mem _ (List.mem_append_right _ hnow), hu⟩
    · exact ⟨existing, g, e, _, _, s', hextended hf hsave, Or.inl ⟨rfl, Or.inl ⟨err, rfl, rfl⟩⟩⟩
    · exact ⟨existing, g, e, _, _, s', hextended hf hsave, Or.inl ⟨rfl, Or.inr rfl⟩⟩

theorem closing_value {existing : StoredGraph} {e : Enriched} {saved : Saved} {v : Outcome}
    (h : (closing existing e saved).Trace w es (.value v)) (hf : s.Follows es clock s') :
    ∃ now record graph, now ∈ clock ∧
      s.updateAgent now existing.agent.id (changeOf existing e) = .ok (record, s') ∧
      s'.load record.id = .ok (some graph) ∧
      v = .ofStored .updated graph
        (Counts.ofSaved saved e.derivedFieldCount record.connections.length)
        (e.warnings ++ saved.warnings) := by
  obtain ⟨record, es₁, es₂, h₁, h₂, rfl⟩ := Program.trace_bind_value h
  obtain ⟨graph, es₃, es₄, h₃, h₄, rfl⟩ := Program.trace_bind_value h₂
  obtain ⟨-, -, ho⟩ := trace_finish h₄
  rw [Program.trace_ask_value h₁] at hf
  obtain ⟨now, rest, mid, rfl, hu, hf₂⟩ := hf.updateAgent
  rw [trace_stored_value h₃] at hf₂
  obtain ⟨t, rest', rfl, hload, hf₄⟩ := hf₂.load
  obtain rfl : s' = mid := hf₄.eq_of_reads fun c r hr => absurd (h₄.called hr) ((trace_finish h₄).1 c)
  refine ⟨now, record, graph, List.mem_cons_self, hu, hload, ?_⟩
  rcases ho with ho | ho <;> cases ho
  rfl

theorem extend_value {r : UpdateRequest} {v : Outcome} (h : (c.extend r).Trace w es (.value v))
    (hf : s.Follows es clock s') (hs : s.Lawful) :
    ∃ existing g e es₁ saved mid now record graph,
      Extended w c r s mid existing g e es₁ (.value saved) ∧ (∀ x ∈ es₁, x ∈ es) ∧ now ∈ clock ∧
      mid.updateAgent now r.agentId (changeOf existing e) = .ok (record, s') ∧
      s'.load record.id = .ok (some graph) ∧
      v = .ofStored .updated graph
        (Counts.ofSaved saved e.derivedFieldCount record.connections.length)
        (e.warnings ++ saved.warnings) := by
  obtain _ | _ | _ | _ | _ | @⟨_, _, existing, e, _, hrequest, hload, -, he, hadding⟩ :=
    trace_extend h
  obtain ⟨saved, es₁, es₂, hsave, hclosing, rfl⟩ := Program.trace_bind_value hadding
  rw [trace_stored_value hload] at hf ⊢
  obtain ⟨t, rest, rfl, hload, hf⟩ := hf.load
  obtain ⟨before, after, mid, rfl, hf₁, hf₂⟩ := Store.Follows.append_iff.mp hf
  obtain ⟨g, hl, hg⟩ := Store.lists_of_load hs hload
  have hid : existing.agent.id = r.agentId := hg.agent ▸ Store.agentId_of_lists hl
  obtain ⟨now, record, graph, hnow, hu, hgraph, hv⟩ := closing_value hclosing hf₂
  rw [hid] at hsave hu
  exact ⟨existing, g, e, es₁, saved, mid, now, record, graph,
    ⟨hrequest, hload, hl, hg, he, hsave, hf₁.settled hs hl hg hsave⟩,
    fun x hx => List.mem_append_right _ (List.mem_append_left _ hx),
    List.mem_cons_of_mem _ (List.mem_append_right _ hnow), hu, hgraph, hv⟩

/-! ## Compilations -/

/-- A completed graph that was stored with a result: the new agent, and what was put to it. -/
structure Founded (w : Weave) (c : Compiler) (r : CompileRequest) (e : Enriched) (s first s' : Store)
    (t : Stamp) (record : AgentRecord) (es : List Event) (saved : Saved) : Prop where
  created : s.createAgent t
    { name := r.name, description := r.description, ownerId := r.ownerId
      rootModel := e.graph.rootModel, connections := e.connections } = .ok (record, first)
  saving : (Program.save c.coding record.id e.graph e.additions {}).Trace w es (.value saved)
  settled : Settled first s' record.id (.bare record) (writes es)

/-- No agent had the name that a new one got. -/
theorem Founded.unknown {r : CompileRequest} {e : Enriched} {first : Store} {t : Stamp}
    {record : AgentRecord} {saved : Saved} (h : Founded w c r e s first s' t record es saved) :
    s.load record.id = .ok none := by
  obtain ⟨hrecord, -, hfresh⟩ := Store.createAgent_eq_ok h.created
  refine Store.load_eq_none (List.find?_eq_none.mpr fun row hrow heq => hfresh ?_)
  have hid : row.id = t.id := by
    rw [hrecord] at heq
    exact beq_iff_eq.mp heq
  exact hid ▸ List.mem_map_of_mem hrow

theorem storing_follows {r : CompileRequest} {e : Enriched} {v : Outcome}
    (h : (c.storing r e).Trace w es (.value v)) (hf : s.Follows es clock s') (hs : s.Lawful)
    (hclock : ∀ t ∈ clock, t.Ordinary) :
    ∃ first t record es₁ saved, Founded w c r e s first s' t record es₁ saved ∧ t.now ∈ clock ∧
      (∀ x ∈ es₁, x ∈ es) ∧
      v = .ofStored .compiled
        { agent := record, models := saved.models, actions := saved.actions
          schedules := saved.schedules }
        (Counts.ofSaved saved e.derivedFieldCount record.connections.length)
        (e.warnings ++ saved.warnings) := by
  obtain ⟨record, es₃, es₄, h₃, h₄, rfl⟩ := Program.trace_bind_value h
  obtain ⟨saved, es₅, es₆, h₅, h₆, rfl⟩ := Program.trace_bind_value h₄
  obtain ⟨-, -, ho⟩ := trace_finish h₆
  rw [Program.trace_ask_value h₃] at hf
  obtain ⟨t, rest, first, rfl, hcreated, hf₃⟩ := hf.createAgent
  have hfirst : first.Lists record.id (.bare record) :=
    Store.createAgent_lists hs (hclock t.now List.mem_cons_self) hcreated
  obtain ⟨before, after, mid, rfl, hf₅, hf₆⟩ := Store.Follows.append_iff.mp hf₃
  obtain rfl : s' = mid := hf₆.eq_of_reads fun c r hr => absurd (h₆.called hr) ((trace_finish h₆).1 c)
  have hsettled := hf₅.settled (hs.createAgent hcreated) hfirst ⟨rfl, .refl _, .refl _, .refl _⟩ h₅
  refine ⟨first, t, record, es₅, saved, ⟨hcreated, h₅, hsettled⟩, List.mem_cons_self,
    fun x hx => List.mem_append_right _ (List.mem_append_left _ hx), ?_⟩
  rcases ho with ho | ho <;> cases ho
  rfl

end Compiler
end AgentSpec
