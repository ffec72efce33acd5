import AgentSpec.Proofs.Compile.Soundness
import AgentSpec.Proofs.Persist.Fitting
import AgentSpec.Proofs.Persist.Stopping
import AgentSpec.Proofs.Store.Shared
import AgentSpec.Proofs.Trace.Ended

/-!
The tables admit every call of a request.

What is checked in front of the first write is said of names, what the tables demand is said of rows,
and nothing is undone; so a graph that passes the one and fails the other would be left half stored.
In lawful tables whose rows can be read this does not happen, whatever the turns of strands: an error
of the store that ends a request is one of its replies, and no call is refused.  So a request fails
only where a check in front of the first write turns it down (`Compiler.compile_turnedDown`,
`Compiler.extend_turnedDown`).
-/
namespace AgentSpec

/-! ## Errors of the store -/

namespace Program

/-- An error of the store that ends a trace is one of its replies. -/
def Reports (p : Program α) : Prop := ∀ w es phase source,
  p.Trace w es (.error (.persistence phase source)) →
    ∃ c : StoreCall, .replied c (.error source) ∈ es

theorem Reports.bind {p : Program α} {f : α → Program β} (hp : p.Reports)
    (hf : ∀ a, (f a).Reports) : (p >>= f).Reports := by
  intro w es phase source h
  rcases trace_bind_error h with ⟨a, es₁, es₂, -, h₂, rfl⟩ | h₁
  · obtain ⟨c, hc⟩ := hf a w es₂ phase source h₂
    exact ⟨c, List.mem_append_right _ hc⟩
  · exact hp w es phase source h₁

theorem reports_pure (a : α) : (pure a : Program α).Reports := by
  intro w es phase source h
  obtain ⟨-, ho | ho⟩ := trace_pure.mp h <;> cases ho

theorem reports_failed {e : CompileError} (he : ∀ phase source, e ≠ .persistence phase source) :
    (failed e : Program α).Reports := by
  intro w es phase source h
  obtain ⟨-, ho | ho⟩ := trace_failed.mp h <;> cases ho
  exact absurd rfl (he phase source)

theorem reports_ask (phase : Phase) (c : StoreCall) : (ask phase c).Reports := by
  intro w es phase' source h
  rcases trace_ask h with ⟨-, ho⟩ | ⟨-, ho⟩ | ⟨v, -, ho | ho⟩ | ⟨e, rfl, ho | ho⟩ <;> cases ho
  exact ⟨c, by simp⟩

theorem save_reports {coding : Bool} {agentId : String} {g : Graph} {additions : Additions}
    {known : Known} : (save coding agentId g additions known).Reports := by
  intro w es phase source h
  cases save_stopped h with
  | persistence _ _ _ _ hreplied => exact ⟨_, hreplied⟩

end Program

namespace Compiler

open Program (Reports reports_pure reports_failed reports_ask save_reports)

variable {c : Compiler}

theorem stored_reports (agentId : String) : (stored agentId).Reports := by
  refine (reports_ask _ _).bind fun found => ?_
  cases found with
  | none => exact reports_failed fun _ _ h => CompileError.noConfusion h
  | some g => exact reports_pure g

theorem finish_reports {verb : Verb} {g : StoredGraph} {counts : Counts} {warnings : List Warning} :
    (finish verb g counts warnings).Reports := by
  intro w es phase source h
  obtain ⟨-, -, ho | ho⟩ := trace_finish h <;> cases ho

theorem storing_reports (r : CompileRequest) (e : Enriched) : (c.storing r e).Reports :=
  (reports_ask _ _).bind fun _ => save_reports.bind fun _ => finish_reports

theorem closing_reports (existing : StoredGraph) (e : Enriched) (saved : Saved) :
    (closing existing e saved).Reports :=
  (reports_ask _ _).bind fun _ => (stored_reports _).bind fun _ => finish_reports

end Compiler

/-! ## Calls of requests -/

/-- There are numbers of 32 bits for the steps of every action that is asked to be stored. -/
def Numbered (es : List Event) : Prop := ∀ agentId modelId a,
  .called (.createAction agentId modelId a) ∈ es → a.steps.length ≤ UInt32.size

/-- The request and its graph are sound, and the graph is completed. -/
structure CompileRequest.Passes (r : CompileRequest) (g : Graph) (permitted : Option (List String))
    (e : Enriched) : Prop where
  request : r.violations = []
  source : r.source = .graph g ∨ ∃ answer, Graph.ofAnswer answer = .ok g
  completed : g.withRoot.enrich {} permitted = .ok e

/-- The request is sound, its agent is stored and belongs to the user, and the additions are
completed against it. -/
structure UpdateRequest.Passes (r : UpdateRequest) (s : Store) (existing : StoredGraph)
    (e : Enriched) : Prop where
  request : r.violations = []
  loaded : s.load r.agentId = .ok (some existing)
  owned : existing.agent.ownerId = r.ownerId
  completed : r.delta.enrich existing.toGraph none = .ok e

namespace CompileRequest.Passes

variable {r : CompileRequest} {g : Graph} {permitted : Option (List String)} {e : Enriched}

theorem named (h : r.Passes g permitted e) : ¬Text.isBlank r.name := by
  have hviolations := h.request
  rw [CompileRequest.violations, List.append_eq_nil_iff, List.append_eq_nil_iff] at hviolations
  exact blankViolation_eq_nil.mp hviolations.1.1

/-- The completed graph fits a new agent. -/
theorem fits {s first : Store} {t : Stamp} {a : NewAgent} {record : AgentRecord}
    (h : r.Passes g permitted e) (hs : s.Lawful) (ht : t.now.Ordinary)
    (hcreated : s.createAgent t a = .ok (record, first)) :
    Program.Fits first record.id e.graph {} :=
  have hsame : (StoredGraph.bare record).Reorders (.bare record) :=
    ⟨rfl, .refl _, .refl _, .refl _⟩
  have he : g.withRoot.enrich ((StoredGraph.bare record).toGraph.rooted none) permitted = .ok e :=
    h.completed
  Program.fits_of_enrich (Store.createAgent_lists hs ht hcreated) hsame
    (CompileRequest.graph_shaped h.request h.source) he

end CompileRequest.Passes

namespace UpdateRequest.Passes

variable {r : UpdateRequest} {s : Store} {existing : StoredGraph} {e : Enriched}

theorem agentId (h : r.Passes s existing e) (hs : s.Lawful) : existing.agent.id = r.agentId := by
  obtain ⟨g, hl, hg⟩ := Store.lists_of_load hs h.loaded
  exact hg.agent ▸ Store.agentId_of_lists hl

/-- The completed additions fit the agent. -/
theorem fits (h : r.Passes s existing e) (hs : s.Lawful) :
    Program.Fits s existing.agent.id e.graph (.ofStored existing) := by
  obtain ⟨g, hl, hg⟩ := Store.lists_of_load hs h.loaded
  have he : r.delta.enrich (existing.toGraph.rooted existing.agent.rootModel) none = .ok e :=
    h.completed
  rw [h.agentId hs]
  exact Program.fits_of_enrich hl hg (UpdateRequest.delta_shaped h.request) he

end UpdateRequest.Passes

/-- A check in front of the first write turns a compilation down: that of the request, that of the
design or that of the names. -/
inductive CompileRequest.TurnedDown (c : Compiler) (r : CompileRequest) (es : List Event) :
    CompileError → Prop
  | shape : r.violations ≠ [] → TurnedDown c r es (.shape r.violations)
  | synthesis {fault : SynthesisFault} : r.violations = [] →
    (c.graphOf r).Trace .any es (.error (.synthesis fault)) → TurnedDown c r es (.synthesis fault)
  | references {g : Graph} {permitted : Option (List String)} {issues : List Issue} :
    r.violations = [] → (c.graphOf r).Trace .any es (.value (g, permitted)) →
    g.withRoot.enrich {} permitted = .error issues → TurnedDown c r es (.references issues)

/-- A check in front of the first write turns an update down: that of the request, that of the agent
and its owner or that of the names. -/
inductive UpdateRequest.TurnedDown (r : UpdateRequest) (s : Store) : CompileError → Prop
  | shape : r.violations ≠ [] → TurnedDown r s (.shape r.violations)
  | missing : r.violations = [] → s.load r.agentId = .ok none →
    TurnedDown r s (.agentNotFound r.agentId)
  | foreign {existing : StoredGraph} : r.violations = [] →
    s.load r.agentId = .ok (some existing) → existing.agent.ownerId ≠ r.ownerId →
    TurnedDown r s (.notOwner r.agentId r.ownerId)
  | references {existing : StoredGraph} {issues : List Issue} : r.violations = [] →
    s.load r.agentId = .ok (some existing) → existing.agent.ownerId = r.ownerId →
    r.delta.enrich existing.toGraph none = .error issues → TurnedDown r s (.references issues)

theorem unrefused_asked {c : StoreCall} {v : c.Value} :
    Unrefused [.called c, .replied c (.ok v)] := by
  intro c' e hmem
  obtain ⟨rfl, hreply⟩ : c' = c ∧ (Except.error e : c'.Reply) ≍ (.ok v : c.Reply) := by
    simpa using hmem
  cases hreply

namespace Compiler

variable {c : Compiler} {w : Weave} {s s' : Store} {es : List Event}

theorem ask_unrefused {phase : Phase} {call : StoreCall} {o : End call.Value}
    (h : (Program.ask phase call).Trace w es o) (hserves : s.Serves es s') (hr : s.Readable)
    (hcall : call.Supported s.Has) (hkey : call.key? = none) : Unrefused es := by
  rcases Program.trace_ask h with ⟨rfl, -⟩ | ⟨rfl, -⟩ | ⟨v, rfl, -⟩ | ⟨e, rfl, -⟩
  · exact fun _ _ => List.not_mem_nil
  · simp [Unrefused]
  · exact unrefused_asked
  · obtain ⟨t, ht, hanswer⟩ := hserves.asked
    obtain ⟨v, hv⟩ := Store.exists_answer hr ht hcall (by simp [hkey])
    rw [hanswer] at hv
    cases hv

theorem Silent.unrefused {p : Program α} {o : End α} (hsilent : Silent es) (h : p.Trace w es o) :
    Unrefused es :=
  fun call _ hmem => hsilent call (h.called hmem)

theorem Loads.unrefused {p : Program α} {o : End α} {agentId : String} (hloads : Loads agentId es)
    (h : p.Trace w es o) (hserves : s.Serves es s') (hr : s.Readable)
    (hq : s'.ShallowFor agentId) : Unrefused es :=
  hserves.unrefused_of_loads hr hq fun call _ hmem => hloads call (h.called hmem)

/-! ### Compilations -/

section Compilations

variable {r : CompileRequest} {g : Graph} {permitted : Option (List String)} {e : Enriched}

theorem storing_unrefused {o : End Outcome} (hp : r.Passes g permitted e)
    (h : (c.storing r e).Trace w es o) (hserves : s.Serves es s') (hs : s.Lawful) (hr : s.Readable)
    (hsteps : ∀ a ∈ e.graph.actions, ∀ agentId modelId,
      .called (.createAction agentId modelId a) ∈ es → a.steps.length ≤ UInt32.size) :
    Unrefused es := by
  rcases Program.trace_bind_events h with ⟨record, es₁, es₂, h₁, h₂, rfl⟩ | ⟨o', h₁⟩
  case inr =>
    refine ask_unrefused h₁ hserves hr ⟨rfl, List.forall_mem_nil _, fun a ha => ?_⟩ rfl
    cases ha
    exact hp.named
  obtain ⟨first, hserves₁, hserves₂⟩ := hserves.split
  obtain rfl := Program.trace_ask_value h₁
  obtain ⟨t, ht, hanswer⟩ := hserves₁.asked
  have hfits := hp.fits hs ht.ordinary (Store.settle_eq_ok hanswer)
  have hreadable := hserves₁.readable hr
  have hsaving {es₃ : List Event} {o₃ : End Saved} {s₃ : Store} (hserves₃ : first.Serves es₃ s₃)
      (hsub : es₃ ⊆ es₂) (h₃ : (Program.save c.coding record.id e.graph e.additions {}).Trace w es₃
        o₃) : Unrefused es₃ :=
    Program.save_unrefused h₃ hserves₃ (hserves₁.lawful hs) hreadable hfits
      fun a ha modelId hcalled =>
        hsteps a ha record.id modelId (List.mem_append_right _ (hsub hcalled))
  refine unrefused_asked.append ?_
  rcases Program.trace_bind_events h₂ with ⟨saved, es₃, es₄, h₃, h₄, rfl⟩ | ⟨o', h₃⟩
  · obtain ⟨last, hserves₃, -⟩ := hserves₂.split
    exact (hsaving hserves₃ (List.subset_append_left _ _) h₃).append
      ((trace_finish h₄).1.unrefused h₄)
  · exact hsaving hserves₂ (List.Subset.refl _) h₃

theorem storing_succeeds {o : End Outcome} (hp : r.Passes g permitted e)
    (h : (c.storing r e).Trace w es o) (hserves : s.Serves es s') (hs : s.Lawful) (hr : s.Readable)
    (hsteps : ∀ a ∈ e.graph.actions, ∀ agentId modelId,
      .called (.createAction agentId modelId a) ∈ es → a.steps.length ≤ UInt32.size) :
    ∀ err, o ≠ .error err := by
  rintro err rfl
  obtain ⟨phase, source, rfl⟩ := storing_error hp.completed h
  obtain ⟨call, hmem⟩ := storing_reports r e w es phase source h
  exact storing_unrefused hp h hserves hs hr hsteps call source hmem

/-- A compilation that fails was turned down by a check. -/
theorem compile_turnedDown {err : CompileError} (h : (c.compile r).Trace .any es (.error err))
    (hserves : s.Serves es s') (hs : s.Lawful) (hr : s.Readable) (hsteps : Numbered es) :
    r.TurnedDown c es err := by
  cases trace_compile h with
  | shape hviolations => exact .shape hviolations
  | synthesis hviolations hgraph => exact .synthesis hviolations hgraph
  | references hviolations hgraph hissues => exact .references hviolations hgraph hissues
  | @storing es₁ es₂ g permitted e _ hviolations hgraph he hstoring =>
    -- all checks are passed, and storing the graph does not fail
    obtain ⟨mid, hserves₁, hserves₂⟩ := hserves.split
    have hp : r.Passes g permitted e := ⟨hviolations, (trace_graphOf_value hgraph).2, he⟩
    refine absurd rfl (storing_succeeds hp hstoring hserves₂ (hserves₁.lawful hs)
      (hserves₁.readable hr) (fun a _ agentId modelId hcalled => ?_) err)
    exact hsteps agentId modelId a (List.mem_append_right _ hcalled)

end Compilations

/-! ### Updates -/

section Updates

variable {r : UpdateRequest} {existing : StoredGraph} {e : Enriched} {saved : Saved}

theorem updated_id {id : String} {change : AgentChange} {record : AgentRecord}
    (h : (Program.ask .agent (.updateAgent id change)).Trace w es (.value record))
    (hserves : s.Serves es s') : record.id = id := by
  obtain rfl := Program.trace_ask_value h
  obtain ⟨t, -, hanswer⟩ := hserves.asked
  obtain ⟨old, hold, hrecord, -⟩ := Store.updateAgent_eq_ok (Store.settle_eq_ok hanswer)
  rw [hrecord]
  exact (Store.agent?_eq_ok hold).1

theorem closing_unrefused {o : End Outcome} (h : (closing existing e saved).Trace w es o)
    (hserves : s.Serves es s') (hr : s.Readable) (hid : s.hasAgent existing.agent.id)
    (hq : s'.ShallowFor existing.agent.id) : Unrefused es := by
  have hcall : (StoreCall.updateAgent existing.agent.id (changeOf existing e)).Supported s.Has :=
    ⟨rfl, List.forall_mem_singleton.mpr hid, fun _ h => StoreCall.noConfusion h⟩
  rcases Program.trace_bind_events h with ⟨record, es₁, es₂, h₁, h₂, rfl⟩ | ⟨o', h₁⟩
  case inr => exact ask_unrefused h₁ hserves hr hcall rfl
  obtain ⟨mid, hserves₁, hserves₂⟩ := hserves.split
  have hreadable := hserves₁.readable hr
  rw [← updated_id h₁ hserves₁] at hq
  refine (ask_unrefused h₁ hserves₁ hr hcall rfl).append ?_
  rcases Program.trace_bind_events h₂ with ⟨graph, es₃, es₄, h₃, h₄, rfl⟩ | ⟨o', h₃⟩
  · obtain ⟨last, hserves₃, hserves₄⟩ := hserves₂.split
    exact ((trace_stored h₃).1.unrefused h₃ hserves₃ hreadable (hserves₄.shallowFor hq)).append
      ((trace_finish h₄).1.unrefused h₄)
  · exact (trace_stored h₃).1.unrefused h₃ hserves₂ hreadable hq

/-- The agent that was updated is found. -/
theorem closing_finds {err : CompileError} (h : (closing existing e saved).Trace w es (.error err))
    (hserves : s.Serves es s') (hr : s.Readable) (hid : s.hasAgent existing.agent.id)
    (hq : s'.ShallowFor existing.agent.id) : ∀ id, err ≠ .agentNotFound id := by
  rintro id rfl
  rcases Program.trace_bind_error h with ⟨record, es₁, es₂, h₁, h₂, rfl⟩ | h₁
  case inr =>
    rcases Program.trace_ask h₁ with ⟨-, ho⟩ | ⟨-, ho⟩ | ⟨v, -, ho | ho⟩ | ⟨source, -, ho | ho⟩ <;>
      cases ho
  obtain ⟨mid, hserves₁, hserves₂⟩ := hserves.split
  have hsame := updated_id h₁ hserves₁
  rcases Program.trace_bind_error h₂ with ⟨graph, es₃, es₄, -, h₄, -⟩ | h₃
  · obtain ⟨-, -, ho | ho⟩ := trace_finish h₄ <;> cases ho
  · obtain ⟨-, ⟨g, ho, -⟩ | ⟨-, hasked⟩ | ⟨phase, source, ho⟩ | ho⟩ := trace_stored h₃
    · cases ho
    · rw [← hsame] at hq hid
      have hthere : mid.hasAgent record.id := hserves₁.has (x := .agent record.id) hid
      obtain ⟨g, hg⟩ := (hserves₁.readable hr).exists_load_some (hserves₂.shallowFor hq) hthere
      rw [hasked] at hserves₂
      rw [hserves₂.loaded.2] at hg
      cases hg
    · cases ho
    · cases ho

theorem closing_succeeds {o : End Outcome} (h : (closing existing e saved).Trace w es o)
    (hserves : s.Serves es s') (hr : s.Readable) (hid : s.hasAgent existing.agent.id)
    (hq : s'.ShallowFor existing.agent.id) : ∀ err, o ≠ .error err := by
  rintro err rfl
  rcases closing_error h with ⟨id, rfl⟩ | ⟨phase, source, rfl⟩
  · exact closing_finds h hserves hr hid hq id rfl
  · obtain ⟨call, hmem⟩ := closing_reports existing e saved w es phase source h
    exact closing_unrefused h hserves hr hid hq call source hmem

theorem additions_succeed {o : End Saved} (hp : r.Passes s existing e)
    (h : (Program.save c.coding existing.agent.id e.graph e.additions (.ofStored existing)).Trace w
      es o) (hserves : s.Serves es s') (hs : s.Lawful) (hr : s.Readable)
    (hsteps : ∀ a ∈ e.graph.actions, ∀ agentId modelId,
      .called (.createAction agentId modelId a) ∈ es → a.steps.length ≤ UInt32.size) :
    ∀ err, o ≠ .error err := by
  rintro err rfl
  obtain ⟨phase, source, rfl⟩ := Program.save_error_of_stored hp.completed h
  obtain ⟨call, hmem⟩ := Program.save_reports w es phase source h
  exact Program.save_unrefused h hserves hs hr (hp.fits hs)
    (fun a ha => hsteps a ha existing.agent.id) call source hmem

/-- An update that fails was turned down by a check, if the queries of its agent can be read in the
end. -/
theorem extend_turnedDown {err : CompileError} (h : (c.extend r).Trace w es (.error err))
    (hserves : s.Serves es s') (hs : s.Lawful) (hr : s.Readable) (hsteps : Numbered es)
    (hq : s'.ShallowFor r.agentId) : r.TurnedDown s err := by
  cases trace_extend h with
  | shape hviolations => exact .shape hviolations
  | unread hviolations hload =>
    obtain ⟨hloads, ⟨g, ho, -⟩ | ⟨ho, rfl⟩ | ⟨phase, source, ho⟩ | ho⟩ := trace_stored hload <;>
      cases ho
    · exact .missing hviolations hserves.loaded.2
    · obtain ⟨call, hmem⟩ := stored_reports r.agentId w _ phase source hload
      exact absurd hmem (hloads.unrefused hload hserves hr hq call source)
  | foreign hviolations hload howner =>
    rw [trace_stored_value hload] at hserves
    exact .foreign hviolations hserves.loaded.2 howner
  | references hviolations hload howned hissues =>
    rw [trace_stored_value hload] at hserves
    exact .references hviolations hserves.loaded.2 howned hissues
  | @adding es₁ es₂ existing e _ hviolations hload howned he hadding =>
    -- all checks are passed, and storing the additions does not fail
    obtain ⟨mid, hserves₁, hserves₂⟩ := hserves.split
    rw [trace_stored_value hload] at hserves₁
    obtain ⟨rfl, hloaded⟩ := hserves₁.loaded
    have hp : r.Passes mid existing e := ⟨hviolations, hloaded, howned, he⟩
    rcases Program.trace_bind_error hadding with ⟨saved, es₃, es₄, hsave, hclosing, rfl⟩ | hsave
    · obtain ⟨last, hserves₃, hserves₄⟩ := hserves₂.split
      have hthere : last.hasAgent existing.agent.id :=
        hserves₃.has (x := .agent existing.agent.id) (hp.fits hs).models.agent
      rw [← hp.agentId hs] at hq
      exact absurd rfl (closing_succeeds hclosing hserves₄ (hserves₃.readable hr) hthere hq err)
    · refine absurd rfl (additions_succeed hp hsave hserves₂ hs hr
        (fun a _ agentId modelId hcalled => ?_) err)
      exact hsteps agentId modelId a (List.mem_append_right _ hcalled)

end Updates

end Compiler
end AgentSpec
