import AgentSpec.Compile.Basic
import AgentSpec.Proofs.Persist.Stages

/-!
The phases of a compilation and of an update.

A request is checked, its graph is designed or the stored one is read, and the new graph is
completed.  Up to this point nothing is written.  Main statements: every trace takes one of a few
courses, which say where it ends before the first write and what it consists of otherwise
(`trace_compile`, `trace_extend`).
-/
namespace AgentSpec

/-! ## Calls and replies -/

theorem Strand.Trace.called {s : Strand α} {es : List Event} {o : End α} (h : s.Trace es o)
    {c : StoreCall} {r : c.Reply} (hr : .replied c r ∈ es) : .called c ∈ es := by
  induction h with
  | cut | done | failed => cases hr
  | unanswered => cases List.mem_singleton.mp hr
  | store r' h ih =>
    rcases List.mem_cons.mp hr with hr | hr
    · cases hr
    · rcases List.mem_cons.mp hr with hr | hr
      · cases hr
        exact List.mem_cons_self
      · exact List.mem_cons_of_mem _ (List.mem_cons_of_mem _ (ih hr))
  | code a h ih =>
    rcases List.mem_cons.mp hr with hr | hr
    · cases hr
    · exact List.mem_cons_of_mem _ (ih hr)

theorem Together.called {w : Weave} {strands : List (Strand β)} {es : List Event} {o : End (List β)}
    (h : Together w strands es o) {c : StoreCall} {r : c.Reply} (hr : .replied c r ∈ es) :
    .called c ∈ es := by
  obtain ⟨s, -, l, p, htr, hl, hsub⟩ := h.exists_trace hr
  exact hsub _ (htr.called hl)

/-- Only calls that were issued are answered. -/
theorem Program.Trace.called {w : Weave} {p : Program α} {es : List Event} {o : End α}
    (h : p.Trace w es o) {c : StoreCall} {r : c.Reply} (hr : .replied c r ∈ es) :
    .called c ∈ es := by
  induction h with
  | cut | done | failed => cases hr
  | unanswered => cases List.mem_singleton.mp hr
  | store r' h ih =>
    rcases List.mem_cons.mp hr with hr | hr
    · cases hr
    · rcases List.mem_cons.mp hr with hr | hr
      · cases hr
        exact List.mem_cons_self
      · exact List.mem_cons_of_mem _ (List.mem_cons_of_mem _ (ih hr))
  | design a h ih =>
    rcases List.mem_cons.mp hr with hr | hr
    · cases hr
    · exact List.mem_cons_of_mem _ (ih hr)
  | announce h ih =>
    rcases List.mem_cons.mp hr with hr | hr
    · cases hr
    · exact List.mem_cons_of_mem _ (ih hr)
  | together ht h ih =>
    rcases List.mem_append.mp hr with hr | hr
    · exact List.mem_append_left _ (ht.called hr)
    · exact List.mem_append_right _ (ih hr)
  | togetherFailed ht => exact ht.called hr
  | togetherCut ht => exact ht.called hr

namespace Compiler

variable {w : Weave} {es : List Event} {c : Compiler}

/-- Nothing was asked of the store. -/
def Silent (es : List Event) : Prop := ∀ call, .called call ∉ es

/-- Nothing was asked of the store that may change it. -/
def Reads (es : List Event) : Prop := ∀ call, .called call ∈ es → ¬call.isWrite

/-- Nothing but this agent was asked of the store. -/
def Loads (agentId : String) (es : List Event) : Prop :=
  ∀ call, .called call ∈ es → call = .loadGraph agentId

theorem Silent.reads (h : Silent es) : Reads es := fun call hc => absurd hc (h call)

theorem Loads.reads {agentId : String} (h : Loads agentId es) : Reads es := by
  intro call hc
  rw [h call hc]
  exact Bool.false_ne_true

theorem silent_nil : Silent [] := fun _ => List.not_mem_nil

/-! ## Before the first write -/

theorem trace_checked {vs : List Violation} {o : End Unit}
    (h : (Program.ofExcept ((checked vs ()).mapError CompileError.shape)).Trace w es o) :
    es = [] ∧
      ((vs = [] ∧ o = .value ()) ∨ (vs ≠ [] ∧ o = .error (.shape vs)) ∨ o = .cut) := by
  obtain ⟨rfl, ho⟩ := Program.trace_ofExcept h
  refine ⟨rfl, ?_⟩
  unfold checked at ho
  by_cases hvs : vs.isEmpty
  · rw [if_pos hvs] at ho
    rcases ho with ⟨u, -, ho⟩ | ⟨e, he, -⟩ | ho
    · exact Or.inl ⟨List.isEmpty_iff.mp hvs, ho⟩
    · cases he
    · exact Or.inr (Or.inr ho)
  · rw [if_neg hvs] at ho
    rcases ho with ⟨u, hu, -⟩ | ⟨e, he, ho⟩ | ho
    · cases hu
    · cases he
      exact Or.inr (Or.inl ⟨fun hnil => hvs (List.isEmpty_iff.mpr hnil), ho⟩)
    · exact Or.inr (Or.inr ho)

/-- What follows a check is done if it finds nothing. -/
theorem trace_checked_bind {vs : List Violation} {p : Program α} {o : End α}
    (h : (Program.ofExcept ((checked vs ()).mapError CompileError.shape) >>= fun _ => p).Trace w es
      o) :
    (vs = [] ∧ p.Trace w es o) ∨ (es = [] ∧ ((vs ≠ [] ∧ o = .error (.shape vs)) ∨ o = .cut)) := by
  rcases Program.trace_bind h with ⟨u, es₁, es₂, h₁, h₂, rfl⟩ | ⟨e, h₁, rfl⟩ | ⟨h₁, rfl⟩
  · obtain ⟨rfl, ⟨hvs, -⟩ | ⟨-, ho⟩ | ho⟩ := trace_checked h₁
    · exact Or.inl ⟨hvs, h₂⟩
    · cases ho
    · cases ho
  · obtain ⟨rfl, ⟨-, ho⟩ | ⟨hvs, ho⟩ | ho⟩ := trace_checked h₁ <;> cases ho
    exact Or.inr ⟨rfl, Or.inl ⟨hvs, rfl⟩⟩
  · exact Or.inr ⟨(trace_checked h₁).1, Or.inr rfl⟩

/-- What follows the completion of a graph is done if all names resolve. -/
theorem trace_resolved_bind {x : Except (List Issue) Enriched} {f : Enriched → Program α} {o : End α}
    (h : (Program.resolved x >>= f).Trace w es o) :
    (∃ e, x = .ok e ∧ (f e).Trace w es o) ∨
      (es = [] ∧ ((∃ issues, x = .error issues ∧ o = .error (.references issues)) ∨ o = .cut)) := by
  rcases Program.trace_bind h with ⟨e, es₁, es₂, h₁, h₂, rfl⟩ | ⟨e', h₁, rfl⟩ | ⟨h₁, rfl⟩
  · obtain ⟨rfl, ⟨e', he, ho⟩ | ⟨issues, -, ho⟩ | ho⟩ := Program.trace_resolved h₁ <;> cases ho
    exact Or.inl ⟨e, he, h₂⟩
  · obtain ⟨rfl, ⟨e, -, ho⟩ | ⟨issues, hx, ho⟩ | ho⟩ := Program.trace_resolved h₁ <;> cases ho
    exact Or.inr ⟨rfl, Or.inl ⟨issues, hx, rfl⟩⟩
  · exact Or.inr ⟨(Program.trace_resolved h₁).1, Or.inr rfl⟩

/-- The graph of a request is given or designed; nothing else is asked, and an error blames the
design. -/
theorem trace_graphOf {r : CompileRequest} {o : End (Graph × Option (List String))}
    (h : (c.graphOf r).Trace w es o) :
    Silent es ∧ ((∃ p, o = .value p ∧
        ((r.source = .graph p.1 ∧ p.2 = none) ∨ ∃ answer, Graph.ofAnswer answer = .ok p.1)) ∨
      (∃ fault, o = .error (.synthesis fault)) ∨ o = .cut) := by
  unfold graphOf at h
  cases hs : r.source with
  | graph g =>
    simp only [hs] at h
    obtain ⟨rfl, ho | ho⟩ := Program.trace_pure.mp h
    · exact ⟨silent_nil, Or.inl ⟨_, ho, Or.inl ⟨rfl, rfl⟩⟩⟩
    · exact ⟨silent_nil, Or.inr (Or.inr ho)⟩
  | features wanted connections =>
    simp only [hs] at h
    split at h
    · obtain ⟨rfl, ho | ho⟩ := Program.trace_failed.mp h
      · exact ⟨silent_nil, Or.inr (Or.inl ⟨_, ho⟩)⟩
      · exact ⟨silent_nil, Or.inr (Or.inr ho)⟩
    · rcases Program.trace_design h with ⟨rfl, rfl⟩ | ⟨a, es', rfl, ht⟩
      · exact ⟨silent_nil, Or.inr (Or.inr rfl)⟩
      have hsilent (request : SynthesisRequest) (hes : es' = []) :
          Silent (.designed request a :: es') := by
        intro call hcall
        rw [hes] at hcall
        cases List.mem_singleton.mp hcall
      cases a with
      | error fault =>
        obtain ⟨hes, ho | ho⟩ := Program.trace_failed.mp ht
        · exact ⟨hsilent _ hes, Or.inr (Or.inl ⟨_, ho⟩)⟩
        · exact ⟨hsilent _ hes, Or.inr (Or.inr ho)⟩
      | ok answer =>
        obtain ⟨hes, ho⟩ := Program.trace_ofExcept ht
        refine ⟨hsilent _ hes, ?_⟩
        cases hg : Graph.ofAnswer answer with
        | ok g =>
          rw [hg] at ho
          rcases ho with ⟨p, hp, ho⟩ | ⟨e', he', -⟩ | ho
          · cases hp
            exact Or.inl ⟨_, ho, Or.inr ⟨answer, hg⟩⟩
          · cases he'
          · exact Or.inr (Or.inr ho)
        | error fault =>
          rw [hg] at ho
          rcases ho with ⟨p, hp, -⟩ | ⟨e', he', ho⟩ | ho
          · cases hp
          · cases he'
            exact Or.inr (Or.inl ⟨fault, ho⟩)
          · exact Or.inr (Or.inr ho)

theorem trace_graphOf_value {r : CompileRequest} {g : Graph} {permitted : Option (List String)}
    (h : (c.graphOf r).Trace w es (.value (g, permitted))) :
    Silent es ∧ (r.source = .graph g ∨ ∃ answer, Graph.ofAnswer answer = .ok g) := by
  obtain ⟨hsilent, ⟨p, ho, hsource⟩ | ⟨fault, ho⟩ | ho⟩ := trace_graphOf h <;> cases ho
  exact ⟨hsilent, hsource.imp_left fun h => h.1⟩

/-- Reading the stored graph of an agent is one call that changes nothing. -/
theorem trace_stored {agentId : String} {o : End StoredGraph}
    (h : (stored agentId).Trace w es o) :
    Loads agentId es ∧ ((∃ g, o = .value g ∧
        es = [.called (.loadGraph agentId), .replied (.loadGraph agentId) (.ok (some g))]) ∨
      (o = .error (.agentNotFound agentId) ∧
        es = [.called (.loadGraph agentId), .replied (.loadGraph agentId) (.ok none)]) ∨
      (∃ phase source, o = .error (.persistence phase source)) ∨ o = .cut) := by
  have hcalled : Loads agentId [.called (.loadGraph agentId)] := by
    intro call hcall
    cases List.mem_singleton.mp hcall
    rfl
  have hreplied (v : (StoreCall.loadGraph agentId).Reply) :
      Loads agentId [.called (.loadGraph agentId), .replied (.loadGraph agentId) v] := by
    intro call hcall
    rcases List.mem_cons.mp hcall with hcall | hcall
    · cases hcall
      rfl
    · cases List.mem_singleton.mp hcall
  rcases Program.trace_bind h with ⟨found, es₁, es₂, h₁, h₂, rfl⟩ | ⟨e, h₁, rfl⟩ | ⟨h₁, rfl⟩
  · rw [Program.trace_ask_value h₁]
    cases found with
    | none =>
      obtain ⟨rfl, ho | ho⟩ := Program.trace_failed.mp h₂
      · exact ⟨hreplied _, Or.inr (Or.inl ⟨ho, rfl⟩)⟩
      · exact ⟨hreplied _, Or.inr (Or.inr (Or.inr ho))⟩
    | some g =>
      obtain ⟨rfl, ho | ho⟩ := Program.trace_pure.mp h₂
      · exact ⟨hreplied _, Or.inl ⟨g, ho, rfl⟩⟩
      · exact ⟨hreplied _, Or.inr (Or.inr (Or.inr ho))⟩
  · rcases Program.trace_ask h₁ with ⟨-, ho⟩ | ⟨-, ho⟩ | ⟨v, -, ho | ho⟩ | ⟨source, rfl, ho | ho⟩ <;>
      cases ho
    exact ⟨hreplied _, Or.inr (Or.inr (Or.inl ⟨_, _, rfl⟩))⟩
  · refine ⟨?_, Or.inr (Or.inr (Or.inr rfl))⟩
    rcases Program.trace_ask h₁ with ⟨rfl, -⟩ | ⟨rfl, -⟩ | ⟨v, rfl, -⟩ | ⟨e, rfl, -⟩
    · exact fun call hcall => absurd hcall List.not_mem_nil
    · exact hcalled
    · exact hreplied _
    · exact hreplied _

theorem trace_stored_value {agentId : String} {g : StoredGraph}
    (h : (stored agentId).Trace w es (.value g)) :
    es = [.called (.loadGraph agentId), .replied (.loadGraph agentId) (.ok (some g))] := by
  obtain ⟨-, ⟨g', ho, hes⟩ | ⟨ho, -⟩ | ⟨phase, source, ho⟩ | ho⟩ := trace_stored h <;> cases ho
  exact hes

theorem trace_finish {verb : Verb} {graph : StoredGraph} {counts : Counts}
    {warnings : List Warning} {o : End Outcome}
    (h : (finish verb graph counts warnings).Trace w es o) :
    Silent es ∧ writes es = [] ∧
      (o = .value (.ofStored verb graph counts warnings) ∨ o = .cut) := by
  have htold : Silent [.told (.complete verb graph.agent.name)] := by
    intro call hcall
    cases List.mem_singleton.mp hcall
  rcases Program.trace_bind h with ⟨u, es₁, es₂, h₁, h₂, rfl⟩ | ⟨e', h₁, -⟩ | ⟨h₁, rfl⟩
  · obtain ⟨rfl, ho⟩ := Program.trace_pure.mp h₂
    rw [List.append_nil]
    rcases Program.trace_tell h₁ with ⟨rfl, -⟩ | ⟨rfl, -⟩
    · exact ⟨silent_nil, rfl, ho⟩
    · exact ⟨htold, rfl, ho⟩
  · rcases Program.trace_tell h₁ with ⟨-, ho⟩ | ⟨-, ho | ho⟩ <;> cases ho
  · rcases Program.trace_tell h₁ with ⟨rfl, -⟩ | ⟨rfl, -⟩
    · exact ⟨silent_nil, rfl, Or.inr rfl⟩
    · exact ⟨htold, rfl, Or.inr rfl⟩

/-! ## Compilations -/

/-- A new agent with a completed graph. -/
def storing (c : Compiler) (r : CompileRequest) (e : Enriched) : Program Outcome := do
  let agent ← Program.ask .agent <| .createAgent
    { name := r.name, description := r.description, ownerId := r.ownerId
      rootModel := e.graph.rootModel, connections := e.connections }
  let saved ← Program.save c.coding agent.id e.graph e.additions {}
  let counts := Counts.ofSaved saved e.derivedFieldCount agent.connections.length
  finish .compiled
    { agent, models := saved.models, actions := saved.actions, schedules := saved.schedules }
    counts (e.warnings ++ saved.warnings)

/-- A compilation of a given graph that passes all checks stores it. -/
theorem compile_eq_storing {r : CompileRequest} {g : Graph} {e : Enriched}
    (hrequest : r.violations = []) (hsource : r.source = .graph g)
    (he : g.withRoot.enrich {} none = .ok e) : c.compile r = c.storing r e := by
  have hgraph : c.graphOf r = .done (g, none) := by
    rw [graphOf, hsource]
    rfl
  have hchecked : Program.ofExcept ((checked r.violations ()).mapError CompileError.shape) =
      .done () := by
    rw [hrequest]
    rfl
  have hresolved : Program.resolved (g.withRoot.enrich {} none) = .done e := by
    rw [he]
    rfl
  have hdone {α β : Type} (a : α) (f : α → Program β) : (Program.done a >>= f) = f a := rfl
  have hcompile : c.compile r = Program.ofExcept ((checked r.violations ()).mapError .shape) >>=
      fun _ => c.graphOf r >>= fun p => Program.resolved (p.1.withRoot.enrich {} p.2) >>=
      fun e => c.storing r e := rfl
  rw [hcompile, hchecked, hdone, hgraph, hdone, hresolved, hdone]

/-- A check turns a compilation down, it stops before the store is called, or a completed graph is
stored. -/
inductive CompileCourse (w : Weave) (c : Compiler) (r : CompileRequest) :
    List Event → End Outcome → Prop
  | shape : r.violations ≠ [] → CompileCourse w c r [] (.error (.shape r.violations))
  | synthesis {es : List Event} {fault : SynthesisFault} : r.violations = [] →
    (c.graphOf r).Trace w es (.error (.synthesis fault)) →
    CompileCourse w c r es (.error (.synthesis fault))
  | references {es : List Event} {g : Graph} {permitted : Option (List String)}
    {issues : List Issue} : r.violations = [] → (c.graphOf r).Trace w es (.value (g, permitted)) →
    g.withRoot.enrich {} permitted = .error issues →
    CompileCourse w c r es (.error (.references issues))
  | cut {es : List Event} : Silent es → CompileCourse w c r es .cut
  | storing {es₁ es₂ : List Event} {g : Graph} {permitted : Option (List String)} {e : Enriched}
    {o : End Outcome} : r.violations = [] → (c.graphOf r).Trace w es₁ (.value (g, permitted)) →
    g.withRoot.enrich {} permitted = .ok e → (c.storing r e).Trace w es₂ o →
    CompileCourse w c r (es₁ ++ es₂) o

theorem trace_compile {r : CompileRequest} {o : End Outcome} (h : (c.compile r).Trace w es o) :
    CompileCourse w c r es o := by
  rcases trace_checked_bind h with ⟨hviolations, h₁⟩ | ⟨rfl, ⟨hviolations, rfl⟩ | rfl⟩
  case inr.inl => exact .shape hviolations
  case inr.inr => exact .cut silent_nil
  rcases Program.trace_bind h₁ with ⟨⟨g, permitted⟩, es₁, es₂, hgraph, h₂, rfl⟩ | ⟨e', hgraph, rfl⟩ |
    ⟨hgraph, rfl⟩
  case inr.inl =>
    obtain ⟨-, ⟨p, ho, -⟩ | ⟨fault, ho⟩ | ho⟩ := trace_graphOf hgraph <;> cases ho
    exact .synthesis hviolations hgraph
  case inr.inr => exact .cut (trace_graphOf hgraph).1
  rcases trace_resolved_bind h₂ with ⟨e, he, hstoring⟩ | ⟨rfl, ⟨issues, hissues, rfl⟩ | rfl⟩
  · exact .storing hviolations hgraph he hstoring
  · rw [List.append_nil]
    exact .references hviolations hgraph hissues
  · rw [List.append_nil]
    exact .cut (trace_graphOf hgraph).1

/-! ## Updates -/

/-- What follows when all additions are stored. -/
def closing (existing : StoredGraph) (e : Enriched) (saved : Saved) : Program Outcome := do
  let agent ← Program.ask .agent <| .updateAgent existing.agent.id
    { rootModel := if existing.agent.rootModel.isSome then none else e.graph.defaultRoot?
      connections := some (mergeConnections existing.agent.connections e.connections) }
  let graph ← stored agent.id
  let counts := Counts.ofSaved saved e.derivedFieldCount agent.connections.length
  finish .updated graph counts (e.warnings ++ saved.warnings)

/-- What follows when the additions pass all checks. -/
def adding (c : Compiler) (existing : StoredGraph) (e : Enriched) : Program Outcome := do
  let saved ← Program.save c.coding existing.agent.id e.graph e.additions (.ofStored existing)
  closing existing e saved

/-- A check turns an update down, it stops before the first write, or additions to the agent that was
read are stored. -/
inductive UpdateCourse (w : Weave) (c : Compiler) (r : UpdateRequest) :
    List Event → End Outcome → Prop
  | shape : r.violations ≠ [] → UpdateCourse w c r [] (.error (.shape r.violations))
  | unread {es : List Event} {err : CompileError} : r.violations = [] →
    (stored r.agentId).Trace w es (.error err) → UpdateCourse w c r es (.error err)
  | foreign {es : List Event} {existing : StoredGraph} : r.violations = [] →
    (stored r.agentId).Trace w es (.value existing) → existing.agent.ownerId ≠ r.ownerId →
    UpdateCourse w c r es (.error (.notOwner r.agentId r.ownerId))
  | references {es : List Event} {existing : StoredGraph} {issues : List Issue} :
    r.violations = [] → (stored r.agentId).Trace w es (.value existing) →
    existing.agent.ownerId = r.ownerId → r.delta.enrich existing.toGraph none = .error issues →
    UpdateCourse w c r es (.error (.references issues))
  | cut {es : List Event} : Reads es → UpdateCourse w c r es .cut
  | adding {es₁ es₂ : List Event} {existing : StoredGraph} {e : Enriched} {o : End Outcome} :
    r.violations = [] → (stored r.agentId).Trace w es₁ (.value existing) →
    existing.agent.ownerId = r.ownerId → r.delta.enrich existing.toGraph none = .ok e →
    (c.adding existing e).Trace w es₂ o → UpdateCourse w c r (es₁ ++ es₂) o

theorem trace_extend {r : UpdateRequest} {o : End Outcome} (h : (c.extend r).Trace w es o) :
    UpdateCourse w c r es o := by
  rcases trace_checked_bind h with ⟨hviolations, h₁⟩ | ⟨rfl, ⟨hviolations, rfl⟩ | rfl⟩
  case inr.inl => exact .shape hviolations
  case inr.inr => exact .cut silent_nil.reads
  rcases Program.trace_bind h₁ with ⟨existing, es₁, es₂, hload, h₂, rfl⟩ | ⟨e', hload, rfl⟩ |
    ⟨hload, rfl⟩
  case inr.inl => exact .unread hviolations hload
  case inr.inr => exact .cut (trace_stored hload).1.reads
  have hreads := (trace_stored hload).1.reads
  by_cases howner : existing.agent.ownerId ≠ r.ownerId
  · rw [if_pos howner] at h₂
    obtain ⟨rfl, rfl | rfl⟩ := Program.trace_failed.mp h₂
    · rw [List.append_nil]
      exact .foreign hviolations hload howner
    · rw [List.append_nil]
      exact .cut hreads
  rw [if_neg howner] at h₂
  have howned := not_not.mp howner
  rcases trace_resolved_bind h₂ with ⟨e, he, hadding⟩ | ⟨rfl, ⟨issues, hissues, rfl⟩ | rfl⟩
  · exact .adding hviolations hload howned he hadding
  · rw [List.append_nil]
    exact .references hviolations hload howned hissues
  · rw [List.append_nil]
    exact .cut hreads

end Compiler
end AgentSpec
