import AgentSpec.Proofs.Compile.Phases
import AgentSpec.Proofs.Enrich.Draft
import AgentSpec.Proofs.Enrich.Scope

/-!
Requests that are turned down leave nothing behind.

The names that a completed graph uses are looked up before anything is stored, and the stages look
them up again, in identifiers that grow as the run goes on.  Both find the same names, so the stages
never fail for a name, and every error that blames the request comes before the first write.
-/
namespace AgentSpec

variable {w : Weave} {es : List Event}

/-- Where the look-up of names finds no issue, the stages fail in the store or not at all. -/
theorem Program.save_error_of_enrich {existing delta : Graph} {permitted : Option (List String)}
    {e : Enriched} {known : Known} {coding : Bool} {agentId : String} {err : CompileError}
    (he : delta.enrich existing permitted = .ok e)
    (hm : ∀ m ∈ existing.models, ∃ id, known.models.lookup m.name = some id)
    (ha : ∀ a ∈ existing.actions, ∃ id, known.actions.lookup a.name = some id)
    (h : (save coding agentId e.graph e.additions known).Trace w es (.error err)) :
    ∃ phase source, err = .persistence phase source := by
  obtain ⟨hissues, hanchored⟩ := Graph.resolves_of_enrich he
  have hres := Scope.issues_eq_nil.mp hissues
  have hreach {name : String} (hr : Scope.Reaches ⟨existing, e.graph, e.additions⟩ name) :
      name ∈ e.graph.models.map (·.name) ∨ ∃ id, known.models.lookup name = some id := by
    rcases hr with ⟨m, hmem, rfl⟩ | ⟨m, hmem, rfl⟩
    · exact Or.inr (hm m hmem)
    · exact Or.inl (List.mem_map_of_mem hmem)
  refine save_error h ?_ (fun a hmem => hreach (hres.targets a hmem)) fun c hc t ht => ?_
  · intro add hadd
    obtain ⟨m, hmem, hname⟩ := hanchored add hadd
    rw [← hname]
    exact hm m hmem
  · obtain ⟨hmodel, htarget⟩ := hres.turns c hc t ht
    obtain ⟨a, hmem, hname, -⟩ := Scope.exists_of_target htarget
    refine ⟨hreach hmodel, ?_⟩
    rw [← hname]
    rcases List.mem_append.mp hmem with hmem | hmem
    · exact Or.inr (ha a hmem)
    · exact Or.inl (List.mem_map_of_mem hmem)

theorem Program.save_error_of_stored {existing : StoredGraph} {delta : Graph}
    {permitted : Option (List String)} {e : Enriched} {coding : Bool} {agentId : String}
    {err : CompileError} (he : delta.enrich existing.toGraph permitted = .ok e)
    (h : (save coding agentId e.graph e.additions (.ofStored existing)).Trace w es (.error err)) :
    ∃ phase source, err = .persistence phase source := by
  refine save_error_of_enrich he ?_ ?_ h
  · intro m hm
    obtain ⟨stored, hstored, rfl⟩ := List.mem_map.mp hm
    exact Known.exists_ofStored_models (List.mem_map_of_mem hstored)
  · intro a ha
    obtain ⟨stored, hstored, rfl⟩ := List.mem_map.mp ha
    exact Known.exists_ofStored_actions (List.mem_map_of_mem hstored)

namespace Compiler

variable {c : Compiler} {err : CompileError}

/-- Storing a completed graph fails, if at all, in the store. -/
theorem storing_error {r : CompileRequest} {g : Graph} {permitted : Option (List String)}
    {e : Enriched}
    (he : g.enrich {} permitted = .ok e) (h : (c.storing r e).Trace w es (.error err)) :
    ∃ phase source, err = .persistence phase source := by
  rcases Program.trace_bind h with ⟨agent, es₁, es₂, -, h₂, -⟩ | ⟨e', h₁, ho⟩ | ⟨-, ho⟩
  case inr.inl =>
    cases ho
    rcases Program.trace_ask h₁ with ⟨-, ho⟩ | ⟨-, ho⟩ | ⟨v, -, ho | ho⟩ | ⟨source, -, ho | ho⟩ <;>
      cases ho
    exact ⟨_, _, rfl⟩
  case inr.inr => cases ho
  rcases Program.trace_bind h₂ with ⟨saved, es₃, es₄, -, h₄, -⟩ | ⟨e', h₃, ho⟩ | ⟨-, ho⟩
  · obtain ⟨-, -, ho | ho⟩ := trace_finish h₄ <;> cases ho
  · cases ho
    exact Program.save_error_of_enrich he (List.forall_mem_nil _) (List.forall_mem_nil _) h₃
  · cases ho

/-- A compilation that fails has asked nothing of the store, or it failed there. -/
theorem compile_error {r : CompileRequest} (h : (c.compile r).Trace w es (.error err)) :
    (es = [] ∧ ∃ vs, err = .shape vs) ∨
      (Silent es ∧ ((∃ fault, err = .synthesis fault) ∨ ∃ issues, err = .references issues)) ∨
      ∃ phase source, err = .persistence phase source := by
  cases trace_compile h with
  | shape => exact Or.inl ⟨rfl, _, rfl⟩
  | synthesis _ hgraph => exact Or.inr (Or.inl ⟨(trace_graphOf hgraph).1, Or.inl ⟨_, rfl⟩⟩)
  | references _ hgraph => exact Or.inr (Or.inl ⟨(trace_graphOf hgraph).1, Or.inr ⟨_, rfl⟩⟩)
  | storing _ _ he hstoring => exact Or.inr (Or.inr (storing_error he hstoring))

theorem closing_error {existing : StoredGraph} {e : Enriched} {saved : Saved}
    (h : (closing existing e saved).Trace w es (.error err)) :
    (∃ id, err = .agentNotFound id) ∨ ∃ phase source, err = .persistence phase source := by
  rcases Program.trace_bind h with ⟨agent, es₁, es₂, -, h₂, -⟩ | ⟨e', h₁, ho⟩ | ⟨-, ho⟩
  case inr.inl =>
    cases ho
    rcases Program.trace_ask h₁ with ⟨-, ho⟩ | ⟨-, ho⟩ | ⟨v, -, ho | ho⟩ | ⟨source, -, ho | ho⟩ <;>
      cases ho
    exact Or.inr ⟨_, _, rfl⟩
  case inr.inr => cases ho
  rcases Program.trace_bind h₂ with ⟨graph, es₃, es₄, -, h₄, -⟩ | ⟨e', h₃, ho⟩ | ⟨-, ho⟩
  · obtain ⟨-, -, ho | ho⟩ := trace_finish h₄ <;> cases ho
  · cases ho
    obtain ⟨-, ⟨g, ho, -⟩ | ⟨ho, -⟩ | ⟨phase, source, ho⟩ | ho⟩ := trace_stored h₃ <;> cases ho
    · exact Or.inl ⟨_, rfl⟩
    · exact Or.inr ⟨_, _, rfl⟩
  · cases ho

/-- An update that fails has only read from the store, or the store failed, or the agent is gone. -/
theorem extend_error {r : UpdateRequest} (h : (c.extend r).Trace w es (.error err)) :
    (es = [] ∧ ∃ vs, err = .shape vs) ∨
      (Reads es ∧ ((∃ issues, err = .references issues) ∨ ∃ id owner, err = .notOwner id owner)) ∨
      (∃ id, err = .agentNotFound id) ∨ ∃ phase source, err = .persistence phase source := by
  cases trace_extend h with
  | shape => exact Or.inl ⟨rfl, _, rfl⟩
  | unread _ hload =>
    obtain ⟨-, ⟨g, ho, -⟩ | ⟨ho, -⟩ | ⟨phase, source, ho⟩ | ho⟩ := trace_stored hload <;> cases ho
    · exact Or.inr (Or.inr (Or.inl ⟨_, rfl⟩))
    · exact Or.inr (Or.inr (Or.inr ⟨_, _, rfl⟩))
  | foreign _ hload =>
    exact Or.inr (Or.inl ⟨(trace_stored hload).1.reads, Or.inr ⟨_, _, rfl⟩⟩)
  | references _ hload =>
    exact Or.inr (Or.inl ⟨(trace_stored hload).1.reads, Or.inl ⟨_, rfl⟩⟩)
  | adding _ _ _ he hadding =>
    rcases Program.trace_bind_error hadding with ⟨saved, es₃, es₄, -, hclosing, -⟩ | hsave
    · exact Or.inr (Or.inr (closing_error hclosing))
    · exact Or.inr (Or.inr (Or.inr (Program.save_error_of_stored he hsave)))

/-- An error that blames the request or who sent it leaves the store as it was: no write was issued.
If the shape of the request is at fault, nothing was asked of anyone.  Once a delta is completed
against a stored graph, storing it never fails for a name. -/
theorem rejection_writes_nothing (c : Compiler) :
    (∀ r es err, (c.compile r).Trace .any es (.error err) →
      (err.isValidation ∨ ∃ id owner, err = .notOwner id owner) →
      ∀ call, .called call ∈ es → ¬call.isWrite) ∧
    (∀ r es err, (c.extend r).Trace .any es (.error err) →
      (err.isValidation ∨ ∃ id owner, err = .notOwner id owner) →
      ∀ call, .called call ∈ es → ¬call.isWrite) ∧
    (∀ r es vs, (c.compile r).Trace .any es (.error (.shape vs)) → es = []) ∧
    (∀ r es vs, (c.extend r).Trace .any es (.error (.shape vs)) → es = []) ∧
    ∀ (existing : StoredGraph) (delta : Graph) (permitted : Option (List String)) (e : Enriched)
      (coding : Bool) (agentId : String) (es : List Event) (err : CompileError),
      delta.enrich existing.toGraph permitted = .ok e →
      (Program.save coding agentId e.graph e.additions (.ofStored existing)).Trace .any es
        (.error err) →
      ∀ issues, err ≠ .references issues := by
  refine ⟨fun r es err h hblame => ?_, fun r es err h hblame => ?_, fun r es vs h => ?_,
    fun r es vs h => ?_, fun existing delta permitted e coding agentId es err he h issues heq => ?_⟩
  · rcases compile_error h with ⟨rfl, -⟩ | ⟨hsilent, -⟩ | ⟨phase, source, rfl⟩
    · exact fun _ hcall => absurd hcall List.not_mem_nil
    · exact hsilent.reads
    · rcases hblame with hblame | ⟨id, owner, hblame⟩ <;> cases hblame
  · rcases extend_error h with ⟨rfl, -⟩ | ⟨hreads, -⟩ | ⟨id, rfl⟩ | ⟨phase, source, rfl⟩
    · exact fun _ hcall => absurd hcall List.not_mem_nil
    · exact hreads
    · rcases hblame with hblame | ⟨id, owner, hblame⟩ <;> cases hblame
    · rcases hblame with hblame | ⟨id, owner, hblame⟩ <;> cases hblame
  · rcases compile_error h with ⟨hes, -⟩ | ⟨-, ⟨fault, herr⟩ | ⟨issues, herr⟩⟩ |
      ⟨phase, source, herr⟩
    · exact hes
    all_goals cases herr
  · rcases extend_error h with ⟨hes, -⟩ | ⟨-, ⟨issues, herr⟩ | ⟨id, owner, herr⟩⟩ |
      ⟨id, herr⟩ | ⟨phase, source, herr⟩
    · exact hes
    all_goals cases herr
  · obtain ⟨phase, source, herr⟩ := Program.save_error_of_stored he h
    rw [heq] at herr
    cases herr

section Witness

/-- An action on a model that nobody defines. -/
def strayTarget : CompileRequest where
  name := "Sales"
  ownerId := "ada"
  source := .graph
    { models := [{ name := "Lead" }]
      actions := [{ name := "call", title := "Call", targetModel := "Leads" }] }

/-- An agent with one model. -/
def adasAgent : StoredGraph where
  agent :=
    { id := "agent-01", name := "Sales", description := "", ownerId := "ada", rootModel := "Lead"
      connections := [], createdAt := ⟨20000, 0, 0⟩, updatedAt := ⟨20000, 0, 0⟩ }
  models := [⟨"model-01", { name := "Lead" }⟩]
  actions := []
  schedules := []

def bobsAddition : UpdateRequest where
  agentId := "agent-01"
  ownerId := "bob"
  models := [{ name := "Deal" }]

/-- Ada's agent is read, and that is all. -/
def bobsEvents : List Event :=
  [.called (.loadGraph "agent-01"), .replied (.loadGraph "agent-01") (.ok (some adasAgent))]

theorem rejection_writes_nothing_for_bob :
    ((({} : Compiler).extend bobsAddition).Trace .any bobsEvents
        (.error (.notOwner "agent-01" "bob")) ∧
      ∀ call, .called call ∈ bobsEvents → ¬call.isWrite) ∧
    ((({} : Compiler).compile strayTarget).Trace .any []
        (.error (.references [⟨"action 'call'", .unresolved "model" "Leads" ["Lead"]⟩])) ∧
      ∀ call, .called call ∈ ([] : List Event) → ¬call.isWrite) := by
  have hbob : (({} : Compiler).extend bobsAddition).Trace .any bobsEvents
      (.error (.notOwner "agent-01" "bob")) := by
    unfold bobsEvents
    refine .store _ ?_
    exact .failed _
  have hstray : (({} : Compiler).compile strayTarget).Trace .any []
      (.error (.references [⟨"action 'call'", .unresolved "model" "Leads" ["Lead"]⟩])) :=
    .failed _
  exact ⟨⟨hbob, (rejection_writes_nothing {}).2.1 _ _ _ hbob (Or.inr ⟨_, _, rfl⟩)⟩,
    hstray, (rejection_writes_nothing {}).1 _ _ _ hstray (Or.inl rfl)⟩

end Witness

end Compiler
end AgentSpec
