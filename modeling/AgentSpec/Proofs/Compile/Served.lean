import AgentSpec.Proofs.Compile.Admission
import AgentSpec.Proofs.Compile.Lossless

/-!
Requests that are let through succeed.

In tables that requests made, one after the other, all is lawful and every row can be read, wherever
earlier requests stopped and whatever they ended with.  So the tables admit each call of the next
request, as long as the steps of its actions can be numbered.  It never ends with an error of the
store, and one that passes all checks has a result (`Served.never_refused`).

Positions have 32 bits.  An action of more steps passes all checks, and the tables refuse the first
step that has the position of another one (`Compiler.compile_refused`).
-/
namespace AgentSpec

/-! ## Runs with a result -/

namespace Program

variable {env : Surroundings} {w mid : World}

theorem run_bind_ok {p : Program α} {f : α → Program β} {a : α}
    (h : (p.run env).run w = (.ok a, mid)) :
    ((p >>= f).run env).run w = ((f a).run env).run mid := by
  rw [run_bind]
  exact Run.bind_ok h

/-- A program whose traces never end with an error runs to a result. -/
theorem exists_run (henv : env.Attentive) {p : Program α}
    (h : ∀ es o s', p.Trace .any es o → w.store.Serves es s' → ∀ err, o ≠ .error err) :
    ∃ a w' es, (p.run env).run w = (.ok a, w') ∧ p.Trace .any es (.value a) ∧
      w.store.Serves es w'.store := by
  cases hrun : (p.run env).run w with
  | mk res w' =>
    obtain ⟨es, o, ht, ho, hserves⟩ := run_ends henv hrun
    cases ho with
    | value a => exact ⟨a, w', es, rfl, ht, hserves⟩
    | error e => exact absurd rfl (h es _ w'.store ht hserves e)

end Program

namespace Compiler

variable {c : Compiler} {env : Surroundings} {w w₁ : World} {e : Enriched}

theorem run_checked {vs : List Violation} (h : vs = []) :
    ((Program.ofExcept ((checked vs ()).mapError CompileError.shape)).run env).run w =
      (.ok (), w) := by
  rw [h]
  rfl

theorem run_resolved {r : Except (List Issue) Enriched} (h : r = .ok e) :
    ((Program.resolved r).run env).run w = (.ok e, w) := by
  rw [h]
  rfl

/-- A graph is had without a change to the tables. -/
theorem run_graphOf {r : CompileRequest} {g : Graph} {permitted : Option (List String)}
    (henv : env.Attentive) (h : ((c.graphOf r).run env).run w = (.ok (g, permitted), w₁)) :
    w₁.store = w.store ∧ (r.source = .graph g ∨ ∃ answer, Graph.ofAnswer answer = .ok g) := by
  obtain ⟨es, o, ht, ho, hserves⟩ := Program.run_ends henv h
  cases ho
  obtain ⟨hsilent, hsource⟩ := trace_graphOf_value ht
  exact ⟨hserves.eq_of_reads fun call _ hmem => hsilent.reads call (ht.called hmem), hsource⟩

/-- What the tables load is read. -/
theorem run_stored {agentId : String} {existing : StoredGraph} (henv : env.Attentive)
    (hs : w.store.Lawful) (hr : w.store.Readable)
    (hload : w.store.load agentId = .ok (some existing)) :
    ∃ w₁, ((stored agentId).run env).run w = (.ok existing, w₁) ∧ w₁.store = w.store := by
  obtain ⟨g, w₁, es, hrun, ht, hserves⟩ := Program.exists_run (p := stored agentId) henv <| by
    rintro es o s' ht hserves err rfl
    obtain ⟨hloads, ⟨g, ho, -⟩ | ⟨-, rfl⟩ | ⟨phase, source, ho⟩ | ho⟩ := trace_stored ht
    · cases ho
    · have hnone := hserves.loaded.2
      rw [hload] at hnone
      cases hnone
    · cases ho
      obtain ⟨call, hmem⟩ := stored_reports agentId .any es phase source ht
      obtain ⟨g, hl, -⟩ := Store.lists_of_load hs hload
      obtain rfl := hserves.eq_of_reads fun call _ hmem => hloads.reads call (ht.called hmem)
      exact hloads.unrefused ht hserves hr (hl.shallowFor hs) call source hmem
    · cases ho
  rw [trace_stored_value ht] at hserves
  obtain ⟨hstore, hfound⟩ := hserves.loaded
  rw [hload] at hfound
  cases hfound
  exact ⟨w₁, hrun, hstore⟩

/-- A compilation that passes all checks goes on to store its graph. -/
theorem perform_storing {r : CompileRequest} {g : Graph} {permitted : Option (List String)}
    (hrequest : r.violations = [])
    (hgraph : c.perform env (c.graphOf r) w = (.ok (g, permitted), w₁))
    (he : g.withRoot.enrich {} permitted = .ok e) :
    c.perform env (c.compile r) w = c.perform env (c.storing r e) w₁ := by
  have hcompile : c.compile r = Program.ofExcept ((checked r.violations ()).mapError .shape) >>=
      fun _ => c.graphOf r >>= fun p => Program.resolved (p.1.withRoot.enrich {} p.2) >>=
      fun e => c.storing r e := rfl
  rw [perform_eq_ok] at hgraph
  unfold perform
  rw [hcompile, Program.run_bind_ok (run_checked hrequest), Program.run_bind_ok hgraph,
    Program.run_bind_ok (run_resolved he)]

theorem compile_succeeds {r : CompileRequest} {g : Graph} {permitted : Option (List String)}
    (henv : env.Attentive) (hs : w.store.Lawful) (hr : w.store.Readable)
    (hrequest : r.violations = [])
    (hgraph : c.perform env (c.graphOf r) w = (.ok (g, permitted), w₁))
    (he : g.withRoot.enrich {} permitted = .ok e)
    (hsteps : ∀ a ∈ e.graph.actions, a.steps.length ≤ UInt32.size) :
    ∃ o w', c.perform env (c.compile r) w = (.ok o, w') := by
  rw [perform_storing hrequest hgraph he]
  obtain ⟨hstore, hsource⟩ := run_graphOf henv (perform_eq_ok.mp hgraph)
  rw [← hstore] at hs hr
  obtain ⟨o, w', es, hrun, -⟩ := Program.exists_run henv fun es o s' ht hserves =>
    storing_succeeds ⟨hrequest, hsource, he⟩ ht hserves hs hr fun a ha _ _ _ => hsteps a ha
  exact ⟨o, w', perform_eq_ok.mpr hrun⟩

/-- An action with more steps than positions is refused, though it passes all checks. -/
theorem compile_refused {r : CompileRequest} {g : Graph} {permitted : Option (List String)}
    (henv : env.Attentive) (hs : w.store.Lawful) (hrequest : r.violations = [])
    (hgraph : c.perform env (c.graphOf r) w = (.ok (g, permitted), w₁))
    (he : g.withRoot.enrich {} permitted = .ok e) {a : Action} (ha : a ∈ e.graph.actions)
    (hsteps : UInt32.size < a.steps.length) :
    ∃ phase source w',
      c.perform env (c.compile r) w = (.error (.persistence phase source), w') := by
  rw [perform_storing hrequest hgraph he]
  obtain ⟨hstore, -⟩ := run_graphOf henv (perform_eq_ok.mp hgraph)
  rw [← hstore] at hs
  cases hrun : ((c.storing r e).run env).run w₁ with
  | mk res w' =>
    obtain ⟨es, o, ht, ho, hserves⟩ := Program.run_ends henv hrun
    cases ho with
    | value v =>
      obtain ⟨clock, hf, hclock⟩ := hserves.follows
      obtain ⟨first, t, record, es₁, saved, hfounded, -⟩ := storing_follows ht hf hs hclock
      obtain ⟨appends, actions, schedules, hsaved⟩ : ∃ appends actions schedules,
          Program.Completed .any c.coding e.graph e.additions (.ofStored (.bare record)) es₁ saved
            appends actions schedules := Program.save_completed hfounded.saving
      obtain ⟨x, hx, hxa, -⟩ := forall₂_mem_left hsaved.targets ha
      have hle := hsaved.steps_le hfounded.settled hx
      rw [hxa] at hle
      omega
    | error err =>
      obtain ⟨phase, source, rfl⟩ := storing_error he ht
      refine ⟨phase, source, w', ?_⟩
      unfold perform
      rw [hrun]
      rfl

/-- If the queries of an agent and those of its additions can be read, so can those it has in the
end. -/
theorem Extended.shallowFor {r : UpdateRequest} {s mid : Store} {existing g : StoredGraph}
    {es : List Event} {saved : Saved} (hx : Extended .any c r s mid existing g e es (.value saved))
    (hq : ∀ p ∈ r.schedules, ∀ t ∈ p.steps, t.query.depth ≤ Document.depthLimit) :
    mid.ShallowFor r.agentId := by
  obtain ⟨appends, actions, schedules, hsaved⟩ := Program.save_completed hx.saving
  have hschedules : e.graph.schedules = r.schedules := by
    have hshaped := UpdateRequest.delta_shaped hx.request
    exact (Graph.sound_of_enrich hx.enriched hshaped.models hshaped.modelNames).schedules
  refine hsaved.shallowFor hx.settled fun c hc t ht => ?_
  obtain ⟨p, hp, hstep⟩ := hsaved.turn_given hc ht
  exact hq p (hschedules ▸ hp) t.step hstep

/-- The last calls of an update leave the queries as they are. -/
theorem closing_shallowFor {existing : StoredGraph} {saved : Saved} {o : End Outcome}
    {s s' : Store} {es : List Event} (h : (closing existing e saved).Trace .any es o)
    (hserves : s.Serves es s') {id : String} (hq : s.ShallowFor id) : s'.ShallowFor id := by
  obtain ⟨clock, hf, -⟩ := hserves.follows
  rcases closing_follows h hf with rfl | ⟨now, record, -, hu⟩
  · exact hq
  · obtain ⟨old, -, -, rfl⟩ := Store.updateAgent_eq_ok hu
    exact hq

theorem extend_succeeds {r : UpdateRequest} {existing : StoredGraph} (henv : env.Attentive)
    (hs : w.store.Lawful) (hr : w.store.Readable) (hp : r.Passes w.store existing e)
    (hsteps : ∀ a ∈ e.graph.actions, a.steps.length ≤ UInt32.size)
    (hq : ∀ p ∈ r.schedules, ∀ t ∈ p.steps, t.query.depth ≤ Document.depthLimit) :
    ∃ o w', c.perform env (c.extend r) w = (.ok o, w') := by
  have hextend : c.extend r = Program.ofExcept ((checked r.violations ()).mapError .shape) >>=
      fun _ => stored r.agentId >>= fun existing =>
        if existing.agent.ownerId ≠ r.ownerId then .failed (.notOwner r.agentId r.ownerId)
        else Program.resolved (r.delta.enrich existing.toGraph none) >>= fun e =>
          Program.save c.coding existing.agent.id e.graph e.additions (.ofStored existing) >>=
            fun saved => closing existing e saved := rfl
  obtain ⟨w₁, hstored, hstore⟩ := run_stored henv hs hr hp.loaded
  rw [← hstore] at hs hr hp
  obtain ⟨saved, w₂, es, hsave, ht, hserves⟩ := Program.exists_run henv fun es o s' ht hserves =>
    additions_succeed (c := c) hp ht hserves hs hr fun a ha _ _ _ => hsteps a ha
  have hthere : w₂.store.hasAgent existing.agent.id :=
    hserves.has (x := .agent existing.agent.id) (hp.fits hs).models.agent
  have hshallow : w₂.store.ShallowFor existing.agent.id := by
    obtain ⟨g, hl, hg⟩ := Store.lists_of_load hs hp.loaded
    obtain ⟨clock, hf, -⟩ := hserves.follows
    rw [hp.agentId hs] at ht ⊢
    exact Extended.shallowFor ⟨hp.request, hp.loaded, hl, hg, hp.completed, ht,
      hf.settled hs hl hg ht⟩ hq
  obtain ⟨o, w', es', hclosing, -⟩ := Program.exists_run henv fun es' o s' ht' hserves' =>
    closing_succeeds ht' hserves' (hserves.readable hr) hthere
      (closing_shallowFor ht' hserves' hshallow)
  refine ⟨o, w', perform_eq_ok.mpr ?_⟩
  rw [hextend, Program.run_bind_ok (run_checked hp.request), Program.run_bind_ok hstored,
    if_neg (not_not.mpr hp.owned), Program.run_bind_ok (run_resolved hp.completed),
    Program.run_bind_ok hsave]
  exact hclosing

end Compiler

/-! ## Histories -/

/-- Tables that requests made, one after the other.  Each may end with anything or stop anywhere, and
the tables have answered every call of it. -/
inductive Served : Store → Prop
  | nil : Served {}
  | compile {s s' : Store} {c : Compiler} {r : CompileRequest} {es : List Event} {o : End Outcome}
      (h : Served s) (ht : (c.compile r).Trace .any es o) (hserves : s.Serves es s') : Served s'
  | extend {s s' : Store} {c : Compiler} {r : UpdateRequest} {es : List Event} {o : End Outcome}
      (h : Served s) (ht : (c.extend r).Trace .any es o) (hserves : s.Serves es s') : Served s'

namespace Served

variable {s : Store}

theorem lawful (h : Served s) : s.Lawful := by
  induction h with
  | nil => exact Store.Lawful.empty
  | compile _ _ hserves ih => exact hserves.lawful ih
  | extend _ _ hserves ih => exact hserves.lawful ih

theorem readable (h : Served s) : s.Readable := by
  induction h with
  | nil => exact Store.Readable.empty
  | compile _ _ hserves ih => exact hserves.readable ih
  | extend _ _ hserves ih => exact hserves.readable ih

theorem run_compile {c : Compiler} {env : Surroundings} {w : World} (h : Served w.store)
    (henv : env.Attentive) (r : CompileRequest) :
    Served (c.perform env (c.compile r) w).2.store := by
  obtain ⟨es, o, ht, -, hserves⟩ := Program.run_ends henv (p := c.compile r) (w := w) rfl
  exact .compile h ht hserves

/-- No request ends with an error of the store, whatever came before it and whatever the turns of
strands: one that fails was turned down by a check in front of the first write.  It is assumed that
the steps of its actions can be numbered and that the queries of an agent with additions can be read.
In runs whose calls all reach the tables, a request that passes the checks has a result. -/
theorem never_refused (h : Served s) (c : Compiler) :
    (∀ r es o s', (c.compile r).Trace .any es o → s.Serves es s' → Numbered es →
      (∀ phase source, o ≠ .error (.persistence phase source)) ∧
        ∀ err, o = .error err → r.TurnedDown c es err) ∧
    (∀ r es o s', (c.extend r).Trace .any es o → s.Serves es s' → Numbered es →
      s'.ShallowFor r.agentId →
      (∀ phase source, o ≠ .error (.persistence phase source)) ∧
        ∀ err, o = .error err → r.TurnedDown s err) ∧
    ∀ env w, Surroundings.Attentive env → w.store = s →
      (∀ r g permitted w₁ e, r.violations = [] →
        c.perform env (c.graphOf r) w = (.ok (g, permitted), w₁) →
        g.withRoot.enrich {} permitted = .ok e →
        (∀ a ∈ e.graph.actions, a.steps.length ≤ UInt32.size) →
        ∃ o w', c.perform env (c.compile r) w = (.ok o, w')) ∧
      (∀ r existing e, r.violations = [] → s.load r.agentId = .ok (some existing) →
        existing.agent.ownerId = r.ownerId → r.delta.enrich existing.toGraph none = .ok e →
        (∀ a ∈ e.graph.actions, a.steps.length ≤ UInt32.size) →
        (∀ p ∈ r.schedules, ∀ t ∈ p.steps, t.query.depth ≤ Document.depthLimit) →
        ∃ o w', c.perform env (c.extend r) w = (.ok o, w')) := by
  refine ⟨fun r es o s' ht hserves hsteps => ?_, fun r es o s' ht hserves hsteps hq => ?_, ?_⟩
  · have hdown : ∀ err, o = .error err → r.TurnedDown c es err := by
      rintro err rfl
      exact Compiler.compile_turnedDown ht hserves h.lawful h.readable hsteps
    exact ⟨fun phase source ho => (nomatch hdown _ ho), hdown⟩
  · have hdown : ∀ err, o = .error err → r.TurnedDown s err := by
      rintro err rfl
      exact Compiler.extend_turnedDown ht hserves h.lawful h.readable hsteps hq
    exact ⟨fun phase source ho => (nomatch hdown _ ho), hdown⟩
  · rintro env w henv rfl
    refine ⟨fun r g permitted w₁ e hrequest hgraph he hsteps => ?_,
      fun r existing e hrequest hload howned he hsteps hq => ?_⟩
    · exact Compiler.compile_succeeds henv h.lawful h.readable hrequest hgraph he hsteps
    · exact Compiler.extend_succeeds henv h.lawful h.readable ⟨hrequest, hload, howned, he⟩ hsteps hq

section Witness

/-- More than the length of any of some identifiers. -/
def room (ids : List String) : Nat := ids.foldr (fun id n => id.length + n) 8

theorem le_room (ids : List String) : 8 ≤ room ids := by
  induction ids with
  | nil => exact Nat.le_refl 8
  | cons id rest ih =>
    show 8 ≤ id.length + room rest
    omega

theorem length_lt_room {ids : List String} {id : String} (h : id ∈ ids) :
    id.length < room ids := by
  induction ids with
  | nil => cases h
  | cons first rest ih =>
    show id.length < first.length + room rest
    have hroom := le_room rest
    rcases List.mem_cons.mp h with rfl | h
    · omega
    · have hrest := ih h
      omega

/-- An identifier that is longer than all others. -/
def longName (s : Store) : String := String.ofList (List.replicate (room s.ids) 'x')

theorem longName_length (s : Store) : (longName s).length = room s.ids := by
  simp [longName]

def longNamed : Surroundings :=
  { noonSurroundings with name := fun s _ => longName s }

theorem longNamed_attentive : longNamed.Attentive where
  answers _ := rfl
  long s _ := by
    show 8 ≤ (longName s).length
    rw [longName_length]
    exact le_room s.ids
  unused s _ hmem := by
    have hlt : (longName s).length < room s.ids := length_lt_room hmem
    rw [longName_length] at hlt
    omega
  ordinary _ := Compiler.noon_ordinary

/-- The agent of `leadRequest` is stored. -/
def leadWorld : World := (coder.perform longNamed (coder.compile leadRequest) {}).2

theorem served_leadWorld : Served leadWorld.store :=
  Served.nil.run_compile (w := {}) longNamed_attentive leadRequest

/-- The same addition, by another owner. -/
def strangersAddition : UpdateRequest := { callAddition with ownerId := "bob" }

/-- The agent is read, and that is all. -/
def readEvents (g : StoredGraph) : List Event :=
  [.called (.loadGraph "xxxxxxxx"), .replied (.loadGraph "xxxxxxxx") (.ok (some g))]

theorem strangersAddition_trace {g : StoredGraph} (howner : g.agent.ownerId = "ada") :
    (coder.extend strangersAddition).Trace .any (readEvents g)
      (.error (.notOwner "xxxxxxxx" "bob")) := by
  refine .store _ ?_
  show Program.Trace .any (if g.agent.ownerId ≠ "bob" then _ else _) [] _
  rw [howner, if_pos (by decide)]
  exact .failed _

theorem leadWorld_serves {g : StoredGraph}
    (hload : leadWorld.store.load "xxxxxxxx" = .ok (some g)) :
    leadWorld.store.Serves (readEvents g) leadWorld.store := by
  have hfresh : Stamp.Fresh ⟨longName leadWorld.store, Compiler.noon⟩ leadWorld.store :=
    ⟨longNamed_attentive.long _ (.loadGraph "xxxxxxxx"),
      longNamed_attentive.unused _ (.loadGraph "xxxxxxxx"), Compiler.noon_ordinary⟩
  rw [readEvents, ← hload]
  exact .silent (by simp) (.answered _ (.loadGraph "xxxxxxxx") hfresh (.nil _))

/-- The first request founds an agent, and the second one adds to it.  A graph with a name that does
not resolve and a stranger's addition are turned down. -/
theorem never_refused_for_calls :
    Served {} ∧ Served leadWorld.store ∧ longNamed.Attentive ∧
    (∃ o w', coder.perform longNamed (coder.compile leadRequest) {} = (.ok o, w')) ∧
    (∃ o w', coder.perform longNamed (coder.extend callAddition) leadWorld = (.ok o, w')) ∧
    (∃ issues, (coder.compile Compiler.strayTarget).Trace .any [] (.error (.references issues)) ∧
      Compiler.strayTarget.TurnedDown coder [] (.references issues)) ∧
    ∃ g, (coder.extend strangersAddition).Trace .any (readEvents g)
        (.error (.notOwner "xxxxxxxx" "bob")) ∧
      leadWorld.store.Serves (readEvents g) leadWorld.store ∧
      strangersAddition.TurnedDown leadWorld.store (.notOwner "xxxxxxxx" "bob") := by
  have hlead : ((Graph.withRoot { models := [{ name := "Lead" }] }).enrich {} none).toOption.any
      fun e => e.graph.actions.all (·.steps.length ≤ UInt32.size) := by decide +kernel
  have hcall : (leadWorld.store.load callAddition.agentId).toOption.join.any fun g =>
      g.agent.ownerId == callAddition.ownerId &&
        (callAddition.delta.enrich g.toGraph none).toOption.any fun e =>
          e.graph.actions.all (·.steps.length ≤ UInt32.size) := by decide +kernel
  obtain ⟨e, he, hsteps⟩ := (Option.any_eq_true _ _).mp hlead
  obtain ⟨g, hg, hadded⟩ := (Option.any_eq_true _ _).mp hcall
  obtain ⟨howner, hadded⟩ := Bool.and_eq_true_iff.mp hadded
  obtain ⟨e', he', hsteps'⟩ := (Option.any_eq_true _ _).mp hadded
  have hload : leadWorld.store.load "xxxxxxxx" = .ok (some g) :=
    eq_ok_of_toOption (Option.join_eq_some_iff.mp hg)
  have howner : g.agent.ownerId = "ada" := beq_iff_eq.mp howner
  obtain ⟨issues, hstray⟩ : ∃ issues, (coder.compile Compiler.strayTarget).Trace .any []
      (.error (.references issues)) := ⟨_, .failed _⟩
  have hstranger := strangersAddition_trace howner
  have hserves := leadWorld_serves hload
  refine ⟨.nil, served_leadWorld, longNamed_attentive, ?_, ?_, ⟨issues, hstray, ?_⟩,
    g, hstranger, hserves, ?_⟩
  · refine ((Served.nil.never_refused coder).2.2 longNamed {} longNamed_attentive rfl).1
      leadRequest _ none {} e (by decide +kernel) rfl (eq_ok_of_toOption he) ?_
    simpa using hsteps
  · refine ((served_leadWorld.never_refused coder).2.2 longNamed _ longNamed_attentive rfl).2
      callAddition g e' (by decide +kernel) hload howner (eq_ok_of_toOption he') ?_ ?_
    · simpa using hsteps'
    · simp only [callAddition, List.forall_mem_singleton]
      decide
  · have hnone : Numbered [] := fun _ _ _ hmem => absurd hmem List.not_mem_nil
    exact ((Served.nil.never_refused coder).1 _ _ _ _ hstray (.nil _) hnone).2 _ rfl
  · have hnone : Numbered (readEvents g) := by simp [Numbered, readEvents]
    refine ((served_leadWorld.never_refused coder).2.1 _ _ _ _ hstranger hserves hnone ?_).2 _ rfl
    decide +kernel

end Witness

section Counterexample

/-- A step that only thinks.  No two have one name. -/
def thought (i : Nat) : Step where
  name := String.ofList (List.replicate (i + 1) 'x')
  config := .reasoning "Think" none

/-- An agent with one action of so many steps. -/
def thinking (n : Nat) : Graph where
  models := [{ name := "Lead" }]
  actions :=
    [{ name := "think", title := "Think", targetModel := "Lead"
       steps := (List.range n).map thought }]

theorem thought_wellFormed (i : Nat) : (thought i).WellFormed := by
  have hname : ¬Text.isBlank (thought i).name := by
    simp [thought, Text.isBlank, List.replicate_succ, Text.isSpace]
  intro path
  rw [Step.violations, blankViolation_eq_nil.mpr hname]
  rfl

theorem thought_name_inj {i j : Nat} (h : (thought i).name = (thought j).name) : i = j := by
  have hlen := congrArg String.length h
  simpa [thought] using hlen

theorem thinking_shaped (n : Nat) : (thinking n).Shaped := by
  have hlead : ¬Text.isBlank "Lead" := by decide +kernel
  have hlower : ¬Text.isBlank "think" := by decide +kernel
  have hupper : ¬Text.isBlank "Think" := by decide +kernel
  have hnames : (((List.range n).map thought).map (·.name)).Nodup := by
    rw [List.map_map]
    exact List.nodup_range.map fun i j h => thought_name_inj h
  have hsteps : ∀ s ∈ (List.range n).map thought, s.WellFormed := by
    intro s hs
    obtain ⟨i, -, rfl⟩ := List.mem_map.mp hs
    exact thought_wellFormed i
  refine ⟨List.nodup_singleton _, List.nodup_singleton _, List.nodup_nil, nofun,
    List.forall_mem_singleton.mpr ?_, List.forall_mem_singleton.mpr ?_, List.forall_mem_nil _⟩
  · exact ⟨hlead, List.nodup_nil, List.forall_mem_nil _, List.forall_mem_nil _,
      List.forall_mem_nil _⟩
  · exact ⟨hlower, hupper, hlead, rfl, hnames, hsteps⟩

theorem thinking_enrich (n : Nat) : (thinking n).withRoot.enrich {} none =
    .ok { graph := (thinking n).withRoot, additions := [], connections := [], warnings := [] } := by
  have hdescriptions : (thinking n).withRoot.codeDescriptions = [] := by
    rw [Graph.codeDescriptions, List.filterMap_eq_nil_iff]
    intro s hs
    have hs' : s ∈ (List.range n).map thought := by simpa [thinking, Graph.withRoot] using hs
    obtain ⟨i, -, rfl⟩ := List.mem_map.mp hs'
    rfl
  have hservices : (thinking n).withRoot.mentionedServices = [] := by
    rw [Graph.mentionedServices, hdescriptions]
    rfl
  have houtputs : ∀ a ∈ (thinking n).actions, a.outputs = [] := by
    refine List.forall_mem_singleton.mpr (List.flatMap_eq_nil_iff.mpr fun s hs => ?_)
    obtain ⟨i, -, rfl⟩ := List.mem_map.mp hs
    rfl
  have hfold : (thinking n).withRoot.withOutputs {} = { graph := (thinking n).withRoot } := by
    have hnone := houtputs _ List.mem_cons_self
    unfold Graph.withOutputs Draft.foldOutputs
    simp only [Graph.withDisplayFields, Graph.withRoot, thinking] at hnone ⊢
    simp only [List.foldl_cons, List.foldl_nil, hnone]
    rfl
  unfold Graph.enrich
  rw [hservices, hfold]
  rfl

def thinkingRequest (n : Nat) : CompileRequest where
  name := "Sales"
  ownerId := "ada"
  source := .graph (thinking n)

theorem thinkingRequest_violations (n : Nat) : (thinkingRequest n).violations = [] := by
  have hname : ¬Text.isBlank "Sales" := by decide +kernel
  have howner : ¬Text.isBlank "ada" := by decide +kernel
  rw [CompileRequest.violations, List.append_eq_nil_iff, List.append_eq_nil_iff]
  exact ⟨⟨blankViolation_eq_nil.mpr hname, blankViolation_eq_nil.mpr howner⟩,
    Graph.violations_eq_nil.mpr (thinking_shaped n)⟩

theorem thinkingRequest_refused {n : Nat} (hn : UInt32.size < n) : ∃ phase source w',
    coder.perform longNamed (coder.compile (thinkingRequest n)) {} =
      (.error (.persistence phase source), w') := by
  refine Compiler.compile_refused longNamed_attentive Store.Lawful.empty
    (thinkingRequest_violations n) rfl (thinking_enrich n) List.mem_cons_self ?_
  simpa using hn

/-- With one step more than there are positions, the first request of all passes every check and ends
with an error of the store. -/
theorem refused_beyond_positions :
    Served {} ∧ longNamed.Attentive ∧ (thinkingRequest (UInt32.size + 1)).violations = [] ∧
    (∃ e, (thinking (UInt32.size + 1)).withRoot.enrich {} none = .ok e) ∧
    ∃ phase source w',
      coder.perform longNamed (coder.compile (thinkingRequest (UInt32.size + 1))) {} =
        (.error (.persistence phase source), w') :=
  ⟨.nil, longNamed_attentive, thinkingRequest_violations _, ⟨_, thinking_enrich _⟩,
    thinkingRequest_refused (Nat.lt_succ_self _)⟩

end Counterexample

end Served
end AgentSpec
