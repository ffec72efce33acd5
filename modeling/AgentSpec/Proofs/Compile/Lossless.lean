import AgentSpec.Proofs.Compile.Soundness

/-!
Results are what the tables load.

The graph that a run hands out is built from replies, one by one, and the tables rebuild it from
their rows.  If rows are listed in the order in which they were made and queries have no binary64
numbers, both are the same, and they are the completed graph with its code and with its schedules
sorted (`Compiler.results_read_back`).
-/
namespace AgentSpec

/-! ## What becomes of a completed graph -/

/-- The action with the code that the assistant writes. -/
def Action.prepared (coding : Bool) (code : CodeRequest → Except AssistantError GeneratedCode)
    (a : Action) : Action :=
  { a with steps := a.steps.map fun s => (s.prepared coding a (code (.ofStep a s))).1 }

/-- The schedule with its steps by order. -/
def Schedule.sorted (c : Schedule) : Schedule :=
  { c with steps := c.steps.mergeSort fun a b => a.order ≤ b.order }

/-- The graph as it is stored. -/
def Graph.written (coding : Bool) (code : CodeRequest → Except AssistantError GeneratedCode)
    (g : Graph) : Graph :=
  { g with
    actions := g.actions.map (·.prepared coding code)
    schedules := g.schedules.map (·.sorted) }

/-- The steps count from 0, and those are ready that need no code or have it. -/
structure StoredAction.Numbered (a : StoredAction) : Prop where
  positions : a.steps.map (·.position.toNat) = List.range a.steps.length
  ready : ∀ t ∈ a.steps, t.ready = t.step.isReady

/-- The value is what its text reads as: no number is a binary64, members stand in the order of their
keys, and nothing is nested too deeply. -/
structure Json.Kept (j : Json) : Prop where
  floatFree : j.FloatFree
  canonical : j.canonical = j
  depth : j.depth ≤ Document.depthLimit

theorem StoredSchedule.reread_eq {c : StoredSchedule} (h : ∀ t ∈ c.steps, t.step.query.Kept) :
    c.reread = c := by
  have hsteps : c.steps.map (·.reread) = c.steps := by
    refine (List.map_congr_left fun t ht => ?_).trans (List.map_id _)
    rw [StoredTurn.reread, Json.asWritten_of_floatFree _ (h t ht).floatFree, (h t ht).canonical]
    rfl
  rw [reread, hsteps]

theorem Schedule.turns_eq (c : Schedule) : c.turns.map (·.1) = c.sorted.steps := by
  have hmap := List.map_mergeSort (l := c.steps.zipIdx) (f := Prod.fst)
    (r := fun a b => decide (a.1.order ≤ b.1.order)) (s := fun a b => decide (a.order ≤ b.order))
    fun _ _ _ _ => rfl
  rw [turns, hmap, List.zipIdx_map_fst]
  rfl

namespace Program.Completed

variable {w : Weave} {coding : Bool} {agentId : String} {d : Graph} {additions : Additions}
  {existing g : StoredGraph} {es : List Event} {saved : Saved} {s s' : Store}
  {appends : List (String × List Field)} {actions : List ActionEntry}
  {schedules : List ScheduleEntry} {code : CodeRequest → Except AssistantError GeneratedCode}

variable (h : Completed w coding d additions (.ofStored existing) es saved appends actions schedules)
include h

theorem savedActions_written (hcoded : ∀ r a, .coded r a ∈ es → a = code r) :
    saved.actions.map (·.toAction) = (d.written coding code).actions := by
  show _ = d.actions.map (·.prepared coding code)
  rw [h.savedActions, List.map_map]
  refine (forall₂_map_eq (forall₂_imp_mem h.targets fun a x _ hx hax => ?_)).symm
  obtain ⟨rfl, -⟩ := hax
  have hsteps : x.2.map (·.step) = (x.1.2.2.prepared coding code).steps := by
    refine (forall₂_map_eq ((h.steps x hx).prepared.imp fun s t hst => ?_)).symm
    obtain ⟨answer, hasked, ht⟩ := hst
    rw [ht]
    by_cases hask : s.asksCode coding
    · rw [hcoded _ _ (hasked hask)]
    · rw [Step.prepared_of_not_asksCode hask]
  rw [Function.comp_apply, StoredAction.toAction, StoredAction.ofAction, hsteps]
  rfl

theorem savedSchedules_written :
    saved.schedules.map (·.toSchedule) = d.schedules.map (·.sorted) := by
  rw [h.savedSchedules, List.map_map]
  refine (forall₂_map_eq (h.turns.imp fun c x hcx => ?_)).symm
  obtain ⟨rfl, hturns⟩ := hcx
  have hsteps : x.2.map (·.step) = x.1.2.sorted.steps := by
    rw [← Schedule.turns_eq]
    exact (forall₂_map_eq (hturns.imp fun t u htu => htu.1.symm)).symm
  rw [Function.comp_apply, StoredSchedule.toSchedule, StoredSchedule.ofSchedule, hsteps]
  rfl

/-- The turns that are handed out are those of the graph. -/
theorem turn_given {c : StoredSchedule} (hc : c ∈ saved.schedules) {t : StoredTurn}
    (ht : t ∈ c.steps) : ∃ p ∈ d.schedules, t.step ∈ p.steps := by
  have hwritten : c.toSchedule ∈ d.schedules.map (·.sorted) :=
    h.savedSchedules_written ▸ List.mem_map_of_mem hc
  obtain ⟨p, hp, heq⟩ := List.mem_map.mp hwritten
  have hstep : t.step ∈ p.sorted.steps := by
    rw [heq]
    exact List.mem_map_of_mem ht
  exact ⟨p, hp, (List.mergeSort_perm _ _).mem_iff.mp hstep⟩

theorem schedules_reread (hkept : ∀ c ∈ d.schedules, ∀ t ∈ c.steps, t.query.Kept) :
    saved.schedules.map (·.reread) = saved.schedules := by
  refine (List.map_congr_left fun c hc => StoredSchedule.reread_eq fun t ht => ?_).trans
    (List.map_id _)
  obtain ⟨p, hp, hstep⟩ := h.turn_given hc ht
  exact hkept p hp t.step hstep

/-- A turn that was written is handed out with its schedule. -/
theorem turn_saved (hst : Settled s s' agentId g (writes es)) {scheduleId : String} {t : StoredTurn}
    (ht : .turn scheduleId t ∈ writes es) : ∃ c ∈ saved.schedules, t ∈ c.steps := by
  obtain ⟨c, hc⟩ := hst.confined.turns scheduleId t ht
  have hentry : (scheduleId, c) ∈ schedules.map (·.1) :=
    h.scheduleWrites.mem_iff.mp (List.mem_filterMap.mpr ⟨_, hc, rfl⟩)
  obtain ⟨x, hx, hid⟩ := List.mem_map.mp hentry
  have hturn : t ∈ x.2 := by
    rw [← h.turnWrites (h.nodup_schedules hst) x hx, hid]
    exact List.mem_filterMap.mpr ⟨_, ht, if_pos rfl⟩
  rw [h.savedSchedules]
  exact ⟨_, List.mem_map_of_mem hx, hturn⟩

/-- If the queries that are handed out can be read, so can those of the agent. -/
theorem shallowFor (hst : Settled s s' agentId g (writes es))
    (hq : ∀ c ∈ saved.schedules, ∀ t ∈ c.steps, t.step.query.depth ≤ Document.depthLimit) :
    s'.ShallowFor agentId := by
  have hold : s.ShallowFor agentId := hst.listed.shallowFor hst.before
  refine hst.grown.shallowFor_of_writes hst.before hst.after hold fun scheduleId t hmem => ?_
  obtain ⟨c, hc, ht⟩ := h.turn_saved hst hmem
  exact hq c hc t ht

/-- The steps that are stored for an action have numbers of their own. -/
theorem steps_le (hst : Settled s s' agentId g (writes es)) {x : ActionEntry} (hx : x ∈ actions) :
    x.1.2.2.steps.length ≤ UInt32.size := by
  have hstored := h.steps x hx
  have hlen : x.2.length = x.1.2.2.steps.length := hstored.prepared.length_eq.symm
  rw [← hlen]
  refine le_of_nodup_positions ?_
  rw [hlen, ← hstored.positions, ← h.stepWrites (h.nodup_actions hst) x hx]
  exact hst.grown.nodup_positions hst.before hst.after (h.fresh_action hst hx)

theorem numbered (hst : Settled s s' agentId g (writes es)) :
    ∀ a ∈ saved.actions, a.Numbered := by
  rw [h.savedActions]
  intro a ha
  obtain ⟨x, hx, rfl⟩ := List.mem_map.mp ha
  have hstored := h.steps x hx
  refine ⟨?_, hstored.ready⟩
  show x.2.map (·.position.toNat) = List.range x.2.length
  have hlen : x.2.length = x.1.2.2.steps.length := hstored.prepared.length_eq.symm
  have hbound := h.steps_le hst hx
  have hnat : x.2.map (·.position.toNat) = (x.2.map (·.position)).map (·.toNat) := by
    rw [List.map_map]
    rfl
  rw [hnat, hstored.positions, ← hlen, List.map_map, List.range_eq_range']
  refine (List.map_congr_left fun i hi => ?_).trans (List.map_id _)
  rw [List.mem_range'_1] at hi
  exact UInt32.toNat_ofNat_of_lt' (by omega)

end Program.Completed

/-! ## Runs of a compiler -/

namespace Compiler

variable {c : Compiler} {env : Surroundings} {w w' : World}

/-- A compilation with a result has designed and completed a graph, and then stored it. -/
theorem perform_compile {r : CompileRequest} {v : Outcome}
    (hv : c.perform env (c.compile r) w = (.ok v, w')) :
    ∃ g permitted mid e, c.perform env (c.graphOf r) w = (.ok (g, permitted), mid) ∧
      mid.store = w.store ∧ g.withRoot.enrich {} permitted = .ok e ∧
      ((c.storing r e).run env).run mid = (.ok v, w') := by
  have hcompile : c.compile r = Program.ofExcept ((checked r.violations ()).mapError .shape) >>=
      fun _ => c.graphOf r >>= fun p => Program.resolved (p.1.withRoot.enrich {} p.2) >>=
      fun e => c.storing r e := rfl
  rw [perform_eq_ok, hcompile] at hv
  obtain ⟨u, w₁, h₁, hdesign⟩ := Program.run_bind_eq_ok hv
  obtain ⟨-, rfl⟩ := Program.run_ofExcept h₁
  obtain ⟨⟨g, permitted⟩, mid, h₂, hcomplete⟩ := Program.run_bind_eq_ok hdesign
  obtain ⟨e, w₃, h₃, hstore⟩ := Program.run_bind_eq_ok hcomplete
  obtain ⟨he, rfl⟩ := Program.run_ofExcept h₃
  have henrich : g.withRoot.enrich {} permitted = .ok e := by
    cases hr : g.withRoot.enrich {} permitted with
    | ok e' =>
      simp only [hr] at he
      cases he
      rfl
    | error issues =>
      simp only [hr] at he
      cases he
  obtain ⟨es, ht, hran⟩ := Program.run_trace h₂
  obtain ⟨clock, hf, -⟩ := hran.follows
  have hreads := (trace_graphOf ht).1.reads
  exact ⟨g, permitted, w₃, e, perform_eq_ok.mpr h₂,
    hf.eq_of_reads fun c r hr => hreads c (ht.called hr), henrich, hstore⟩

end Compiler

namespace Store

variable {s s' : Store} {ws : List Write}

/-- Rows that were listed in order before writes came to them were listed in order. -/
theorem Grown.chronological (h : Grown ws s s') (hs' : s'.Chronological) : s.Chronological := by
  obtain ⟨rows, -, hext⟩ := h.models
  obtain ⟨actions, -, hactions⟩ := h.actions
  obtain ⟨schedules, -, hschedules⟩ := h.schedules
  have htimes : (s.models ++ rows).map (·.createdAt) = s'.models.map (·.createdAt) :=
    forall₂_map_eq (hext.imp fun r r' he => by rw [he.eq])
  refine ⟨?_, ?_, ?_⟩
  · have hsorted := List.pairwise_map.mpr hs'.models
    rw [← htimes, List.pairwise_map] at hsorted
    exact (List.pairwise_append.mp hsorted).1
  · have hsorted := hs'.actions
    rw [hactions] at hsorted
    exact (List.pairwise_append.mp hsorted).1
  · have hsorted := hs'.schedules
    rw [hschedules] at hsorted
    exact (List.pairwise_append.mp hsorted).1

end Store

namespace Compiler

variable {c : Compiler} {env : Surroundings} {w w' : World}

theorem orders_inOrder : Weave.inOrder.Orders := fun _ _ h => h.2

/-- A new agent as it is handed out: the tables load it, and it is the completed graph as it is
stored. -/
structure AsCompiled (c : Compiler) (env : Surroundings) (r : CompileRequest) (w : World)
    (o : Outcome) (s : Store) : Prop where
  loads : s.load o.agentId = .ok (some o.graph)
  numbered : ∀ a ∈ o.graph.actions, a.Numbered
  completed : ∃ g permitted mid e, c.perform env (c.graphOf r) w = (.ok (g, permitted), mid) ∧
    g.withRoot.enrich {} permitted = .ok e ∧
    o.graph.toGraph = e.graph.written c.coding env.code ∧
    o.graph.agent =
      { id := o.agentId, name := r.name, description := r.description, ownerId := r.ownerId
        rootModel := e.graph.rootModel, connections := e.connections
        createdAt := o.graph.agent.createdAt, updatedAt := o.graph.agent.createdAt }

/-- An agent with additions as it is handed out: the tables load it, and the completed additions
stand as they are stored behind what it had. -/
structure AsExtended (c : Compiler) (env : Surroundings) (r : UpdateRequest) (w : World)
    (o : Outcome) (s : Store) : Prop where
  agentId : o.agentId = r.agentId
  loads : s.load o.agentId = .ok (some o.graph)
  completed : ∃ existing e old models actions schedules,
    w.store.load r.agentId = .ok (some existing) ∧
    r.delta.enrich existing.toGraph none = .ok e ∧
    o.graph.models = old ++ models ∧ old.map (·.id) = existing.models.map (·.id) ∧
    models.map (·.model) = (e.graph.written c.coding env.code).models ∧
    o.graph.actions = existing.actions ++ actions ∧
    actions.map (·.toAction) = (e.graph.written c.coding env.code).actions ∧
    (∀ a ∈ actions, a.Numbered) ∧
    o.graph.schedules = existing.schedules ++ schedules ∧
    schedules.map (·.toSchedule) = (e.graph.written c.coding env.code).schedules

theorem compile_reads_back {r : CompileRequest} {o : Outcome}
    (h : c.perform env (c.compile r) w = (.ok o, w')) (hs : w.store.Lawful)
    (htime : ∀ n, (env.time n).Ordinary) (hc : w'.store.Chronological)
    (hq : ∀ s ∈ o.graph.schedules, ∀ t ∈ s.steps, t.step.query.Kept) :
    c.AsCompiled env r w o w'.store := by
  obtain ⟨g, permitted, mid, e, hgraph, hstore, he, h⟩ := perform_compile h
  obtain ⟨es, ht, hran⟩ := Program.run_trace h
  obtain ⟨clock, hf, hclock⟩ := hran.follows_ordinary htime
  rw [hstore] at hf
  obtain ⟨first, t, record, es₁, saved, hfounded, -, hes, rfl⟩ := storing_follows ht hf hs hclock
  obtain ⟨appends, actions, schedules, hsaved⟩ : ∃ appends actions schedules,
      Program.Completed .inOrder c.coding e.graph e.additions (.ofStored (.bare record)) es₁ saved
        appends actions schedules := Program.save_completed hfounded.saving
  obtain ⟨hrecord, -⟩ := Store.createAgent_eq_ok hfounded.created
  have hsettled := hfounded.settled
  have hbare : (StoredGraph.bare record).Reorders (.bare record) := ⟨rfl, .refl _, .refl _, .refl _⟩
  have hshallow : w'.store.ShallowFor record.id := by
    refine hsaved.shallowFor hsettled fun c hc t ht => ?_
    exact (hq c hc t ht).depth
  have hlists := hsettled.lists hshallow
  have hschedules : saved.schedules.map (·.reread) = saved.schedules :=
    (List.map_congr_left fun c hc => StoredSchedule.reread_eq (hq c hc)).trans (List.map_id _)
  rw [hsaved.grown_eq hsettled hbare orders_inOrder, StoredGraph.joined, hschedules] at hlists
  refine ⟨(Store.load_iff_lists hsettled.after hc).mpr hlists, hsaved.numbered hsettled, g, permitted,
    mid, e, hgraph, he, ?_, ?_⟩
  · have hcode := hsaved.savedActions_written fun r a hr => hran.coded r a (hes _ hr)
    show (⟨record.rootModel, saved.models.map (·.model), saved.actions.map (·.toAction),
      saved.schedules.map (·.toSchedule)⟩ : Graph) = _
    rw [hsaved.savedModels, hcode, hsaved.savedSchedules_written, hrecord]
    rfl
  · show record = _
    rw [hrecord]
    rfl

theorem extend_reads_back {r : UpdateRequest} {o : Outcome}
    (h : c.perform env (c.extend r) w = (.ok o, w')) (hs : w.store.Lawful)
    (htime : ∀ n, (env.time n).Ordinary) (hc : w'.store.Chronological)
    (hq : ∀ s ∈ r.schedules, ∀ t ∈ s.steps, t.query.Kept) :
    c.AsExtended env r w o w'.store := by
  obtain ⟨es, ht, hran⟩ := Program.run_trace (perform_eq_ok.mp h)
  obtain ⟨clock, hf, hclock⟩ := hran.follows_ordinary htime
  obtain ⟨existing, g, e, es₁, saved, mid, now, record, graph, hx, hes, hnow, hu, hgraph, rfl⟩ :=
    extend_value ht hf hs
  obtain ⟨appends, actions, schedules, hsaved⟩ := Program.save_completed hx.saving
  have hsettled := hx.settled
  -- the tables list the rows of the agent in order, before, between and after
  have hmid : mid.Chronological := by
    obtain ⟨old, -, -, heq⟩ := Store.updateAgent_eq_ok hu
    rw [heq] at hc
    exact ⟨hc.models, hc.actions, hc.schedules⟩
  obtain rfl : g = existing := by
    have hload := (Store.load_iff_lists hs (hsettled.grown.chronological hmid)).mpr hx.listed
    rw [hx.loaded] at hload
    cases hload
    rfl
  have hlists := hsettled.lists (hx.shallowFor_of_load hu hgraph)
  rw [hsaved.grown_eq hsettled hx.order orders_inOrder] at hlists
  obtain ⟨hrecord, hlists'⟩ := Store.updateAgent_lists hlists (hclock now hnow) hu
  have hid : record.id = r.agentId := by
    rw [hrecord]
    exact Store.agentId_of_lists hlists
  have hload := (Store.load_iff_lists (hsettled.after.updateAgent hu) hc).mpr hlists'
  rw [hid, hload] at hgraph
  cases hgraph
  have hschedules : e.graph.schedules = r.schedules := by
    have hshaped := UpdateRequest.delta_shaped hx.request
    exact (Graph.sound_of_enrich hx.enriched hshaped.models hshaped.modelNames).schedules
  have hkept := hsaved.schedules_reread (hschedules ▸ hq)
  refine ⟨hid, (congrArg w'.store.load hid).trans hload, g, e,
    g.models.map (·.extended (writes es₁)), saved.models, saved.actions, saved.schedules, hx.loaded,
    hx.enriched, rfl, ?_, hsaved.savedModels, rfl,
    hsaved.savedActions_written fun r a hr => hran.coded r a (hes _ hr), hsaved.numbered hsettled,
    congrArg (g.schedules ++ ·) hkept, hsaved.savedSchedules_written⟩
  rw [List.map_map]
  rfl

/-- A run with a result hands out what the tables load afterwards, entity by entity: a new agent
whole, and an agent with additions with these behind what it had. -/
theorem results_read_back {o : Outcome} (hs : w.store.Lawful)
    (htime : ∀ n, (env.time n).Ordinary) (hc : w'.store.Chronological) :
    (∀ r, c.perform env (c.compile r) w = (.ok o, w') →
      (∀ s ∈ o.graph.schedules, ∀ t ∈ s.steps, t.step.query.Kept) →
      c.AsCompiled env r w o w'.store) ∧
    (∀ r, c.perform env (c.extend r) w = (.ok o, w') →
      (∀ s ∈ r.schedules, ∀ t ∈ s.steps, t.query.Kept) →
      c.AsExtended env r w o w'.store) :=
  ⟨fun _ h hq => compile_reads_back h hs htime hc hq,
    fun _ h hq => extend_reads_back h hs htime hc hq⟩

section Witness

theorem results_read_back_after_calls :
    ∃ o o', leadRun = (.ok o, leadRun.2) ∧ callRun = (.ok o', callRun.2) ∧
      leadRun.2.store.load o.agentId = .ok (some o.graph) ∧
      callRun.2.store.load o'.agentId = .ok (some o'.graph) := by
  obtain ⟨o, hlead⟩ := leadRun_succeeds
  obtain ⟨o', hcall⟩ := callRun_succeeds
  have htime : ∀ n, (noonSurroundings.time n).Ordinary := fun _ => noon_ordinary
  have hlawful : leadRun.2.store.Lawful := perform_lawful hlead Store.Lawful.empty
  have hlead' : leadRun.2.store.Chronological := by
    constructor <;> decide +kernel
  have hcall' : callRun.2.store.Chronological := by
    constructor <;> decide +kernel
  have hschedules : o.graph.schedules = [] := by
    have hnone : leadRun.1.toOption.all (·.graph.schedules.isEmpty) := by decide +kernel
    rw [hlead] at hnone
    exact List.isEmpty_iff.mp hnone
  have hqueries : ∀ s ∈ callAddition.schedules, ∀ t ∈ s.steps, t.query.Kept := by
    simp only [callAddition, List.forall_mem_singleton]
    exact ⟨trivial, rfl, by decide⟩
  refine ⟨o, o', hlead, hcall, ?_, ?_⟩
  · refine ((results_read_back Store.Lawful.empty htime hlead').1 leadRequest hlead ?_).loads
    rw [hschedules]
    exact List.forall_mem_nil _
  · exact ((results_read_back hlawful htime hcall').2 callAddition hcall hqueries).loads

end Witness

end Compiler
end AgentSpec
