import AgentSpec.Proofs.Compile.Addition
import AgentSpec.Proofs.Compile.Rejection
import AgentSpec.Proofs.Enrich.Design
import AgentSpec.Proofs.Persist.Sound

/-!
Stored agents stay sound.

Each request is checked by itself, against what is stored.  In tables that are made by requests which
succeed or are turned down, every agent can be loaded and its graph as a whole is sound
(`History.agents_well_formed`), unless one of its queries is nested too deeply to be read again.
-/
namespace AgentSpec

theorem mergeConnections_nodup {old : List Connection} (added : List Connection)
    (h : (old.map (·.provider)).Nodup) : ((mergeConnections old added).map (·.provider)).Nodup := by
  unfold mergeConnections
  induction added generalizing old with
  | nil => exact h
  | cons c rest ih =>
    rw [List.foldl_cons]
    by_cases hany : old.any (·.provider == c.provider)
    · rw [if_pos hany]
      exact ih h
    · rw [if_neg hany]
      refine ih ?_
      rw [List.map_append, List.nodup_append]
      refine ⟨h, List.nodup_singleton _, fun p hp q hq heq => hany ?_⟩
      obtain ⟨k, hk, rfl⟩ := List.mem_map.mp hp
      exact List.any_eq_true.mpr ⟨k, hk, beq_iff_eq.mpr (heq.trans (List.mem_singleton.mp hq))⟩

namespace StoredGraph

variable {g : StoredGraph}

theorem model?_of_mem (hg : g.toGraph.Shaped) {m : StoredModel} (hm : m ∈ g.models) :
    g.model? m.model.name = some m := by
  have hnames : ((g.models.map (·.model)).map (·.name)).Nodup := hg.modelNames
  rw [List.map_map] at hnames
  exact find?_of_mem hnames hm

theorem action?_of_mem (hg : g.toGraph.Shaped) {a : StoredAction} (ha : a ∈ g.actions) :
    g.action? a.name = some a := by
  have hnames : ((g.actions.map (·.toAction)).map (·.name)).Nodup := hg.actionNames
  rw [List.map_map] at hnames
  exact find?_of_mem hnames ha

end StoredGraph

namespace Store

variable {s s' : Store} {agentId : String}

theorem Lists.nodup_modelIds {g : StoredGraph} (hl : s.Lists agentId g) (hs : s.Lawful) :
    (g.models.map (·.id)).Nodup := by
  have hids : (s.models.filter (·.agentId == agentId)).map (·.id) = g.models.map (·.id) :=
    forall₂_map_eq (hl.models.imp fun r m hr => (ModelRow.read_eq_ok.mp hr).1)
  rw [← hids]
  exact hs.modelIds.sublist ((List.filter_sublist (l := s.models)).map _)

/-- Every agent whose queries can be read can be loaded and is sound. -/
def Sound (s : Store) : Prop := ∀ id, s.hasAgent id → s.ShallowFor id →
  ∃ h, s.load id = .ok (some h) ∧ h.Sound

theorem hasAgent_of_load {h : Option StoredGraph} {id : String} (hload : s.load id = .ok h)
    (hsome : h.isSome) : s.hasAgent id := by
  obtain ⟨g, rfl⟩ := Option.isSome_iff_exists.mp hsome
  obtain ⟨row, hrow⟩ := exists_row_of_load hload
  have hid : row.id = id := by simpa using List.find?_some hrow
  exact hasAgent_iff.mpr (hid ▸ List.mem_map_of_mem (List.mem_of_find?_eq_some hrow))

theorem load_sound (hs : s.Lawful) {g : StoredGraph} (hl : s.Lists agentId g) (hg : g.Sound) :
    ∃ h, s.load agentId = .ok (some h) ∧ h.Sound := by
  obtain ⟨h, hload, hr⟩ := load_of_lists hs hl
  exact ⟨h, hload, hg.reorder hr⟩

end Store

namespace Compiler

variable {w : Weave} {c : Compiler} {es : List Event} {s s' mid : Store} {clock : List Instant}

/-- A new agent is sound and the others stay so. -/
theorem Founded.sound {r : CompileRequest} {g : Graph} {permitted : Option (List String)}
    {e : Enriched} {first : Store} {t : Stamp} {record : AgentRecord} {saved : Saved}
    (h : Founded w c r e s first s' t record es saved) (hg : g.Shaped)
    (he : g.enrich {} permitted = .ok e) (hsound : s.Sound) : s'.Sound := by
  obtain ⟨appends, actions, schedules, hc⟩ := Program.save_completed h.saving
  obtain ⟨hrecord, hfirst, -⟩ := Store.createAgent_eq_ok h.created
  have hd := Graph.sound_of_enrich he hg.models hg.modelNames
  have hr := Scope.issues_eq_nil.mp (Graph.resolves_of_enrich he).1
  obtain ⟨hbefore, hafter, hgrown, hin, -⟩ := h.settled
  have hbare : (StoredGraph.bare record).toGraph.rooted none = {} := rfl
  have hnew : ((StoredGraph.bare record).joined (writes es) saved).Sound := by
    have hroot : record.rootModel = e.graph.rootModel := congrArg AgentRecord.rootModel hrecord
    have hconnections : record.connections = e.connections :=
      congrArg AgentRecord.connections hrecord
    rw [← hbare] at he hr
    refine hc.joined_sound ?_ ?_ ?_ hg he List.nodup_nil ?_ ?_ ?_
    · rw [hbare]
      constructor <;> simp
    · rw [hbare]
      constructor <;> simp
    · exact ⟨List.forall_mem_nil _, List.forall_mem_nil _⟩
    · exact fun n hn => hg.root n (hd.root.symm.trans (hroot.symm.trans hn))
    · exact fun n hn => hr.root n (hroot.symm.trans hn)
    · show (record.connections.map (·.provider)).Nodup
      rw [hconnections]
      exact Graph.connections_of_enrich he
  intro id hid hq
  by_cases hne : id = record.id
  · rw [hne] at hq ⊢
    exact Store.load_sound hafter (h.settled.lists hq)
      (hnew.reorder (hc.grown_reorders h.settled ⟨rfl, .refl _, .refl _, .refl _⟩))
  · rw [hgrown.load_other hbefore hafter hin hne, Store.createAgent_load_other h.created hne]
    have hq' : first.ShallowFor id := hgrown.shallowFor hq
    rw [hfirst] at hq'
    refine hsound id ?_ hq'
    rw [Store.hasAgent_iff, hgrown.agents_eq hin, hfirst, List.map_append, List.mem_append] at hid
    exact Store.hasAgent_iff.mpr (hid.resolve_right fun h => hne (List.mem_singleton.mp h))

/-- An agent to which all additions are stored is sound under its old record and under the changed
one. -/
theorem Extended.joined_sound {r : UpdateRequest} {existing g : StoredGraph} {e : Enriched}
    {saved : Saved} (h : Extended w c r s mid existing g e es (.value saved)) (hs : s.Lawful)
    (hx : existing.Sound) {record : AgentRecord}
    (hrecord : record = existing.agent ∨
      ∃ now, record = Store.AgentChange.apply (changeOf existing e) now existing.agent) :
    ({ g.grown mid (writes es) with agent := record } : StoredGraph).Sound := by
  obtain ⟨appends, actions, schedules, hc⟩ := Program.save_completed h.saving
  have hshaped := UpdateRequest.delta_shaped h.request
  have hd := Graph.sound_of_enrich h.enriched hshaped.models hshaped.modelNames
  have hids : (existing.models.map (·.id)).Nodup :=
    (h.order.models.map _).nodup_iff.mp (h.listed.nodup_modelIds hs)
  have hroot : ∀ n, record.rootModel = some n → existing.agent.rootModel = some n ∨
      e.graph.defaultRoot? = some n := by
    intro n hn
    rcases hrecord with rfl | ⟨now, rfl⟩
    · exact Or.inl hn
    · by_cases hsome : existing.agent.rootModel.isSome
      · simp only [Store.AgentChange.apply, changeOf, if_pos hsome] at hn
        exact Or.inl hn
      · have hnone : existing.agent.rootModel = none := Option.not_isSome_iff_eq_none.mp hsome
        simp only [Store.AgentChange.apply, changeOf, hnone] at hn
        exact Or.inr (by simpa using hn)
  have hproviders : (record.connections.map (·.provider)).Nodup := by
    rcases hrecord with rfl | ⟨now, rfl⟩
    · exact hx.providers
    · exact mergeConnections_nodup _ hx.providers
  have hnew : ({ existing.joined (writes es) saved with agent := record } : StoredGraph).Sound := by
    have hsame : existing.toGraph.rooted existing.agent.rootModel = existing.toGraph := rfl
    refine hc.joined_sound (hsame ▸ hx.shaped) (hsame ▸ hx.closed) hx.linked hshaped
      (hsame ▸ h.enriched) hids (fun n hn => ?_) (fun n hn => ?_) hproviders
    · rcases hroot n hn with hold | hdefault
      · exact hx.shaped.root n hold
      · obtain ⟨m, hm, rfl⟩ := Option.map_eq_some_iff.mp hdefault
        exact (hd.models m (List.mem_of_find?_eq_some hm)).name
    · rcases hroot n hn with hold | hdefault
      · exact Or.inl (hx.closed.root n hold)
      · obtain ⟨m, hm, rfl⟩ := Option.map_eq_some_iff.mp hdefault
        exact Or.inr ⟨m, List.mem_of_find?_eq_some hm, rfl⟩
  have hr := hc.grown_reorders h.settled h.order
  exact hnew.reorder ⟨rfl, hr.models, hr.actions, hr.schedules⟩

/-- The request succeeds or is turned down: it is at fault, the agent is not found or the user does
not own it. -/
def Settles (o : End Outcome) : Prop :=
  (∃ v, o = .value v) ∨ ∃ err, o = .error err ∧
    (err.isValidation ∨ (∃ id, err = .agentNotFound id) ∨ ∃ id owner, err = .notOwner id owner)

theorem Settles.not_persistence {phase : Phase} {source : StoreError} :
    ¬Settles (.error (.persistence phase source)) := by
  rintro (⟨v, ho⟩ | ⟨err, ho, hv | ⟨id, he⟩ | ⟨id, owner, he⟩⟩)
  · cases ho
  · cases ho
    cases hv
  · cases ho
    cases he
  · cases ho
    cases he

/-- A compilation with a result founds an agent. -/
theorem compile_value {r : CompileRequest} {v : Outcome} (h : (c.compile r).Trace w es (.value v))
    (hf : s.Follows es clock s') (hs : s.Lawful) (hclock : ∀ t ∈ clock, t.Ordinary) :
    ∃ (d : Graph) (permitted : Option (List String)) (e : Enriched) (first : Store) (t : Stamp)
      (record : AgentRecord) (es₁ : List Event) (saved : Saved),
      (r.source = .graph d ∨ ∃ answer, Graph.ofAnswer answer = .ok d) ∧ d.withRoot.Shaped ∧
      d.withRoot.enrich {} permitted = .ok e ∧ Founded w c r e s first s' t record es₁ saved ∧
      v = .ofStored .compiled
        { agent := record, models := saved.models, actions := saved.actions
          schedules := saved.schedules }
        (Counts.ofSaved saved e.derivedFieldCount record.connections.length)
        (e.warnings ++ saved.warnings) := by
  obtain _ | _ | _ | _ | @⟨es₁, es₂, g, permitted, e, _, hrequest, hgraph, he, hstoring⟩ :=
    trace_compile h
  obtain ⟨hsilent, hsource⟩ := trace_graphOf_value hgraph
  obtain ⟨before, after, mid, rfl, hf₁, hf₂⟩ := Store.Follows.append_iff.mp hf
  obtain rfl := hf₁.eq_of_reads fun c r hr => hsilent.reads c (hgraph.called hr)
  obtain ⟨first, t, record, es₃, saved, hfounded, -, -, hv⟩ :=
    storing_follows hstoring hf₂ hs fun t ht => hclock t (List.mem_append_right _ ht)
  exact ⟨g, permitted, e, first, t, record, es₃, saved, hsource,
    CompileRequest.graph_shaped hrequest hsource, he, hfounded, hv⟩

/-- A compilation that settles leaves the tables, or it founds an agent. -/
theorem compile_settled {r : CompileRequest} {o : End Outcome} (h : (c.compile r).Trace w es o)
    (ho : Settles o) (hf : s.Follows es clock s') (hs : s.Lawful)
    (hclock : ∀ t ∈ clock, t.Ordinary) :
    s' = s ∨ ∃ (d : Graph) (permitted : Option (List String)) (e : Enriched) (first : Store)
      (t : Stamp) (record : AgentRecord) (es₁ : List Event) (saved : Saved),
      (r.source = .graph d ∨ ∃ answer, Graph.ofAnswer answer = .ok d) ∧ d.withRoot.Shaped ∧
      d.withRoot.enrich {} permitted = .ok e ∧ Founded w c r e s first s' t record es₁ saved := by
  cases o with
  | cut =>
    rcases ho with ⟨v, ho⟩ | ⟨err, ho, -⟩ <;> cases ho
  | value v =>
    obtain ⟨d, permitted, e, first, t, record, es₁, saved, hsource, hd, he, hfounded, -⟩ :=
      compile_value h hf hs hclock
    exact Or.inr ⟨d, permitted, e, first, t, record, es₁, saved, hsource, hd, he, hfounded⟩
  | error err =>
    have hsilent : Silent es := by
      rcases compile_error h with ⟨rfl, -⟩ | ⟨hsilent, -⟩ | ⟨phase, source, rfl⟩
      · exact silent_nil
      · exact hsilent
      · exact absurd ho Settles.not_persistence
    exact Or.inl (hf.eq_of_reads fun c r hr => hsilent.reads c (h.called hr))

/-- An update that settles leaves the tables, or it stores all its additions. -/
theorem extend_settled {r : UpdateRequest} {o : End Outcome} (h : (c.extend r).Trace w es o)
    (ho : Settles o) (hf : s.Follows es clock s') (hs : s.Lawful) :
    s' = s ∨ ∃ existing g e es₁ saved mid, Extended w c r s mid existing g e es₁ (.value saved) ∧
      (s' = mid ∨ ∃ now record, now ∈ clock ∧
        mid.updateAgent now r.agentId (changeOf existing e) = .ok (record, s')) := by
  rcases extend_follows h hf hs with rfl | ⟨existing, g, e, es₁, o₁, mid, hx, hend⟩
  · exact Or.inl rfl
  · rcases hend with ⟨-, ⟨err, rfl, rfl⟩ | rfl⟩ | ⟨saved, rfl, hs'⟩
    · obtain ⟨phase, source, rfl⟩ := Program.save_error_of_stored hx.enriched hx.saving
      exact absurd ho Settles.not_persistence
    · rcases ho with ⟨v, ho⟩ | ⟨err, ho, -⟩ <;> cases ho
    · exact Or.inr ⟨existing, g, e, es₁, saved, mid, hx, hs'⟩

theorem compile_sound {r : CompileRequest} {o : End Outcome} (h : (c.compile r).Trace w es o)
    (ho : Settles o) (hf : s.Follows es clock s') (hs : s.Lawful) (hclock : ∀ t ∈ clock, t.Ordinary)
    (hsound : s.Sound) : s'.Sound := by
  rcases compile_settled h ho hf hs hclock with rfl | ⟨d, permitted, e, first, t, record, es₁, saved,
    -, hd, he, hfounded⟩
  · exact hsound
  · exact hfounded.sound hd he hsound

theorem extend_sound {r : UpdateRequest} {o : End Outcome} (h : (c.extend r).Trace w es o)
    (ho : Settles o) (hf : s.Follows es clock s') (hs : s.Lawful) (hclock : ∀ t ∈ clock, t.Ordinary)
    (hsound : s.Sound) : s'.Sound := by
  rcases extend_settled h ho hf hs with rfl | ⟨existing, g, e, es₁, saved, mid, hx, hs'⟩
  · exact hsound
  have hold : existing.Sound := by
    obtain ⟨h, hload, hh⟩ :=
      hsound _ (Store.hasAgent_of_load hx.loaded rfl) (hx.listed.shallowFor hs)
    rw [hx.loaded] at hload
    cases hload
    exact hh
  obtain ⟨hbefore, hafter, hgrown, hin, -⟩ := hx.settled
  have hagent : (g.grown mid (writes es₁)).agent = existing.agent := hx.order.agent
  have hother {id : String} (hid : mid.hasAgent id) (hq : mid.ShallowFor id) (hne : id ≠ r.agentId) :
      ∃ h, mid.load id = .ok (some h) ∧ h.Sound := by
    rw [hgrown.load_other hbefore hafter hin hne]
    rw [Store.hasAgent_iff, hgrown.agents_eq hin] at hid
    exact hsound id (Store.hasAgent_iff.mpr hid) (hgrown.shallowFor hq)
  intro id hid hq
  rcases hs' with rfl | ⟨now, record, hnow, hu⟩
  · by_cases hne : id = r.agentId
    · rw [hne] at hq ⊢
      exact Store.load_sound hafter (hx.settled.lists hq) (hx.joined_sound hs hold (Or.inl hagent))
    · exact hother hid hq hne
  · by_cases hne : id = r.agentId
    · rw [hne] at hq ⊢
      obtain ⟨hrecord, hlists⟩ := hx.lists_changed (hclock now hnow) hu hq
      exact Store.load_sound (hafter.updateAgent hu) hlists
        (hx.joined_sound hs hold (Or.inr ⟨now, hrecord⟩))
    · rw [Store.updateAgent_load_other hu hne]
      obtain ⟨old, -, -, rfl⟩ := Store.updateAgent_eq_ok hu
      refine hother ?_ hq hne
      rw [Store.hasAgent_iff, List.map_map] at hid
      rw [Store.hasAgent_iff]
      have hids : (fun a : AgentRow => a.id) ∘ AgentRow.setRecord r.agentId record = (·.id) :=
        funext fun a => a.setRecord_id _ _
      rwa [hids] at hid

end Compiler

/-! ## Histories -/

/-- Tables that requests made, one after the other, each of which succeeded or was turned down. -/
inductive History : Store → Prop
  | nil : History {}
  | compile {s s' : Store} {c : Compiler} {r : CompileRequest} {es : List Event} {o : End Outcome}
      {clock : List Instant} (h : History s) (ht : (c.compile r).Trace .any es o)
      (ho : Compiler.Settles o) (hf : s.Follows es clock s') (hclock : ∀ t ∈ clock, t.Ordinary) :
      History s'
  | extend {s s' : Store} {c : Compiler} {r : UpdateRequest} {es : List Event} {o : End Outcome}
      {clock : List Instant} (h : History s) (ht : (c.extend r).Trace .any es o)
      (ho : Compiler.Settles o) (hf : s.Follows es clock s') (hclock : ∀ t ∈ clock, t.Ordinary) :
      History s'

namespace History

theorem lawful {s : Store} (h : History s) : s.Lawful := by
  induction h with
  | nil => exact Store.Lawful.empty
  | compile _ _ _ hf _ ih => exact hf.lawful ih
  | extend _ _ _ hf _ ih => exact hf.lawful ih

theorem stays_sound {s : Store} (h : History s) : s.Sound := by
  induction h with
  | nil => exact fun id hid => nomatch hid
  | compile h ht ho hf hclock ih => exact Compiler.compile_sound ht ho hf h.lawful hclock ih
  | extend h ht ho hf hclock ih => exact Compiler.extend_sound ht ho hf h.lawful hclock ih

/-- Every agent that has no query nested too deeply can be loaded.  Its graph as a whole passes the
check of shapes and all its names resolve, each identifier in it is that of the entity of this name,
and no service is connected twice. -/
theorem agents_well_formed {s : Store} (h : History s) {id : String} (hid : s.hasAgent id)
    (hq : s.ShallowFor id) :
    ∃ g, s.load id = .ok (some g) ∧ g.toGraph.violations = [] ∧
      Scope.issues ⟨{}, g.toGraph, []⟩ = [] ∧
      (∀ a ∈ g.actions, (g.model? a.targetModel).map (·.id) = some a.modelId) ∧
      (∀ c ∈ g.schedules, ∀ t ∈ c.steps,
        (g.model? t.step.modelName).map (·.id) = some t.modelId ∧
        (g.action? t.step.actionName).map (·.id) = some t.actionId) ∧
      (g.agent.connections.map (·.provider)).Nodup := by
  obtain ⟨g, hload, hg⟩ := h.stays_sound id hid hq
  have hmodel {name modelId : String} (hm : ∃ m ∈ g.models, m.id = modelId ∧ m.model.name = name) :
      (g.model? name).map (·.id) = some modelId := by
    obtain ⟨m, hm, rfl, rfl⟩ := hm
    rw [StoredGraph.model?_of_mem hg.shaped hm]
    rfl
  refine ⟨g, hload, Graph.violations_eq_nil.mpr hg.shaped,
    (Scope.issues_alone hg.shaped).mpr hg.closed, fun a ha => hmodel (hg.linked.targets a ha),
    fun c hc t ht => ?_, hg.providers⟩
  obtain ⟨hm, a, ha, hactionId, haction⟩ := hg.linked.turns c hc t ht
  refine ⟨hmodel hm, ?_⟩
  rw [← haction, StoredGraph.action?_of_mem hg.shaped ha, ← hactionId]
  rfl

section Runs

variable {c : Compiler} {env : Surroundings} {w w' : World} {o : Outcome}

theorem run_compile {r : CompileRequest} (h : History w.store)
    (hrun : c.perform env (c.compile r) w = (.ok o, w')) (htime : ∀ n, (env.time n).Ordinary) :
    History w'.store := by
  obtain ⟨es, ht, hran⟩ := Program.run_trace (Compiler.perform_eq_ok.mp hrun)
  obtain ⟨clock, hf, hclock⟩ := hran.follows_ordinary htime
  exact .compile h ht.any (Or.inl ⟨o, rfl⟩) hf hclock

theorem run_extend {r : UpdateRequest} (h : History w.store)
    (hrun : c.perform env (c.extend r) w = (.ok o, w')) (htime : ∀ n, (env.time n).Ordinary) :
    History w'.store := by
  obtain ⟨es, ht, hran⟩ := Program.run_trace (Compiler.perform_eq_ok.mp hrun)
  obtain ⟨clock, hf, hclock⟩ := hran.follows_ordinary htime
  exact .extend h ht.any (Or.inl ⟨o, rfl⟩) hf hclock

end Runs

end History

section Witness

open Compiler (noon noon_ordinary)

def leadRequest : CompileRequest where
  name := "Sales"
  ownerId := "ada"
  source := .graph { models := [{ name := "Lead" }] }

/-- An action that needs code and gives the old model a field, and a schedule that runs it. -/
def callAddition : UpdateRequest where
  agentId := "xxxxxxxx"
  ownerId := "ada"
  actions :=
    [{ name := "call", title := "Call", emoji := "☎", targetModel := "Lead"
       steps := [{ name := "dial", outputFields := ["answer"], config := .customCode none [] [] }] }]
  schedules :=
    [{ name := "daily", mode := .recurring, intervalHours := some 24
       steps := [{ modelName := "Lead", actionName := "call" }] }]

def leadRun : Except CompileError Outcome × World :=
  coder.perform noonSurroundings (coder.compile leadRequest) {}

def callRun : Except CompileError Outcome × World :=
  coder.perform noonSurroundings (coder.extend callAddition) leadRun.2

theorem exists_of_isSome {x : Except ε α × β} (h : x.1.toOption.isSome) : ∃ a, x = (.ok a, x.2) := by
  obtain ⟨_ | a, y⟩ := x
  · cases h
  · exact ⟨a, rfl⟩

theorem leadRun_succeeds : ∃ o, leadRun = (.ok o, leadRun.2) :=
  exists_of_isSome (by decide +kernel)

theorem callRun_succeeds : ∃ o, callRun = (.ok o, callRun.2) :=
  exists_of_isSome (by decide +kernel)

theorem History.agents_well_formed_after_calls :
    History callRun.2.store ∧ callRun.2.store.hasAgent "xxxxxxxx" ∧
    callRun.2.store.ShallowFor "xxxxxxxx" ∧
    ∃ g, callRun.2.store.load "xxxxxxxx" = .ok (some g) ∧ g.toGraph.violations = [] ∧
      Scope.issues ⟨{}, g.toGraph, []⟩ = [] ∧
      (∀ a ∈ g.actions, (g.model? a.targetModel).map (·.id) = some a.modelId) ∧
      (∀ c ∈ g.schedules, ∀ t ∈ c.steps,
        (g.model? t.step.modelName).map (·.id) = some t.modelId ∧
        (g.action? t.step.actionName).map (·.id) = some t.actionId) ∧
      (g.agent.connections.map (·.provider)).Nodup := by
  obtain ⟨o, hlead⟩ := leadRun_succeeds
  obtain ⟨o', hcall⟩ := callRun_succeeds
  have htime : ∀ n, (noonSurroundings.time n).Ordinary := fun _ => noon_ordinary
  have h : History callRun.2.store := (History.nil.run_compile hlead htime).run_extend hcall htime
  have hid : callRun.2.store.hasAgent "xxxxxxxx" := by decide +kernel
  have hq : callRun.2.store.ShallowFor "xxxxxxxx" := by decide +kernel
  exact ⟨h, hid, hq, h.agents_well_formed hid hq⟩

/-- The agent comes with a schedule whose query is nested too deeply. -/
def deepRequest : CompileRequest where
  name := "Sales"
  ownerId := "ada"
  source := .graph
    { models := [{ name := "Lead" }]
      actions := [{ name := "call", title := "Call", targetModel := "Lead" }]
      schedules := [deepSchedule] }

def deepRun : Except CompileError Outcome × World :=
  coder.perform noonSurroundings (coder.compile deepRequest) {}

theorem deepRun_succeeds : ∃ o, deepRun = (.ok o, deepRun.2) :=
  exists_of_isSome (by decide +kernel)

/-- The query of the only schedule is not read, so the agent is not loaded. -/
theorem deepRun_unloadable : (deepRun.2.store.load "xxxxxxxx").toOption = none := by decide +kernel

/-- A compilation can succeed and leave an agent that is never loaded. -/
theorem History.agents_not_always_well_formed :
    ¬∀ s, History s → ∀ id, s.hasAgent id → ∃ g, s.load id = .ok (some g) ∧
      g.toGraph.violations = [] := by
  intro hall
  obtain ⟨o, hdeep⟩ := deepRun_succeeds
  have h : History deepRun.2.store := History.nil.run_compile hdeep fun _ => noon_ordinary
  obtain ⟨g, hload, -⟩ := hall _ h "xxxxxxxx" (by decide +kernel)
  have hloaded := congrArg Except.toOption hload
  cases deepRun_unloadable.symm.trans hloaded

end Witness
end AgentSpec
