import AgentSpec.Proofs.Compile.Tables

/-!
Updates only add.

Whatever an update ends with and wherever it stops, the graph that was stored before is continued by
the one that is stored afterwards, and other agents are untouched (`Compiler.extend_only_adds`).
Until the agent itself is changed, the tables grow by writes for it; the change keeps what the agent
has.
-/
namespace AgentSpec

/-- The second record is the first, but for the root model if there was none, for connections behind
the old ones and for the time of the change. -/
structure AgentRecord.Continues (a a' : AgentRecord) : Prop where
  id : a'.id = a.id
  name : a'.name = a.name
  description : a'.description = a.description
  ownerId : a'.ownerId = a.ownerId
  createdAt : a'.createdAt = a.createdAt
  root : ∀ n, a.rootModel = some n → a'.rootModel = some n
  connections : a.connections <+: a'.connections

/-- All that stands in the first graph stands in the second. -/
structure StoredGraph.Continues (g g' : StoredGraph) : Prop where
  models : ∀ m ∈ g.models, ∃ m' ∈ g'.models, m'.id = m.id ∧ m'.model.name = m.model.name ∧
    m'.model.displayFields = m.model.displayFields ∧ m'.model.forms = m.model.forms ∧
    m.model.fields <+: m'.model.fields
  actions : ∀ a ∈ g.actions, a ∈ g'.actions
  schedules : ∀ c ∈ g.schedules, c ∈ g'.schedules
  agent : g.agent.Continues g'.agent

/-- All rows of the first tables stand in the second, where models have more fields at most.  The row
of the agent is continued too. -/
structure Store.Continues (s s' : Store) (agentId : String) : Prop where
  agent : ∀ a, s.agent? agentId = .ok (some a) →
    ∃ a', s'.agent? agentId = .ok (some a') ∧ a.Continues a'
  models : ∀ r ∈ s.models, ∃ r' ∈ s'.models, r' = { r with fields := r'.fields } ∧
    ∀ old, r.fields.Holds old → ∃ new, r'.fields.Holds new ∧ old <+: new
  actions : s.actions <+: s'.actions
  steps : s.steps <+: s'.steps
  schedules : s.schedules <+: s'.schedules
  turns : s.turns <+: s'.turns

namespace AgentRecord.Continues

variable {a a' a'' : AgentRecord}

theorem refl (a : AgentRecord) : a.Continues a :=
  ⟨rfl, rfl, rfl, rfl, rfl, fun _ hn => hn, List.prefix_refl _⟩

theorem trans (h : a.Continues a') (h' : a'.Continues a'') : a.Continues a'' :=
  ⟨h'.id.trans h.id, h'.name.trans h.name, h'.description.trans h.description,
    h'.ownerId.trans h.ownerId, h'.createdAt.trans h.createdAt,
    fun n hn => h'.root n (h.root n hn), h.connections.trans h'.connections⟩

end AgentRecord.Continues

namespace StoredGraph.Continues

variable {g g' h h' : StoredGraph}

theorem refl (g : StoredGraph) : g.Continues g :=
  ⟨fun m hm => ⟨m, hm, rfl, rfl, rfl, rfl, List.prefix_refl _⟩, fun _ ha => ha, fun _ hc => hc,
    .refl _⟩

theorem trans (h₁ : g.Continues g') (h₂ : g'.Continues h) : g.Continues h := by
  refine ⟨fun m hm => ?_, fun a ha => h₂.actions a (h₁.actions a ha),
    fun c hc => h₂.schedules c (h₁.schedules c hc), h₁.agent.trans h₂.agent⟩
  obtain ⟨m₁, hm₁, hid, hname, hdisplay, hforms, hfields⟩ := h₁.models m hm
  obtain ⟨m₂, hm₂, hid', hname', hdisplay', hforms', hfields'⟩ := h₂.models m₁ hm₁
  exact ⟨m₂, hm₂, hid'.trans hid, hname'.trans hname, hdisplay'.trans hdisplay,
    hforms'.trans hforms, hfields.trans hfields'⟩

theorem reorder (hc : g.Continues g') (hg : g.Reorders h) (hg' : h'.Reorders g') :
    h.Continues h' := by
  refine ⟨fun m hm => ?_, fun a ha => ?_, fun c hc' => ?_, ?_⟩
  · obtain ⟨m', hm', heq⟩ := hc.models m (hg.models.mem_iff.mpr hm)
    exact ⟨m', hg'.models.mem_iff.mpr hm', heq⟩
  · exact hg'.actions.mem_iff.mpr (hc.actions a (hg.actions.mem_iff.mpr ha))
  · exact hg'.schedules.mem_iff.mpr (hc.schedules c (hg.schedules.mem_iff.mpr hc'))
  · rw [hg'.agent, ← hg.agent]
    exact hc.agent

end StoredGraph.Continues

theorem foldl_appendNew_prefix (lists : List (List Field)) (old : List Field) :
    old <+: lists.foldl Store.appendNew old := by
  induction lists generalizing old with
  | nil => exact List.prefix_refl old
  | cons fields rest ih =>
    exact (Store.prefix_appendNew old fields).trans (ih _)

theorem StoredGraph.continues_grown (g : StoredGraph) (s : Store) (ws : List Write) :
    g.Continues (g.grown s ws) := by
  refine { StoredGraph.Continues.refl g with models := ?_, actions := ?_, schedules := ?_ }
  · intro m hm
    refine ⟨m.extended ws, List.mem_append_left _ (List.mem_map_of_mem hm), rfl, rfl, rfl, rfl, ?_⟩
    exact foldl_appendNew_prefix _ _
  · exact fun a ha => List.mem_append_left _ ha
  · exact fun c hc => List.mem_append_left _ hc

theorem mergeConnections_prefix (old added : List Connection) :
    old <+: mergeConnections old added := by
  unfold mergeConnections
  induction added generalizing old with
  | nil => exact List.prefix_refl old
  | cons c rest ih =>
    rw [List.foldl_cons]
    by_cases h : old.any (·.provider == c.provider)
    · rw [if_pos h]
      exact ih old
    · rw [if_neg h]
      exact (List.prefix_append old [c]).trans (ih _)

namespace Compiler

variable {w : Weave} {es : List Event} {s s' : Store} {clock : List Instant}

/-- The record of an agent keeps what it has under the change of an update. -/
theorem continues_change (existing : StoredGraph) (e : Enriched) (now : Instant) :
    existing.agent.Continues
      (Store.AgentChange.apply (changeOf existing e) now existing.agent) := by
  refine ⟨rfl, rfl, rfl, rfl, rfl, fun n hn => ?_, mergeConnections_prefix _ _⟩
  have hsome : existing.agent.rootModel.isSome := by rw [hn]; rfl
  simp only [Store.AgentChange.apply, changeOf, if_pos hsome]
  exact hn

/-- Writes for an agent add rows and append fields. -/
theorem continues_grown {ws : List Write} {agentId : String} (h : s.Grown ws s')
    (hin : s.Confined agentId ws) : s.Continues s' agentId := by
  obtain ⟨rows, -, hext⟩ := h.models
  obtain ⟨actions, -, hactions⟩ := h.actions
  obtain ⟨steps, -, hsteps⟩ := h.steps
  obtain ⟨schedules, -, hschedules⟩ := h.schedules
  obtain ⟨turns, -, hturns⟩ := h.turns
  refine ⟨fun a ha => ⟨a, ?_, .refl a⟩, fun r hr => ?_, ⟨actions, hactions.symm⟩,
    ⟨steps, hsteps.symm⟩, ⟨schedules, hschedules.symm⟩, ⟨turns, hturns.symm⟩⟩
  · rw [Store.agent?, h.agents_eq hin]
    exact ha
  · obtain ⟨r', hr', he⟩ := forall₂_mem_left hext (List.mem_append_left rows hr)
    exact ⟨r', hr', he.eq, fun old hold => ⟨_, he.holds old hold, foldl_appendNew_prefix _ _⟩⟩

section Extended

variable {c : Compiler} {r : UpdateRequest} {mid : Store} {existing g : StoredGraph} {e : Enriched}
  {o : End Saved} {now : Instant} {record : AgentRecord}

/-- What continues the graph that the update found continues what was loaded. -/
theorem Extended.exists_load {k : StoredGraph} (hx : Extended w c r s mid existing g e es o)
    (hk : g.Continues k) (hs' : s'.Lawful) (hl : s'.Lists r.agentId k) :
    ∃ g', s'.load r.agentId = .ok (some g') ∧ existing.Continues g' := by
  obtain ⟨g', hload, hr⟩ := Store.load_of_lists hs' hl
  exact ⟨g', hload, hk.reorder hx.order hr⟩

/-- The agent is loaded after its change with all that it had. -/
theorem Extended.exists_load_changed (hx : Extended w c r s mid existing g e es o)
    (hnow : now.Ordinary)
    (hu : mid.updateAgent now r.agentId (changeOf existing e) = .ok (record, s'))
    (hq : s'.ShallowFor r.agentId) :
    ∃ g', s'.load r.agentId = .ok (some g') ∧ existing.Continues g' := by
  have hagent : (g.grown mid (writes es)).agent = existing.agent := hx.order.agent
  obtain ⟨hrecord, hlists⟩ := hx.lists_changed hnow hu hq
  refine hx.exists_load ((g.continues_grown mid (writes es)).trans ?_)
    (hx.settled.after.updateAgent hu) hlists
  refine { StoredGraph.Continues.refl _ with agent := ?_ }
  rw [hrecord, hagent]
  exact continues_change existing e now

/-- The row of the agent is the only one that the change touches. -/
theorem Extended.continues_changed (hx : Extended w c r s mid existing g e es o)
    (hnow : now.Ordinary)
    (hu : mid.updateAgent now r.agentId (changeOf existing e) = .ok (record, s')) :
    s.Continues s' r.agentId := by
  obtain ⟨row, hrow, hread⟩ := hx.listed.agent
  have hagent : s.agent? r.agentId = .ok (some existing.agent) := by
    rw [Store.agent?_of_lists hx.listed, hx.order.agent]
  rw [← hx.settled.grown.agents_eq hx.settled.confined] at hrow
  obtain ⟨hrecord, row', hrow', hread'⟩ := Store.updateAgent_row hrow hread hnow hu
  have hrecord' : s'.agent? r.agentId = .ok (some record) := by
    rw [Store.agent?, hrow', Option.mapM_some, hread']
    rfl
  obtain ⟨-, -, -, rfl⟩ := Store.updateAgent_eq_ok hu
  refine { continues_grown hx.settled.grown hx.settled.confined with
    agent := fun a ha => ⟨record, hrecord', ?_⟩ }
  rw [hagent] at ha
  cases ha
  rw [hrecord, hx.order.agent]
  exact continues_change existing e now

end Extended

/-- An update that has any end, or is stopped at any moment, only adds.  Every row stays, and where
the agent cannot be loaded nothing changes.  What was loaded of the agent is continued by what is
loaded afterwards, if no query that was added is nested too deeply, and all other agents are loaded as
before. -/
theorem extend_only_adds (c : Compiler) {r : UpdateRequest} {es : List Event} {o : End Outcome}
    {s s' : Store} {clock : List Instant} (h : (c.extend r).Trace .any es o) (hs : s.Lawful)
    (hf : s.Follows es clock s') (hclock : ∀ t ∈ clock, t.Ordinary) :
    (∀ g, s.load r.agentId = .ok (some g) → s'.ShallowFor r.agentId →
      ∃ g', s'.load r.agentId = .ok (some g') ∧ g.Continues g') ∧
    s.Continues s' r.agentId ∧
    (∀ id, id ≠ r.agentId → s'.load id = s.load id) ∧
    ((∀ g, s.load r.agentId ≠ .ok (some g)) → s' = s) := by
  rcases extend_follows h hf hs with rfl | ⟨existing, g, e, es₁, o₁, mid, hx, hs'⟩
  · exact ⟨fun g hg _ => ⟨g, hg, .refl g⟩, continues_grown (.refl _) .nil,
      fun _ _ => rfl, fun _ => rfl⟩
  have hs' : s' = mid ∨ ∃ now record, now ∈ clock ∧
      mid.updateAgent now r.agentId (changeOf existing e) = .ok (record, s') := by
    rcases hs' with ⟨hs', -⟩ | ⟨saved, -, hs'⟩
    · exact Or.inl hs'
    · exact hs'
  have hother {id : String} (hne : id ≠ r.agentId) : mid.load id = s.load id :=
    hx.settled.grown.load_other hs hx.settled.after hx.settled.confined hne
  have hfound (old : StoredGraph) (hold : s.load r.agentId = .ok (some old)) : existing = old := by
    rw [hx.loaded] at hold
    cases hold
    rfl
  have hnone : (∀ g, s.load r.agentId ≠ .ok (some g)) → s' = s :=
    fun hne => absurd hx.loaded (hne _)
  rcases hs' with rfl | ⟨now, record, hnow, hu⟩
  · refine ⟨fun old hold hq => hfound old hold ▸ ?_,
      continues_grown hx.settled.grown hx.settled.confined, fun id => hother, hnone⟩
    exact hx.exists_load (g.continues_grown _ _) hx.settled.after (hx.settled.lists hq)
  · have hnow := hclock now hnow
    exact ⟨fun old hold hq => hfound old hold ▸ hx.exists_load_changed hnow hu hq,
      hx.continues_changed hnow hu,
      fun id hne => (Store.updateAgent_load_other hu hne).trans (hother hne), hnone⟩

section Witness

/-- Noon on a day in October 2024. -/
def noon : Instant := ⟨20000, 43200, 0⟩

/-- An agent with one model. -/
def salesGraph : StoredGraph where
  agent :=
    { id := "agent-01", name := "Sales", description := "", ownerId := "ada", rootModel := "Lead"
      connections := [], createdAt := noon, updatedAt := noon }
  models := [⟨"model-01", { name := "Lead" }⟩]
  actions := []
  schedules := []

def salesStore : Store where
  agents := [.ofRecord salesGraph.agent]
  models := [.ofModel "model-01" noon.toOffsetText "agent-01" { name := "Lead" }]

def dealAddition : UpdateRequest where
  agentId := "agent-01"
  ownerId := "ada"
  models := [{ name := "Deal" }]

/-- The update is stopped when it has stored its model. -/
def stoppedEvents : List Event :=
  [.called (.loadGraph "agent-01"), .replied (.loadGraph "agent-01") (.ok (some salesGraph)),
    .called (.createModel "agent-01" { name := "Deal" }),
    .replied (.createModel "agent-01" { name := "Deal" }) (.ok "model-02")]

def dealStore : Store :=
  { salesStore with
    models := salesStore.models ++
      [.ofModel "model-02" noon.toOffsetText "agent-01" { name := "Deal" }] }

theorem noon_ordinary : noon.Ordinary := by
  refine ⟨?_, ?_, Or.inl ?_⟩ <;> decide

theorem salesStore_lawful : salesStore.Lawful := by
  constructor <;> simp [salesStore, salesGraph, AgentRow.ofRecord, ModelRow.ofModel, Store.hasAgent]

theorem salesStore_loads : salesStore.load "agent-01" = .ok (some salesGraph) := by
  refine (Store.load_iff_lists salesStore_lawful ⟨?_, ?_, ?_⟩).mpr ⟨⟨_, rfl, ?_⟩, ?_, .nil, .nil⟩
  · exact List.pairwise_singleton _ _
  · exact List.Pairwise.nil
  · exact List.Pairwise.nil
  · exact AgentRow.read_ofRecord noon_ordinary noon_ordinary
  · exact .cons (ModelRow.read_ofModel ..) .nil

theorem extend_only_adds_when_stopped :
    (({} : Compiler).extend dealAddition).Trace .any stoppedEvents .cut ∧
    salesStore.Follows stoppedEvents [noon, noon] dealStore ∧
    (∃ g', dealStore.load "agent-01" = .ok (some g') ∧ salesGraph.Continues g') ∧
    salesStore.Continues dealStore "agent-01" ∧
    ∀ id, id ≠ "agent-01" → dealStore.load id = salesStore.load id := by
  have htrace : (({} : Compiler).extend dealAddition).Trace .any stoppedEvents .cut := by
    refine .store _ ?_
    refine .togetherCut ⟨[([.called (.createModel "agent-01" { name := "Deal" }),
      .replied (.createModel "agent-01" { name := "Deal" }) (.ok "model-02")], .cut)], ?_, ?_, .cut _⟩
    · exact .cons (.store _ (.cut _)) .nil
    · exact .single _
  have hfollows : salesStore.Follows stoppedEvents [noon, noon] dealStore := by
    have hload : (StoreCall.loadGraph "agent-01").answer ⟨"", noon⟩ salesStore =
        (.ok (some salesGraph), salesStore) := Prod.ext salesStore_loads rfl
    have hmodel : (StoreCall.createModel "agent-01" { name := "Deal" }).answer ⟨"model-02", noon⟩
        salesStore = (.ok "model-02", dealStore) := rfl
    refine .silent (by simp) (.of_answer ⟨"", noon⟩ hload ?_)
    exact .silent (by simp) (.of_answer ⟨"model-02", noon⟩ hmodel (.nil _))
  have h := extend_only_adds {} htrace salesStore_lawful hfollows (by simp [noon_ordinary])
  exact ⟨htrace, hfollows, h.1 _ salesStore_loads (List.forall_mem_nil _), h.2.1, h.2.2.1⟩

end Witness

end Compiler

/-! ## Queries that are not read again -/

/-- Arrays inside each other, one more than the number. -/
def Json.nested : Nat → Json
  | 0 => .array []
  | n + 1 => .array [nested n]

/-- A schedule whose only turn has a query that is nested deeper by one than a reader follows. -/
def deepSchedule : Schedule where
  name := "daily"
  mode := .recurring
  intervalHours := some 24
  steps := [{ modelName := "Lead", query := .nested Document.depthLimit, actionName := "call" }]

def deepAddition : UpdateRequest where
  agentId := "agent-01"
  ownerId := "ada"
  actions := [{ name := "call", title := "Call", targetModel := "Lead" }]
  schedules := [deepSchedule]

/-- It is always noon, rows are named by how many there are, and code does nothing. -/
def noonSurroundings : Surroundings where
  name := fun s _ => String.ofList <| List.replicate
    (8 + s.agents.length + s.models.length + s.actions.length + s.steps.length +
      s.schedules.length + s.turns.length) 'x'
  time := fun _ => Compiler.noon
  design := fun _ => .ok .null
  code := fun _ => .ok ⟨"pass", [], []⟩

def coder : Compiler where
  codes := true

/-- An update can store a query that is nested too deeply; then the agent cannot be loaded any
more. -/
theorem Compiler.extended_not_always_loaded :
    ¬∀ (c : Compiler) (env : Surroundings) (r : UpdateRequest) (w : World) (g : StoredGraph),
      w.store.Lawful → (∀ n, (env.time n).Ordinary) → w.store.load r.agentId = .ok (some g) →
      ∃ g', (c.perform env (c.extend r) w).2.store.load r.agentId = .ok (some g') ∧
        g.Continues g' := by
  intro hall
  obtain ⟨g', hload, -⟩ := hall coder noonSurroundings deepAddition { store := salesStore } salesGraph
    salesStore_lawful (fun _ => noon_ordinary) salesStore_loads
  have hfails : ((coder.perform noonSurroundings (coder.extend deepAddition)
      { store := salesStore }).2.store.load "agent-01").toOption = none := by
    decide +kernel
  have hloaded := congrArg Except.toOption hload
  cases hfails.symm.trans hloaded

end AgentSpec
