import AgentSpec.Proofs.Compile.Soundness
import AgentSpec.Proofs.Enrich.Fields
import AgentSpec.Proofs.Persist.Order
import AgentSpec.Proofs.Store.Shared

/-!
Two updates of one agent at the same time.

An update loads the connections of its agent when it begins, and stores them with those that it
requires when it ends.  The update that ends last keeps what the other one has added exactly if it
has loaded the agent after the other had changed it (`Compiler.connections_after_updates`).
-/
namespace AgentSpec

def providers (cs : List Connection) : List String := cs.map (·.provider)

theorem mem_providers_mergeConnections {old added : List Connection} {p : String} :
    p ∈ providers (mergeConnections old added) ↔ p ∈ providers old ∨ p ∈ providers added := by
  unfold mergeConnections
  induction added generalizing old with
  | nil => simp [providers]
  | cons c rest ih =>
    rw [List.foldl_cons, ih]
    have hcons : p ∈ providers (c :: rest) ↔ p = c.provider ∨ p ∈ providers rest := List.mem_cons
    by_cases h : old.any (·.provider == c.provider)
    · have hold : c.provider ∈ providers old := by
        obtain ⟨k, hk, heq⟩ := List.any_eq_true.mp h
        exact List.mem_map.mpr ⟨k, hk, beq_iff_eq.mp heq⟩
      rw [if_pos h, hcons]
      constructor
      · exact fun hp => hp.imp_right Or.inr
      · rintro (hp | rfl | hp)
        · exact Or.inl hp
        · exact Or.inl hold
        · exact Or.inr hp
    · have hnew : p ∈ providers (old ++ [c]) ↔ p ∈ providers old ∨ p = c.provider := by
        simp [providers]
      rw [if_neg h, hcons, hnew, or_assoc]

/-- The connections that the additions of an update require. -/
def UpdateRequest.required (r : UpdateRequest) : List Connection :=
  (r.delta.services none).map Service.connection

namespace StoreCall

variable {agentId : String} {c : StoreCall}

theorem access?_of_phase (h : c.phase = .models ∨ c.phase = .actions ∨ c.phase = .schedules)
    (r : c.Reply) : c.access? agentId r = none := by
  cases c with
  | updateAgent id change => rcases h with h | h | h <;> cases h
  | loadGraph id => rcases h with h | h | h <;> cases h
  | _ => rfl

theorem access?_of_read (h : ¬c.isWrite) {r : c.Reply} {a : Access × List Connection}
    (ha : c.access? agentId r = some a) : a.1 = .loads := by
  cases c with
  | loadGraph id =>
    match r with
    | .error e => cases ha
    | .ok none => cases ha
    | .ok (some g) =>
      change (if id = agentId then _ else _) = _ at ha
      by_cases hid : id = agentId
      · rw [if_pos hid] at ha
        cases ha
        rfl
      · rw [if_neg hid] at ha
        cases ha
  | _ => exact absurd rfl h

end StoreCall

namespace Compiler

variable {c : Compiler} {w : Weave} {es : List Event} {r : UpdateRequest} {v : Outcome}

/-- What an update with a result does, around the stages that store its additions. -/
structure Update (r : UpdateRequest) (existing : StoredGraph) (change : AgentChange)
    (record : AgentRecord) (es saving closing : List Event) : Prop where
  eq : es =
    [.called (.loadGraph r.agentId), .replied (.loadGraph r.agentId) (.ok (some existing))] ++
    (saving ++ ([.called (.updateAgent existing.agent.id change),
      .replied (.updateAgent existing.agent.id change) (.ok record)] ++ closing))
  connections :
    change.connections = some (mergeConnections existing.agent.connections r.required)
  saving : ∀ call reply, .replied call reply ∈ saving →
    call.phase = .models ∨ call.phase = .actions ∨ call.phase = .schedules
  closing : ∀ call reply, .replied call reply ∈ closing → ¬call.isWrite

theorem exists_update (h : (c.extend r).Trace w es (.value v)) :
    ∃ existing change record saving closing,
      Update r existing change record es saving closing := by
  obtain _ | _ | _ | _ | _ | @⟨_, _, existing, e, _, -, hload, -, he, hadding⟩ := trace_extend h
  obtain ⟨saved, es₁, es₂, hsave, hclosing, rfl⟩ := Program.trace_bind_value hadding
  rw [trace_stored_value hload]
  obtain ⟨record, es₃, es₄, h₃, h₄, rfl⟩ := Program.trace_bind_value hclosing
  rw [Program.trace_ask_value h₃]
  have hreads : Reads es₄ := by
    obtain ⟨graph, es₅, es₆, h₅, h₆, rfl⟩ := Program.trace_bind_value h₄
    intro call hcall
    rcases List.mem_append.mp hcall with hcall | hcall
    · exact (trace_stored h₅).1.reads call hcall
    · exact absurd hcall ((trace_finish h₆).1 call)
  refine ⟨existing, changeOf existing e, record, es₁, es₄, rfl, ?_, fun call reply hr => ?_,
    fun call reply hr => hreads call (h₄.called hr)⟩
  · have hrequired : e.connections = r.required := (Graph.enrich_eq_ok he).2
    rw [← hrequired]
    rfl
  · exact (Program.save_inOrder hsave).phases call (mem_issued.mpr (hsave.called hr))

namespace Update

variable {existing : StoredGraph} {change : AgentChange} {record : AgentRecord}
  {saving closing : List Event}

theorem not_creates (h : Update r existing change record es saving closing) {a : NewAgent}
    {reply : (StoreCall.createAgent a).Reply} : .replied (.createAgent a) reply ∉ es := by
  intro hmem
  rw [h.eq] at hmem
  rcases List.mem_append.mp hmem with hmem | hmem
  · simp at hmem
  rcases List.mem_append.mp hmem with hmem | hmem
  · rcases h.saving _ _ hmem with hphase | hphase | hphase <;> cases hphase
  rcases List.mem_append.mp hmem with hmem | hmem
  · simp at hmem
  · exact h.closing _ _ hmem rfl

/-- An update loads the connections, changes them to the merged ones and then only loads. -/
theorem accesses_eq (h : Update r existing change record es saving closing)
    (hid : existing.agent.id = r.agentId)
    (hrecord : record.connections = mergeConnections existing.agent.connections r.required) :
    ∃ more, es.filterMap (Event.access? r.agentId) =
        (.loads, existing.agent.connections) ::
          (.changes, mergeConnections existing.agent.connections r.required) :: more ∧
      ∀ a ∈ more, a.1 = .loads := by
  have hsaving : saving.filterMap (Event.access? r.agentId) = [] := by
    refine List.filterMap_eq_nil_iff.mpr fun x hx => ?_
    cases x with
    | replied call reply => exact StoreCall.access?_of_phase (h.saving call reply hx) reply
    | _ => rfl
  refine ⟨closing.filterMap (Event.access? r.agentId), ?_, fun a ha => ?_⟩
  · rw [h.eq, List.filterMap_append, List.filterMap_append, List.filterMap_append, hsaving, hid,
      ← hrecord]
    simp only [List.filterMap_cons, List.filterMap_nil, Event.access?, StoreCall.access?, if_true]
    rfl
  · obtain ⟨x, hx, hxa⟩ := List.mem_filterMap.mp ha
    cases x with
    | replied call reply => exact StoreCall.access?_of_read (h.closing call reply hx) hxa
    | _ => cases hxa

end Update

/-! ## The connections afterwards -/

variable {cs : Side → Compiler} {rs : Side → UpdateRequest} {vs : Side → Outcome}
  {s s' : Store} {history : List (Side × Event)} {clock : List Instant} {agentId : String}

/-- Both updates of an agent have a result: one changes the agent last, and it stores what it has
merged with the connections that it has loaded. -/
theorem stored_after_updates (hagent : ∀ k, (rs k).agentId = agentId)
    (hruns : ∀ k, ((cs k).extend (rs k)).Trace .any (eventsOf k history) (.value (vs k)))
    (hs : s.Shares (fun _ => none) history clock s') :
    ∃ before k, s.connections? agentId = some before ∧ Last k (accesses agentId history) ∧
      ((Sees k (accesses agentId history) ∧ s'.connections? agentId =
          some (mergeConnections (mergeConnections before (rs k.opposite).required)
            (rs k).required)) ∨
        (¬Sees k (accesses agentId history) ∧ s'.connections? agentId =
          some (mergeConnections before (rs k).required))) := by
  choose existing change record saving closing hupdate using fun k => exists_update (hruns k)
  have hloaded (k : Side) : (existing k).agent.id = agentId := by
    have hmem : .replied (.loadGraph (rs k).agentId) (.ok (some (existing k))) ∈
        eventsOf k history := by
      rw [(hupdate k).eq]
      simp
    exact (hs.loaded_id (mem_eventsOf.mp hmem)).trans (hagent k)
  have hrecord (k : Side) : (record k).connections =
      mergeConnections (existing k).agent.connections (rs k).required := by
    have hmem : .replied (.updateAgent (existing k).agent.id (change k)) (.ok (record k)) ∈
        eventsOf k history := by
      rw [(hupdate k).eq]
      simp
    exact hs.changed_connections (hupdate k).connections (mem_eventsOf.mp hmem)
  have hedits (k : Side) : Edits k (existing k).agent.connections
      (mergeConnections (existing k).agent.connections (rs k).required)
      (accesses agentId history) := by
    obtain ⟨more, heq, hmore⟩ := (hupdate k).accesses_eq
      ((hloaded k).trans (hagent k).symm) (hrecord k)
    refine ⟨more.map (k, ·), ?_, fun x hx => ?_⟩
    · rw [accesses_filter, ← hagent k, heq]
      rfl
    · obtain ⟨a, ha, rfl⟩ := List.mem_map.mp hx
      exact hmore a ha
  have hregister : Register (s.connections? agentId) (accesses agentId history)
      (s'.connections? agentId) := hs.register (fun _ _ hold => nomatch hold)
    fun k a reply hmem => (hupdate k).not_creates (mem_eventsOf.mpr hmem)
  obtain ⟨k, hlast, hafter, ⟨hsees, hbefore, hold⟩ | ⟨hsees, hbefore⟩⟩ :=
    hregister.last_change hedits
  · refine ⟨_, k, hbefore, hlast, Or.inl ⟨hsees, ?_⟩⟩
    rw [hafter, hold]
  · exact ⟨_, k, hbefore, hlast, Or.inr ⟨hsees, hafter⟩⟩

/-- Two updates of one agent that end with a result, one after the other or at the same time.  All
connections that were stored stay, and those that the last update requires are added.  Those that
the other one requires are added too if the last one has loaded the agent after they were stored;
otherwise they are lost.  No provider comes twice. -/
theorem connections_after_updates (hagent : ∀ k, (rs k).agentId = agentId)
    (hruns : ∀ k, ((cs k).extend (rs k)).Trace .any (eventsOf k history) (.value (vs k)))
    (hs : s.Shares (fun _ => none) history clock s') :
    ∃ before after k, s.connections? agentId = some before ∧ s'.connections? agentId = some after ∧
      before <+: after ∧ ((providers before).Nodup → (providers after).Nodup) ∧
      Last k (accesses agentId history) ∧
      ∀ p, p ∈ providers after ↔ p ∈ providers before ∨ p ∈ providers (rs k).required ∨
        (Sees k (accesses agentId history) ∧ p ∈ providers (rs k.opposite).required) := by
  obtain ⟨before, k, hbefore, hlast, ⟨hsees, hafter⟩ | ⟨hsees, hafter⟩⟩ :=
    stored_after_updates hagent hruns hs
  · refine ⟨before, _, k, hbefore, hafter, ?_, fun h => ?_, hlast, fun p => ?_⟩
    · have hfirst := mergeConnections_prefix before (rs k.opposite).required
      exact hfirst.trans <| mergeConnections_prefix _ _
    · exact mergeConnections_nodup _ (mergeConnections_nodup _ h)
    · rw [mem_providers_mergeConnections, mem_providers_mergeConnections]
      simp only [hsees, true_and]
      tauto
  · refine ⟨before, _, k, hbefore, hafter, mergeConnections_prefix _ _,
      fun h => mergeConnections_nodup _ h, hlast, fun p => ?_⟩
    rw [mem_providers_mergeConnections]
    simp only [hsees, false_and, or_false]

/-! ## Traces of updates -/

/-- An update whose parts are over one after the other. -/
theorem extend_of_stages {existing : StoredGraph} {e : Enriched} {saved : Saved}
    {saving closed : List Event} {o : End Outcome} (hviolations : r.violations = [])
    (howner : existing.agent.ownerId = r.ownerId)
    (he : r.delta.enrich existing.toGraph none = .ok e)
    (hsave : (Program.save c.coding existing.agent.id e.graph e.additions
      (.ofStored existing)).Trace w saving (.value saved))
    (hclosing : (closing existing e saved).Trace w closed o) :
    (c.extend r).Trace w
      ([.called (.loadGraph r.agentId), .replied (.loadGraph r.agentId) (.ok (some existing))] ++
        (saving ++ closed)) o := by
  have hchecked : (Program.ofExcept ((checked r.violations ()).mapError CompileError.shape)).Trace w
      [] (.value ()) := by
    rw [hviolations]
    exact .done ()
  have hstored : (stored r.agentId).Trace w [.called (.loadGraph r.agentId),
      .replied (.loadGraph r.agentId) (.ok (some existing))] (.value existing) :=
    .store _ (.done existing)
  refine hchecked.bind (hstored.bind ?_)
  rw [if_neg (not_not.mpr howner)]
  have hresolved :
      (Program.resolved (r.delta.enrich existing.toGraph none)).Trace w [] (.value e) := by
    rw [he]
    exact .done e
  exact hresolved.bind (hsave.bind hclosing)

section Overlap

/-- A step whose code needs a service. -/
def publish : Step where
  name := "publish"
  description := "Post to X"
  config := .customCode none [] []

def postAction : Action where
  name := "post"
  title := "Post"
  targetModel := "Lead"
  steps := [publish]

def postAddition : UpdateRequest where
  agentId := "agent-01"
  ownerId := "ada"
  actions := [postAction]

def postModel : Model := workspace [Service.x.credentialField]

def completedPost : Enriched where
  graph := { models := [postModel], actions := [postAction] }
  additions := []
  connections := [Service.x.connection]
  warnings := []

def completedDeal : Enriched where
  graph := { models := [{ name := "Deal" }] }
  additions := []
  connections := []
  warnings := []

/-- The update that is over first, and the one that begins before it and ends after it. -/
def overlapping : Side → UpdateRequest
  | .left => postAddition
  | .right => dealAddition

/-- The change that stores the connections of an update. -/
def connecting (cs : List Connection) : AgentChange := { connections := some cs }

def postRecord : AgentRecord :=
  Store.AgentChange.apply (connecting [Service.x.connection]) noon salesGraph.agent

def dealRecord : AgentRecord := Store.AgentChange.apply (connecting []) noon postRecord

def loading (g : StoredGraph) : List Event :=
  [.called (.loadGraph "agent-01"), .replied (.loadGraph "agent-01") (.ok (some g))]

def changing (cs : List Connection) (record : AgentRecord) : List Event :=
  [.called (.updateAgent "agent-01" (connecting cs)),
    .replied (.updateAgent "agent-01" (connecting cs)) (.ok record)]

def postModels : List Event :=
  [.called (.createModel "agent-01" postModel),
    .replied (.createModel "agent-01" postModel) (.ok "model-02")]

def postActions : List Event :=
  [.called (.createAction "agent-01" "model-01" postAction),
    .replied (.createAction "agent-01" "model-01" postAction) (.ok "action-01"),
    .called (.createStep "action-01" 0 publish false),
    .replied (.createStep "action-01" 0 publish false) (.ok "step-001")]

def dealModels : List Event :=
  [.called (.createModel "agent-01" { name := "Deal" }),
    .replied (.createModel "agent-01" { name := "Deal" }) (.ok "model-03")]

def postSaving : List Event :=
  postModels ++ .told (.models 1) :: (postActions ++ [.told (.actions 1 1), .told (.schedules 0)])

def dealSaving : List Event :=
  dealModels ++ [.told (.models 1), .told (.actions 0 0), .told (.schedules 0)]

/-- What is left of an update when the agent is changed. -/
def ending (g : StoredGraph) : List Event :=
  loading g ++ [.told (.complete .updated g.agent.name)]

theorem postAddition_enrich :
    postAddition.delta.enrich salesGraph.toGraph none = .ok completedPost := by decide

theorem dealAddition_enrich :
    dealAddition.delta.enrich salesGraph.toGraph none = .ok completedDeal := by decide

def storedPost : StoredAction × List Warning :=
  (.ofAction "action-01" "model-01" postAction [⟨"step-001", 0, false, publish⟩],
    [.uncoded "post" "publish" "code generation is disabled"])

theorem postSaving_trace : ∃ saved, (Program.save false "agent-01" completedPost.graph []
    (.ofStored salesGraph)).Trace .any postSaving (.value saved) := by
  have hmodel : (Strand.saveModel "agent-01" postModel).Trace postModels
      (.value (some ⟨"model-02", postModel⟩)) := .store _ (.done _)
  have haction : (Strand.saveAction false "agent-01" postAction "model-01").Trace postActions
      (.value storedPost) := by
    refine .store _ ?_
    exact .store _ (.done _)
  apply Exists.intro
  refine .together (Program.together_alone hmodel) (.announce ?_)
  refine .together (Program.together_alone haction) (.announce ?_)
  exact .together Program.together_none (.announce (.done _))

theorem dealSaving_trace : ∃ saved, (Program.save false "agent-01" completedDeal.graph []
    (.ofStored salesGraph)).Trace .any dealSaving (.value saved) := by
  have hmodel : (Strand.saveModel "agent-01" { name := "Deal" }).Trace dealModels
      (.value (some ⟨"model-03", { name := "Deal" }⟩)) := .store _ (.done _)
  apply Exists.intro
  refine .together (Program.together_alone hmodel) (.announce ?_)
  refine .together Program.together_none (.announce ?_)
  exact .together Program.together_none (.announce (.done _))

theorem postAddition_trace (g : StoredGraph) : ∃ v, (({} : Compiler).extend postAddition).Trace .any
    (loading salesGraph ++ (postSaving ++ (changing [Service.x.connection] postRecord ++ ending g)))
    (.value v) := by
  obtain ⟨saved, hsaved⟩ := postSaving_trace
  have hclosing : ∃ v, (closing salesGraph completedPost saved).Trace .any
      (changing [Service.x.connection] postRecord ++ ending g) (.value v) := by
    apply Exists.intro
    refine .store _ ?_
    refine .store _ ?_
    exact .announce (.done _)
  obtain ⟨v, hclosing⟩ := hclosing
  exact ⟨v, extend_of_stages rfl rfl postAddition_enrich hsaved hclosing⟩

theorem dealAddition_trace (g : StoredGraph) : ∃ v, (({} : Compiler).extend dealAddition).Trace .any
    (loading salesGraph ++ (dealSaving ++ (changing [] dealRecord ++ ending g))) (.value v) := by
  obtain ⟨saved, hsaved⟩ := dealSaving_trace
  have hclosing : ∃ v, (closing salesGraph completedDeal saved).Trace .any
      (changing [] dealRecord ++ ending g) (.value v) := by
    apply Exists.intro
    refine .store _ ?_
    refine .store _ ?_
    exact .announce (.done _)
  obtain ⟨v, hclosing⟩ := hclosing
  exact ⟨v, extend_of_stages rfl rfl dealAddition_enrich hsaved hclosing⟩

/-- The events of one run in a history. -/
def ofSide (k : Side) (es : List Event) : List (Side × Event) := es.map (k, ·)

/-- One update begins, the other one changes the agent, and then the first one goes on. -/
def overlap (g : StoredGraph) : List (Side × Event) :=
  ofSide .right (loading salesGraph) ++ (ofSide .left (loading salesGraph) ++
    (ofSide .left (postSaving ++ changing [Service.x.connection] postRecord) ++
      (ofSide .right (dealSaving ++ changing [] dealRecord) ++
        (ofSide .left (ending g) ++ ofSide .right (ending g)))))

theorem eventsOf_append (k : Side) (xs ys : List (Side × Event)) :
    eventsOf k (xs ++ ys) = eventsOf k xs ++ eventsOf k ys := by
  simp [eventsOf]

theorem eventsOf_ofSide (j k : Side) (es : List Event) :
    eventsOf k (ofSide j es) = if j = k then es else [] := by
  by_cases h : j = k <;> simp [eventsOf, ofSide, List.filter_map, Function.comp_def, h]

theorem eventsOf_overlap (g : StoredGraph) : ∀ k, ∃ v,
    (({} : Compiler).extend (overlapping k)).Trace .any (eventsOf k (overlap g)) (.value v) := by
  intro k
  cases k with
  | left =>
    have h : eventsOf .left (overlap g) = loading salesGraph ++
        (postSaving ++ (changing [Service.x.connection] postRecord ++ ending g)) := by
      simp [overlap, eventsOf_append, eventsOf_ofSide]
    rw [h]
    exact postAddition_trace g
  | right =>
    have h : eventsOf .right (overlap g) =
        loading salesGraph ++ (dealSaving ++ (changing [] dealRecord ++ ending g)) := by
      simp [overlap, eventsOf_append, eventsOf_ofSide]
    rw [h]
    exact dealAddition_trace g

/-! The tables while the updates go on. -/

def postStore : Store where
  agents := salesStore.agents
  models := salesStore.models ++ [.ofModel "model-02" noon.toOffsetText "agent-01" postModel]
  actions := [.ofAction "action-01" noon.toOffsetText "agent-01" "model-01" postAction]
  steps := [.ofStep "step-001" noon.toOffsetText "action-01" 0 publish false]

def overlapStore : Store :=
  { postStore with
    agents := [.ofRecord dealRecord]
    models := postStore.models ++
      [.ofModel "model-03" noon.toOffsetText "agent-01" { name := "Deal" }] }

theorem overlapStore_lawful : overlapStore.Lawful := by
  constructor <;> simp [overlapStore, postStore, salesStore, dealRecord, postRecord, salesGraph,
    AgentRow.ofRecord, ModelRow.ofModel, ActionRow.ofAction, StepRow.ofStep, Store.hasAgent,
    Store.hasModel, Store.hasAction, Store.AgentChange.apply, postModel, workspace, workspaceName]

/-- The agent when both updates have changed it. -/
def overlapGraph : StoredGraph where
  agent := dealRecord
  models := [⟨"model-01", { name := "Lead" }⟩, ⟨"model-02", postModel⟩,
    ⟨"model-03", { name := "Deal" }⟩]
  actions := [storedPost.1]
  schedules := []

theorem overlapStore_loads : ∃ g, overlapStore.load "agent-01" = .ok (some g) := by
  have hsorted : overlapStore.stepsOf "action-01" =
      [.ofStep "step-001" noon.toOffsetText "action-01" 0 publish false] :=
    List.mergeSort_singleton _
  have hsteps : (overlapStore.stepsOf "action-01").mapM StepRow.read =
      .ok [⟨"step-001", 0, false, publish⟩] := by
    rw [hsorted]
    exact mapM_eq_ok.mpr (.cons (StepRow.read_ofStep ..) .nil)
  have haction : overlapStore.readActionOf
      (.ofAction "action-01" noon.toOffsetText "agent-01" "model-01" postAction) =
        .ok storedPost.1 := Store.readActionOf_eq (by decide) hsteps
  have hlists : overlapStore.Lists "agent-01" overlapGraph := by
    refine ⟨⟨.ofRecord dealRecord, rfl, ?_⟩, ?_, .cons haction .nil, .nil⟩
    · exact AgentRow.read_ofRecord noon_ordinary noon_ordinary
    · exact .cons (ModelRow.read_ofModel ..) (.cons (ModelRow.read_ofModel ..)
        (.cons (ModelRow.read_ofModel ..) .nil))
  obtain ⟨g, hg, -⟩ := Store.load_of_lists overlapStore_lawful hlists
  exact ⟨g, hg⟩

theorem updateAgent_alone (a : AgentRecord) {s : Store} {now : Instant} {change : AgentChange}
    (hs : s.agents = [.ofRecord a]) (hc : a.createdAt.Ordinary) (hu : a.updatedAt.Ordinary) :
    s.updateAgent now a.id change = .ok (Store.AgentChange.apply change now a,
      { s with agents := [.ofRecord (Store.AgentChange.apply change now a)] }) := by
  have hself : ((AgentRow.ofRecord a).id == a.id) = true := beq_self_eq_true a.id
  have hagent : s.agent? a.id = .ok (some a) := by
    rw [Store.agent?, hs, List.find?_cons, hself]
    exact map_eq_ok.mpr ⟨a, AgentRow.read_ofRecord hc hu, rfl⟩
  have hset : (AgentRow.ofRecord a).setRecord a.id (Store.AgentChange.apply change now a) =
      .ofRecord (Store.AgentChange.apply change now a) := if_pos rfl
  unfold Store.updateAgent
  rw [hagent]
  have hagents : s.agents.map (AgentRow.setRecord a.id (Store.AgentChange.apply change now a)) =
      [.ofRecord (Store.AgentChange.apply change now a)] := by
    rw [hs, List.map_singleton, hset]
  rw [← hagents]
  rfl

theorem overlap_shares {g : StoredGraph} (hg : overlapStore.load "agent-01" = .ok (some g)) :
    salesStore.Shares (fun _ => none) (overlap g) (List.replicate 10 noon) overlapStore := by
  have hload : (StoreCall.loadGraph "agent-01").answer ⟨"", noon⟩ salesStore =
      (.ok (some salesGraph), salesStore) := Prod.ext salesStore_loads rfl
  have hreload : (StoreCall.loadGraph "agent-01").answer ⟨"", noon⟩ overlapStore =
      (.ok (some g), overlapStore) := Prod.ext hg rfl
  have hpost : postStore.updateAgent noon "agent-01" (connecting [Service.x.connection]) =
      .ok (postRecord, { postStore with agents := [.ofRecord postRecord] }) :=
    updateAgent_alone salesGraph.agent rfl noon_ordinary noon_ordinary
  have hdeal : { overlapStore with agents := [.ofRecord postRecord] }.updateAgent noon "agent-01"
      (connecting []) = .ok (dealRecord, overlapStore) :=
    updateAgent_alone postRecord rfl noon_ordinary noon_ordinary
  refine .asked ⟨"", noon⟩ (by simp) hload ?_
  refine .asked ⟨"", noon⟩ (by simp) hload ?_
  refine .asked ⟨"model-02", noon⟩ (by simp) rfl (.told ?_)
  refine .asked ⟨"action-01", noon⟩ (by simp) rfl ?_
  refine .asked ⟨"step-001", noon⟩ (by simp) rfl (.told (.told ?_))
  refine .updated hpost ?_
  refine .asked ⟨"model-03", noon⟩ (by simp) rfl (.told (.told (.told ?_)))
  refine .updated hdeal ?_
  refine .asked ⟨"", noon⟩ (by simp) hreload (.told ?_)
  refine .asked ⟨"", noon⟩ (by simp) hreload (.told ?_)
  exact .nil _ _

theorem overlap_runs : ∃ (g : StoredGraph) (vs : Side → Outcome),
    (∀ k, (({} : Compiler).extend (overlapping k)).Trace .any (eventsOf k (overlap g))
      (.value (vs k))) ∧
    salesStore.Shares (fun _ => none) (overlap g) (List.replicate 10 noon) overlapStore := by
  obtain ⟨g, hg⟩ := overlapStore_loads
  choose vs hvs using eventsOf_overlap g
  exact ⟨g, vs, hvs, overlap_shares hg⟩

theorem overlapStore_connections : overlapStore.connections? "agent-01" = some [] := by decide

theorem overlapping_agentId (k : Side) : (overlapping k).agentId = "agent-01" := by
  cases k <;> rfl

/-- The update that begins first changes the agent last, and it has not seen the other one. -/
theorem connections_after_updates_overlap : ∃ (g : StoredGraph) (vs : Side → Outcome),
    (∀ k, (({} : Compiler).extend (overlapping k)).Trace .any (eventsOf k (overlap g))
      (.value (vs k))) ∧
    salesStore.Shares (fun _ => none) (overlap g) (List.replicate 10 noon) overlapStore ∧
    Last .right (accesses "agent-01" (overlap g)) ∧
      ¬Sees .right (accesses "agent-01" (overlap g)) := by
  obtain ⟨g, vs, hruns, hs⟩ := overlap_runs
  obtain ⟨before, after, k, -, hafter, -, -, hlast, hiff⟩ :=
    connections_after_updates overlapping_agentId hruns hs
  rw [overlapStore_connections] at hafter
  cases hafter
  have hlost := hiff "x"
  cases k with
  | left => exact absurd (hlost.mpr (Or.inr (Or.inl (by decide)))) List.not_mem_nil
  | right =>
    refine ⟨g, vs, hruns, hs, hlast, fun hsees => ?_⟩
    exact absurd (hlost.mpr (Or.inr (Or.inr ⟨hsees, by decide⟩))) List.not_mem_nil

/-- Connections are lost between updates that run at the same time. -/
theorem connections_not_always_kept :
    ¬∀ (cs : Side → Compiler) (rs : Side → UpdateRequest) (vs : Side → Outcome) (agentId : String)
      (s s' : Store) (history : List (Side × Event)) (clock : List Instant),
      (∀ k, (rs k).agentId = agentId) →
      (∀ k, ((cs k).extend (rs k)).Trace .any (eventsOf k history) (.value (vs k))) →
      s.Shares (fun _ => none) history clock s' →
      ∃ before after, s.connections? agentId = some before ∧ s'.connections? agentId = some after ∧
        (∀ p ∈ providers before, p ∈ providers after) ∧
        (∀ k, ∀ p ∈ providers (rs k).required, p ∈ providers after) ∧ (providers after).Nodup := by
  intro h
  obtain ⟨g, vs, hruns, hs⟩ := overlap_runs
  obtain ⟨before, after, -, hafter, -, hkept, -⟩ := h _ _ vs _ _ _ _ _ overlapping_agentId hruns hs
  rw [overlapStore_connections] at hafter
  cases hafter
  exact List.not_mem_nil (hkept .left "x" (by decide))

end Overlap

end Compiler
end AgentSpec
