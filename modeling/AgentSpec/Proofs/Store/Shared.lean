import AgentSpec.Proofs.Store.Agents
import AgentSpec.Proofs.Trace.Register

/-!
A store that several runs share.

The events of the runs come one after the other, in any order.  A call takes effect when it is
answered, except that the change of an agent has two parts: the record of the agent is read when the
call is issued, and what the call makes of this record is written when it is answered, whatever the
row holds by then (`Store.Shares`).  So the connections of an agent are a register: a load shows
them, and a change replaces them as a whole (`Store.Shares.register`).
-/
namespace AgentSpec

variable {ι : Type}

/-- The events of one run. -/
def eventsOf [DecidableEq ι] (k : ι) (es : List (ι × Event)) : List Event :=
  (es.filter (·.1 = k)).map (·.2)

theorem mem_eventsOf [DecidableEq ι] {k : ι} {es : List (ι × Event)} {x : Event} :
    x ∈ eventsOf k es ↔ (k, x) ∈ es := by
  simp only [eventsOf, List.mem_map, List.mem_filter, decide_eq_true_eq, Prod.exists]
  constructor
  · rintro ⟨j, y, ⟨hmem, rfl⟩, rfl⟩
    exact hmem
  · exact fun hmem => ⟨k, x, ⟨hmem, rfl⟩, rfl⟩

/-! ## Uses of the connections of an agent -/

namespace StoreCall

/-- What a reply tells of the connections of an agent. -/
def access? (agentId : String) : (c : StoreCall) → c.Reply → Option (Access × List Connection)
  | .loadGraph id, .ok (some g) =>
    if id = agentId then some (.loads, g.agent.connections) else none
  | .updateAgent id _, .ok record =>
    if id = agentId then some (.changes, record.connections) else none
  | _, _ => none

theorem access?_error (agentId : String) (c : StoreCall) (e : StoreError) :
    c.access? agentId (.error e) = none := by
  cases c <;> rfl

end StoreCall

namespace Event

def access? (agentId : String) : Event → Option (Access × List Connection)
  | .replied c r => c.access? agentId r
  | _ => none

end Event

/-- The uses of the connections of an agent, each with its run. -/
def accesses (agentId : String) (es : List (ι × Event)) : List (ι × Access × List Connection) :=
  es.filterMap fun x => (x.2.access? agentId).map (x.1, ·)

theorem accesses_cons (agentId : String) (k : ι) (x : Event) (es : List (ι × Event)) :
    accesses agentId ((k, x) :: es) =
      ((x.access? agentId).map (k, ·)).toList ++ accesses agentId es := by
  unfold accesses
  rw [List.filterMap_cons]
  cases x.access? agentId <;> rfl

theorem accesses_filter [DecidableEq ι] (agentId : String) (k : ι) (es : List (ι × Event)) :
    (accesses agentId es).filter (·.1 = k) =
      ((eventsOf k es).filterMap (Event.access? agentId)).map (k, ·) := by
  induction es with
  | nil => rfl
  | cons x es ih =>
    obtain ⟨j, x⟩ := x
    rw [accesses_cons, List.filter_append, ih]
    by_cases hj : j = k
    · subst hj
      have hevents : eventsOf j ((j, x) :: es) = x :: eventsOf j es := by simp [eventsOf]
      rw [hevents, List.filterMap_cons]
      cases x.access? agentId with
      | none => rfl
      | some a => simp
    · have hevents : eventsOf k ((j, x) :: es) = eventsOf k es := by simp [eventsOf, hj]
      rw [hevents]
      cases x.access? agentId with
      | none => rfl
      | some a => simp [hj]

namespace Store

/-- The stored connections of an agent, if it is there and they can be read. -/
def connections? (s : Store) (agentId : String) : Option (List Connection) := do
  let row ← s.agents.find? (·.id == agentId)
  (row.connections.read (Reader.list Connection.read)).toOption

/-- The record of an agent, if it is there and can be read. -/
def record? (s : Store) (agentId : String) : Option AgentRecord :=
  (s.agent? agentId).toOption.join

/-- The tables with what a record says in the row of an agent. -/
def setAgent (s : Store) (agentId : String) (record : AgentRecord) : Store :=
  { s with agents := s.agents.map (AgentRow.setRecord agentId record) }

/-- What a store makes of the events of several runs.  Each run holds the record that it has read
last to change it. -/
inductive Shares [DecidableEq ι] :
    Store → (ι → Option AgentRecord) → List (ι × Event) → List Instant → Store → Prop
  | nil (s : Store) (held : ι → Option AgentRecord) : Shares s held [] [] s
  /-- The record is read that is to be changed. -/
  | reads {s s' held es clock} (k : ι) (agentId : String) (c : AgentChange) :
    Shares s (Function.update held k (s.record? agentId)) es clock s' →
      Shares s held ((k, .called (.updateAgent agentId c)) :: es) clock s'
  /-- The record that was read is changed and written. -/
  | writes {s s' held es clock} {k : ι} {agentId : String} {old : AgentRecord} (now : Instant)
    (c : AgentChange) (hheld : held k = some old) (hid : old.id = agentId) :
    Shares (s.setAgent agentId (AgentChange.apply c now old)) held es clock s' →
      Shares s held
        ((k, .replied (.updateAgent agentId c) (.ok (AgentChange.apply c now old))) :: es)
        (now :: clock) s'
  | answered {s s' held es clock} (k : ι) (t : Stamp) (c : StoreCall)
    (hc : ∀ agentId change, c ≠ .updateAgent agentId change) :
    Shares (c.answer t s).2 held es clock s' →
      Shares s held ((k, .replied c (c.answer t s).1) :: es) (t.now :: clock) s'
  /-- A call that fails leaves the tables. -/
  | refused {s s' held es clock} (k : ι) (c : StoreCall) (e : StoreError) :
    Shares s held es clock s' → Shares s held ((k, .replied c (.error e)) :: es) clock s'
  | silent {s s' held es clock} {k : ι} {x : Event} (hr : ∀ c r, x ≠ .replied c r)
    (hc : ∀ agentId change, x ≠ .called (.updateAgent agentId change)) :
    Shares s held es clock s' → Shares s held ((k, x) :: es) clock s'

/-! ## The tables of agents -/

variable {s s' : Store} {agentId id : String}

theorem connections?_congr (h : s'.agents = s.agents) :
    s'.connections? agentId = s.connections? agentId := by
  unfold connections?
  rw [h]

theorem connections?_setAgent (hid : s.hasAgent agentId) (record : AgentRecord) :
    (s.setAgent agentId record).connections? id =
      if id = agentId then some record.connections else s.connections? id := by
  unfold connections? setAgent
  rw [find?_setRecord]
  by_cases h : id = agentId
  · subst h
    rw [if_pos rfl]
    have hsome := List.find?_isSome.mpr (List.any_eq_true.mp hid)
    obtain ⟨row, hrow⟩ := Option.isSome_iff_exists.mp hsome
    have hself : row.id = id := by simpa using List.find?_some hrow
    rw [hrow, Option.map_some, AgentRow.setRecord, if_pos hself]
    show (Column.read _ (Column.ofConnections record.connections)).toOption = _
    rw [Column.read_ofConnections]
    rfl
  · rw [if_neg h]
    cases hrow : s.agents.find? (·.id == id) with
    | none => rfl
    | some row =>
      have hid : row.id = id := by simpa using List.find?_some hrow
      rw [Option.map_some, AgentRow.setRecord, if_neg (hid ▸ h)]

theorem hasAgent_setAgent {record : AgentRecord} :
    (s.setAgent agentId record).hasAgent id = s.hasAgent id := by
  unfold hasAgent setAgent
  rw [List.any_map]
  congr 1
  funext r
  exact congrArg (· == id) (r.setRecord_id agentId record)

theorem hasAgent_of_record? {record : AgentRecord} (h : s.record? agentId = some record) :
    s.hasAgent record.id := by
  unfold record? at h
  cases hagent : s.agent? agentId with
  | error e =>
    rw [hagent] at h
    cases h
  | ok found =>
    rw [hagent] at h
    cases h
    obtain ⟨hid, hhas⟩ := agent?_eq_ok hagent
    exact hid ▸ hhas

/-- A load shows the connections of the agent that it was asked for. -/
theorem shown_by_load {g : StoredGraph} (h : s.load agentId = .ok (some g)) :
    s.connections? agentId = some g.agent.connections ∧ g.agent.id = agentId := by
  obtain ⟨row, hrow⟩ := exists_row_of_load h
  obtain ⟨hid, -, -, -, -, hconnections, -, -⟩ :=
    AgentRow.read_eq_ok.mp ((load_eq_ok hrow).mp h).1
  have hself : row.id = agentId := by simpa using List.find?_some hrow
  refine ⟨?_, hid.symm.trans hself⟩
  show (s.agents.find? (·.id == agentId)).bind _ = _
  rw [hrow]
  show (row.connections.read _).toOption = _
  rw [hconnections]
  rfl

/-- Of the calls that change no agent only a load tells of the connections, and it tells what they
are. -/
theorem answer_access? {t : Stamp} {c : StoreCall} (hc : ∀ id change, c ≠ .updateAgent id change) :
    c.access? agentId (c.answer t s).1 = none ∨
      ∃ cs, c.access? agentId (c.answer t s).1 = some (.loads, cs) ∧
        s.connections? agentId = some cs := by
  cases c with
  | updateAgent id change => exact absurd rfl (hc id change)
  | loadGraph id =>
    show StoreCall.access? agentId (.loadGraph id) (s.load id) = none ∨
      ∃ cs, StoreCall.access? agentId (.loadGraph id) (s.load id) = some (.loads, cs) ∧ _
    cases hload : s.load id with
    | error e => exact Or.inl rfl
    | ok found =>
      cases found with
      | none => exact Or.inl rfl
      | some g =>
        by_cases hself : id = agentId
        · subst hself
          exact Or.inr ⟨_, if_pos rfl, (shown_by_load hload).1⟩
        · exact Or.inl (if_neg hself)
  | _ => exact Or.inl rfl

/-- Only agents that are made or changed alter the table of agents. -/
theorem answer_agents {t : Stamp} {c : StoreCall} (hnew : ∀ a, c ≠ .createAgent a)
    (hc : ∀ id change, c ≠ .updateAgent id change) : (c.answer t s).2.agents = s.agents := by
  have hsettle {α : Type} {r : Except StoreError (α × Store)}
      (h : ∀ a s', r = .ok (a, s') → s'.agents = s.agents) :
      (StoreCall.answer.settle s r).2.agents = s.agents := by
    cases r with
    | ok p => exact h p.1 p.2 rfl
    | error e => rfl
  have hwrite {α : Type} {r : Except StoreError Store} {a : α}
      (h : ∀ s', r = .ok s' → s'.agents = s.agents) :
      (StoreCall.answer.settle s (r.map (a, ·))).2.agents = s.agents := by
    refine hsettle fun b s' hok => h s' ?_
    obtain ⟨s'', hr, heq⟩ := map_eq_ok.mp hok
    cases heq
    exact hr
  cases c with
  | createAgent a => exact absurd rfl (hnew a)
  | updateAgent id change => exact absurd rfl (hc id change)
  | createModel agentId m =>
    refine hwrite fun s' h => ?_
    obtain ⟨rfl, -⟩ := createModel_eq_ok h
    rfl
  | appendFields modelId fields =>
    refine hwrite fun s' h => ?_
    obtain ⟨-, -, -, -, ⟨-, rfl⟩ | rfl⟩ := appendFields_eq_ok h <;> rfl
  | createAction agentId modelId a =>
    refine hwrite fun s' h => ?_
    obtain ⟨rfl, -⟩ := createAction_eq_ok h
    rfl
  | createStep actionId position step ready =>
    refine hwrite fun s' h => ?_
    obtain ⟨rfl, -⟩ := createStep_eq_ok h
    rfl
  | createSchedule agentId c =>
    refine hwrite fun s' h => ?_
    obtain ⟨rfl, -⟩ := createSchedule_eq_ok h
    rfl
  | createTurn scheduleId modelId actionId turn =>
    refine hwrite fun s' h => ?_
    obtain ⟨rfl, -⟩ := createTurn_eq_ok h
    rfl
  | loadGraph id => rfl

/-! ## Histories -/

namespace Shares

variable [DecidableEq ι] {held : ι → Option AgentRecord} {es : List (ι × Event)}
  {clock : List Instant} {k : ι}

/-- A call that is answered at once. -/
theorem asked {c : StoreCall} {r : c.Reply} {mid : Store} (t : Stamp)
    (hc : ∀ agentId change, c ≠ .updateAgent agentId change) (hr : c.answer t s = (r, mid))
    (h : mid.Shares held es clock s') :
    s.Shares held ((k, .called c) :: (k, .replied c r) :: es) (t.now :: clock) s' := by
  obtain rfl : (c.answer t s).1 = r := congrArg Prod.fst hr
  obtain rfl : (c.answer t s).2 = mid := congrArg Prod.snd hr
  refine .silent (by simp) (fun id change heq => ?_) (.answered k t c hc h)
  exact hc id change (Event.called.inj heq)

/-- A change that nothing comes between is that of the store. -/
theorem updated {c : AgentChange} {record : AgentRecord} {mid : Store} {now : Instant}
    (hu : s.updateAgent now id c = .ok (record, mid))
    (h : mid.Shares (Function.update held k (s.record? id)) es clock s') :
    s.Shares held ((k, .called (.updateAgent id c)) ::
      (k, .replied (.updateAgent id c) (.ok record)) :: es) (now :: clock) s' := by
  obtain ⟨old, hold, rfl, rfl⟩ := updateAgent_eq_ok hu
  have hheld : s.record? id = some old := by
    rw [record?, hold]
    rfl
  refine .reads k id c (.writes now c ?_ ?_ h)
  · rw [Function.update_self, hheld]
  · exact (agent?_eq_ok hold).1

theorem told {m : Milestone} (h : s.Shares held es clock s') :
    s.Shares held ((k, .told m) :: es) clock s' := .silent (by simp) (by simp) h

/-- A reply is a failure, an answer of tables, or confirms that a changed record was written. -/
theorem replied_cases (h : s.Shares held es clock s') {x : Event} (hmem : (k, x) ∈ es)
    {c : StoreCall} {r : c.Reply} (hx : x = .replied c r) :
    (∃ e, x = .replied c (.error e)) ∨ (∃ mid t, x = .replied c (c.answer t mid).1 ∧
        ∀ id change, c ≠ .updateAgent id change) ∨
      ∃ id change now old,
        x = .replied (.updateAgent id change) (.ok (AgentChange.apply change now old)) := by
  induction h with
  | nil => cases hmem
  | reads j agentId c h ih =>
    rcases List.mem_cons.mp hmem with heq | hmem
    · rw [(Prod.mk.inj heq).2] at hx
      cases hx
    · exact ih hmem
  | @writes _ _ _ _ _ j agentId old now change hheld hid h ih =>
    rcases List.mem_cons.mp hmem with heq | hmem
    · exact Or.inr (Or.inr ⟨agentId, change, now, old, congrArg Prod.snd heq⟩)
    · exact ih hmem
  | @answered mid _ _ _ _ j t c' hc h ih =>
    rcases List.mem_cons.mp hmem with heq | hmem
    · have heq : x = .replied c' (c'.answer t mid).1 := congrArg Prod.snd heq
      obtain rfl : c = c' := (Event.replied.inj (hx.symm.trans heq)).1
      exact Or.inr (Or.inl ⟨mid, t, heq, hc⟩)
    · exact ih hmem
  | refused j c' e h ih =>
    rcases List.mem_cons.mp hmem with heq | hmem
    · have heq : x = .replied c' (.error e) := congrArg Prod.snd heq
      obtain rfl : c = c' := (Event.replied.inj (hx.symm.trans heq)).1
      exact Or.inl ⟨e, heq⟩
    · exact ih hmem
  | silent hr hc h ih =>
    rcases List.mem_cons.mp hmem with heq | hmem
    · exact absurd ((congrArg Prod.snd heq).symm.trans hx) (hr c r)
    · exact ih hmem

/-- A load that is answered shows the agent that it was asked for. -/
theorem loaded_id (h : s.Shares held es clock s') {g : StoredGraph}
    (hmem : (k, .replied (.loadGraph id) (.ok (some g))) ∈ es) : g.agent.id = id := by
  rcases h.replied_cases hmem rfl with ⟨e, heq⟩ | ⟨mid, t, heq, -⟩ | ⟨_, _, _, _, heq⟩
  · cases heq
  · have hload : mid.load id = .ok (some g) := (eq_of_heq (Event.replied.inj heq).2).symm
    exact (shown_by_load hload).2
  · cases heq

/-- A change that names connections stores them. -/
theorem changed_connections (h : s.Shares held es clock s') {c : AgentChange} {record : AgentRecord}
    {cs : List Connection} (hcs : c.connections = some cs)
    (hmem : (k, .replied (.updateAgent id c) (.ok record)) ∈ es) : record.connections = cs := by
  rcases h.replied_cases hmem rfl with ⟨e, heq⟩ | ⟨mid, t, -, hc⟩ | ⟨_, _, now, old, heq⟩
  · cases heq
  · exact absurd rfl (hc id c)
  · cases heq
    show c.connections.getD old.connections = cs
    rw [hcs, Option.getD_some]

/-- What is shown and stored of the connections of an agent is the history of a register. -/
theorem register (h : s.Shares held es clock s')
    (hheld : ∀ k old, held k = some old → s.hasAgent old.id)
    (hnew : ∀ k a r, (k, .replied (.createAgent a) r) ∉ es) :
    Register (s.connections? agentId) (accesses agentId es) (s'.connections? agentId) := by
  induction h with
  | nil => exact .nil _
  | @reads s s' held es clock k id c h ih =>
    rw [accesses_cons]
    refine ih (fun j old hold => ?_) fun j a r hmem => hnew j a r (List.mem_cons_of_mem _ hmem)
    by_cases hj : j = k
    · subst hj
      rw [Function.update_self] at hold
      exact hasAgent_of_record? hold
    · rw [Function.update_of_ne hj] at hold
      exact hheld j old hold
  | @writes s s' held es clock k id old now c hold hid h ih =>
    have hagent : s.hasAgent id := hid ▸ hheld k old hold
    have ih := ih (fun j old' hold' => by rw [hasAgent_setAgent]; exact hheld j old' hold')
      fun j a r hmem => hnew j a r (List.mem_cons_of_mem _ hmem)
    rw [connections?_setAgent hagent] at ih
    rw [accesses_cons]
    show Register _ (Option.toList (Option.map _ (if id = agentId then _ else none)) ++ _) _
    by_cases hself : id = agentId
    · rw [if_pos hself.symm] at ih
      rw [if_pos hself]
      exact .changes ih
    · rw [if_neg (Ne.symm hself)] at ih
      rw [if_neg hself]
      exact ih
  | @answered s s' held es clock k t c hc h ih =>
    have hcreate : ∀ a, c ≠ .createAgent a := by
      rintro a rfl
      exact hnew k a _ List.mem_cons_self
    have hagents := answer_agents (s := s) (t := t) hcreate hc
    have ih := ih (fun j old hold => by
        unfold hasAgent
        rw [hagents]
        exact hheld j old hold)
      fun j a r hmem => hnew j a r (List.mem_cons_of_mem _ hmem)
    rw [connections?_congr hagents] at ih
    rw [accesses_cons, Event.access?]
    rcases answer_access? (s := s) (t := t) hc with hnone | ⟨cs, hsome, hcs⟩
    · rw [hnone]
      exact ih
    · rw [hsome]
      rw [hcs] at ih ⊢
      exact .loads ih
  | refused k c e h ih =>
    rw [accesses_cons, Event.access?, StoreCall.access?_error]
    exact ih hheld fun j a r hmem => hnew j a r (List.mem_cons_of_mem _ hmem)
  | @silent s s' held es clock k x hr hc h ih =>
    have hnone : x.access? agentId = none := by
      cases x with
      | replied c r => exact absurd rfl (hr c r)
      | _ => rfl
    rw [accesses_cons, hnone]
    exact ih hheld fun j a r hmem => hnew j a r (List.mem_cons_of_mem _ hmem)

end Shares

end Store
end AgentSpec
