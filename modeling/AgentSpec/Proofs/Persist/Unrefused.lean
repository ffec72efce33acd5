import AgentSpec.Proofs.Persist.Branches

/-!
Graphs that the tables admit as a whole.

A graph can be added to an agent if its models, its actions and its schedules have names of their
own that the agent does not use yet, and if no schedule has two steps of one order.  Identifiers that
a stage looks up were known and are in the tables, or were made in a stage before.

Main statement: `save_unrefused`.
-/
namespace AgentSpec

theorem InPhase.wanted {phase : Phase} {es : List Event} (h : InPhase phase es) {k : UniqueKey}
    (hk : k ∈ wanted es) : k.phase = phase := by
  obtain ⟨x, hx, hkey⟩ := List.mem_filterMap.mp hk
  cases x with
  | replied c r =>
    rw [StoreCall.key?_phase hkey]
    exact h _ hx c.phase rfl
  | _ => cases hkey

theorem Told.unrefused {es : List Event} (h : Told es) : Unrefused es := by
  intro c e hmem
  obtain ⟨m, hm⟩ := h _ hmem
  cases hm

theorem mem_made_of_model {es : List Event} {agentId : String} {m : StoredModel}
    (h : .model agentId m ∈ writes es) : .model m.id ∈ made es := by
  obtain ⟨x, hx, hwrite⟩ := List.mem_filterMap.mp h
  refine List.mem_filterMap.mpr ⟨x, hx, ?_⟩
  cases x with
  | replied c r => cases c <;> cases r <;> cases hwrite; rfl
  | _ => cases hwrite

theorem mem_made_of_action {es : List Event} {agentId id modelId : String} {a : Action}
    (h : .action agentId id modelId a ∈ writes es) : .action id ∈ made es := by
  obtain ⟨x, hx, hwrite⟩ := List.mem_filterMap.mp h
  refine List.mem_filterMap.mpr ⟨x, hx, ?_⟩
  cases x with
  | replied c r => cases c <;> cases r <;> cases hwrite; rfl
  | _ => cases hwrite

namespace Store

variable {s s' : Store} {es : List Event} {phase earlier : Phase} {agentId : String}
  {names : List String} {known : Known}

/-- Entities of these names can be added to the agent. -/
structure Takes (s : Store) (phase : Phase) (agentId : String) (names : List String) : Prop where
  agent : s.hasAgent agentId
  once : names.Nodup
  free : ∀ name ∈ names, .named phase agentId name ∉ s.keys

namespace Takes

/-- Calls of another phase leave names free. -/
theorem later (h : s.Takes phase agentId names) (hserves : s.Serves es s')
    (hes : InPhase earlier es) (hne : earlier ≠ phase) : s'.Takes phase agentId names where
  agent := hserves.has (x := .agent agentId) h.agent
  once := h.once
  free name hname htaken := by
    rcases hserves.mem_keys htaken with hold | hwanted
    · exact h.free name hname hold
    · exact hne (hes.wanted hwanted).symm

theorem admits (h : s.Takes phase agentId names) {heads : List StoreCall}
    (hheads : heads.filterMap StoreCall.key? = names.map (.named phase agentId)) : s.Free heads where
  once := by
    rw [hheads]
    exact h.once.map fun name name' heq => (UniqueKey.named.inj heq).2.2
  free := by
    intro k hk
    rw [hheads] at hk
    obtain ⟨name, hname, rfl⟩ := List.mem_map.mp hk
    exact ⟨h.free name hname, h.agent⟩

end Takes

/-- Identifiers that are known are in the tables. -/
structure Knows (s : Store) (known : Known) : Prop where
  models : ∀ name id, known.models.lookup name = some id → s.Has (.model id)
  actions : ∀ name id, known.actions.lookup name = some id → s.Has (.action id)

end Store

namespace Program

variable {w : Weave} {s s' : Store} {es : List Event} {agentId : String} {g : Graph}
  {models : List Model} {additions : Additions} {actions : List Action} {schedules : List Schedule}
  {known : Known} {coding : Bool}

/-! ## What becomes known -/

theorem knows_after_models {saved : List StoredModel}
    (h : (saveModels agentId g.models additions known).Trace w es (.value saved))
    (hserves : s.Serves es s') (hknows : s.Knows known) :
    s'.Knows (saved.foldl Known.addModel known) where
  models name id hid := by
    rcases modelNamed_of_lookup h hid with ⟨m, -, hwrite⟩ | ⟨-, hold⟩
    · exact hserves.has_made (mem_made_of_model hwrite)
    · exact hserves.has (hknows.models name id hold)
  actions name id hid := by
    rw [Known.addModels_actions] at hid
    exact hserves.has (hknows.actions name id hid)

theorem knows_after_actions {saved : List StoredAction × List Warning}
    (h : (saveActions coding agentId g.actions known).Trace w es (.value saved))
    (hserves : s.Serves es s') (hknows : s.Knows known) :
    s'.Knows (saved.1.foldl Known.addAction known) where
  models name id hid := by
    rw [Known.addActions_models] at hid
    exact hserves.has (hknows.models name id hid)
  actions name id hid := by
    rcases actionNamed_of_lookup rfl h hid with ⟨modelId, a, -, hwrite⟩ | ⟨-, hold⟩
    · exact hserves.has_made (mem_made_of_action hwrite)
    · exact hserves.has (hknows.actions name id hold)

/-! ## Stages -/

/-- The steps of a schedule are put in order, and none is lost. -/
theorem turns_orders (p : Schedule) : (p.turns.map (·.1.order)).Perm (p.steps.map (·.order)) := by
  have hperm := (List.mergeSort_perm p.steps.zipIdx fun a b => a.1.order ≤ b.1.order).map
    (·.1.order)
  have hsteps : p.steps.zipIdx.map (·.1.order) = p.steps.map (·.order) := by
    conv_rhs => rw [← List.zipIdx_map_fst 0 p.steps, List.map_map]
    rfl
  rwa [hsteps] at hperm

theorem stage_unrefused {plan : Except (List Issue) γ} {strands : γ → List (Strand β)}
    {milestone : List β → Milestone} {result : List β → δ} {o : End δ} (heads : γ → List StoreCall)
    (h : (stage plan strands milestone result).Trace w es o) (hserves : s.Serves es s')
    (hs : s.Lawful) (hr : s.Readable) (hfree : ∀ p, plan = .ok p → s.Free (heads p))
    (hb : ∀ p, plan = .ok p → List.Forall₂
      (fun c strand => ∀ l o, strand.Trace l o → l ⊆ es → Branch s.Has c l)
      (heads p) (strands p)) : Unrefused es := by
  rcases stage_together h with ⟨rfl, -⟩ | ⟨p, es', ms, o', hp, ht, rfl, hms, -⟩
  · exact fun _ _ => List.not_mem_nil
  · obtain ⟨mid, hserves', -⟩ := hserves.split
    have hb' := (hb p hp).imp fun c strand hbranch l o htr hl =>
      hbranch l o htr (List.Subset.trans hl (List.subset_append_left es' ms))
    exact (ht.unrefused hserves' hs hr (hfree p hp) hb').append hms.unrefused

theorem saveModels_unrefused {o : End (List StoredModel)}
    (h : (saveModels agentId models additions known).Trace w es o) (hserves : s.Serves es s')
    (hs : s.Lawful) (hr : s.Readable) (hknows : s.Knows known)
    (htakes : s.Takes .models agentId (models.map (·.name))) : Unrefused es := by
  rw [saveModels_eq] at h
  refine stage_unrefused (modelCalls agentId models) h hserves hs hr (fun appends hplan => ?_)
    fun appends hplan => ?_
  · apply htakes.admits
    rw [modelCalls, List.filterMap_append, List.filterMap_map, List.filterMap_map, List.map_map]
    simp [Function.comp_def, StoreCall.key?]
  · have happends := Known.resolveAdditions_eq_ok.mp hplan
    refine List.rel_append ?_ ?_
    · rw [List.forall₂_map_left_iff, List.forall₂_map_right_iff, List.forall₂_same]
      exact fun m _ l o htr _ => Strand.saveModel_branch htakes.agent htr
    · rw [List.forall₂_map_left_iff, List.forall₂_map_right_iff, List.forall₂_same]
      intro p hp l o htr _
      obtain ⟨add, -, hid, -⟩ := forall₂_mem_right happends hp
      exact Strand.appendFields_branch (hknows.models add.1 p.1 hid) htr

theorem saveActions_unrefused {o : End (List StoredAction × List Warning)}
    (h : (saveActions coding agentId actions known).Trace w es o) (hserves : s.Serves es s')
    (hs : s.Lawful) (hr : s.Readable) (hknows : s.Knows known)
    (htakes : s.Takes .actions agentId (actions.map (·.name)))
    (hsteps : ∀ a ∈ actions, ∀ modelId, .called (.createAction agentId modelId a) ∈ es →
      a.steps.length ≤ UInt32.size) : Unrefused es := by
  rw [saveActions_eq] at h
  refine stage_unrefused (List.map fun t => .createAction agentId t.2 t.1) h hserves hs hr
    (fun targets hplan => ?_) fun targets hplan => ?_
  · have htargets := Known.resolveActions_eq_ok.mp hplan
    have hnames : actions.map (·.name) = targets.map (·.1.name) :=
      forall₂_map_eq (htargets.imp fun a t ht => by rw [ht.1])
    apply htakes.admits
    rw [hnames, List.filterMap_map, List.map_map]
    simp [Function.comp_def, StoreCall.key?]
  · have htargets := Known.resolveActions_eq_ok.mp hplan
    rw [List.forall₂_map_left_iff, List.forall₂_map_right_iff, List.forall₂_same]
    intro t ht l o htr hl
    obtain ⟨a, ha, rfl, hid⟩ := forall₂_mem_right htargets ht
    exact Strand.saveAction_branch htakes.agent (hknows.models _ t.2 hid)
      (fun hcalled => hsteps _ ha t.2 (hl hcalled)) htr

theorem saveSchedules_unrefused {o : End (List StoredSchedule)}
    (h : (saveSchedules agentId schedules known).Trace w es o) (hserves : s.Serves es s')
    (hs : s.Lawful) (hr : s.Readable) (hknows : s.Knows known)
    (htakes : s.Takes .schedules agentId (schedules.map (·.name)))
    (horders : ∀ p ∈ schedules, (p.steps.map (·.order)).Nodup) : Unrefused es := by
  rw [saveSchedules_eq] at h
  refine stage_unrefused (List.map fun p => .createSchedule agentId p.1) h hserves hs hr
    (fun plans hplan => ?_) fun plans hplan => ?_
  · have hplans := Known.resolveSchedules_eq_ok.mp hplan
    have hnames : schedules.map (·.name) = plans.map (·.1.name) :=
      forall₂_map_eq (hplans.imp fun c p hp => by rw [hp.1])
    apply htakes.admits
    rw [hnames, List.filterMap_map, List.map_map]
    simp [Function.comp_def, StoreCall.key?]
  · have hplans := Known.resolveSchedules_eq_ok.mp hplan
    rw [List.forall₂_map_left_iff, List.forall₂_map_right_iff, List.forall₂_same]
    intro p hp l o htr hl
    obtain ⟨c, hc, rfl, hturns⟩ := forall₂_mem_right hplans hp
    refine Strand.saveSchedule_branch htakes.agent (fun t ht => ?_) ?_ htr
    · obtain ⟨u, -, -, hmodel, haction⟩ := forall₂_mem_right hturns ht
      exact ⟨hknows.models _ _ hmodel, hknows.actions _ _ haction⟩
    · have hsteps : p.2.map (·.1.order) = p.1.turns.map (·.1.order) :=
        (forall₂_map_eq (hturns.imp fun t u hu => by rw [hu.1])).symm
      rw [hsteps]
      exact (turns_orders p.1).nodup_iff.mpr (horders _ hc)

/-! ## The whole run -/

/-- The graph can be added to the agent, and what is known is in the tables. -/
structure Fits (s : Store) (agentId : String) (g : Graph) (known : Known) : Prop where
  models : s.Takes .models agentId (g.models.map (·.name))
  actions : s.Takes .actions agentId (g.actions.map (·.name))
  schedules : s.Takes .schedules agentId (g.schedules.map (·.name))
  orders : ∀ p ∈ g.schedules, (p.steps.map (·.order)).Nodup
  knows : s.Knows known

/-- None of the calls of a run is refused if the graph fits. -/
theorem save_unrefused {o : End Saved} (h : (save coding agentId g additions known).Trace w es o)
    (hserves : s.Serves es s') (hs : s.Lawful) (hr : s.Readable) (hfits : Fits s agentId g known)
    (hsteps : ∀ a ∈ g.actions, ∀ modelId, .called (.createAction agentId modelId a) ∈ es →
      a.steps.length ≤ UInt32.size) : Unrefused es := by
  rcases trace_bind_events h with ⟨models, es₁, es', h₁, h', rfl⟩ | ⟨o₁, h₁⟩
  case inr => exact saveModels_unrefused h₁ hserves hs hr hfits.knows hfits.models
  obtain ⟨s₁, hserves₁, hserves'⟩ := hserves.split
  have hphase₁ := (saveModels_does h₁).inPhase
  have hknows₁ := knows_after_models h₁ hserves₁ hfits.knows
  have hactions := hfits.actions.later hserves₁ hphase₁ (by decide)
  refine (saveModels_unrefused h₁ hserves₁ hs hr hfits.knows hfits.models).append ?_
  have hsteps' : ∀ a ∈ g.actions, ∀ modelId, .called (.createAction agentId modelId a) ∈ es' →
      a.steps.length ≤ UInt32.size :=
    fun a ha modelId hcalled => hsteps a ha modelId (List.mem_append_right _ hcalled)
  clear hsteps
  rcases trace_bind_events h' with ⟨actions, es₂, es'', h₂, h'', rfl⟩ | ⟨o₂, h₂⟩
  case inr =>
    exact saveActions_unrefused h₂ hserves' (hserves₁.lawful hs) (hserves₁.readable hr) hknows₁
      hactions hsteps'
  obtain ⟨s₂, hserves₂, hserves₃⟩ := hserves'.split
  have hphase₂ := (saveActions_does h₂).inPhase
  refine Unrefused.append ?_ ?_
  · exact saveActions_unrefused h₂ hserves₂ (hserves₁.lawful hs) (hserves₁.readable hr) hknows₁
      hactions fun a ha modelId hcalled => hsteps' a ha modelId (List.mem_append_left _ hcalled)
  · obtain ⟨o₃, h₃⟩ := trace_bind_pure_events h''
    have hschedules := (hfits.schedules.later hserves₁ hphase₁ (by decide)).later hserves₂ hphase₂
      (by decide)
    exact saveSchedules_unrefused h₃ hserves₃ (hserves₂.lawful (hserves₁.lawful hs))
      (hserves₂.readable (hserves₁.readable hr)) (knows_after_actions h₂ hserves₂ hknows₁) hschedules
      hfits.orders

end Program
end AgentSpec
