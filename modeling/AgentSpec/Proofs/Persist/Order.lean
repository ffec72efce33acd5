import AgentSpec.Proofs.Persist.Calls
import AgentSpec.Proofs.Persist.Readback

/-!
The order in which a run stores a graph.

The strands of a stage run side by side, each issues its calls in turn, and a stage begins when all
calls of the one before it have succeeded.  What a call refers to by name was created in this run,
or was known before.  Main statement: `Program.save_inOrder`; it holds of every trace, with any
replies and in any interleaving.
-/
namespace AgentSpec

/-! ## Side by side -/

/-- The events are interleaved from one part for each member of a list. -/
def SideBySide (R : α → List Event → Prop) (as : List α) (es : List Event) : Prop :=
  ∃ parts, List.Forall₂ R as parts ∧ Interleaved parts es

theorem SideBySide.imp {R R' : α → List Event → Prop} {as : List α} {es : List Event}
    (h : SideBySide R as es) (himp : ∀ a l, R a l → R' a l) : SideBySide R' as es := by
  obtain ⟨parts, hparts, hi⟩ := h
  exact ⟨parts, hparts.imp fun a l => himp a l, hi⟩

/-- Where the calls of each part have succeeded, all have. -/
theorem SideBySide.succeeded_perm {R : α → List Event → Prop} {as : List α} {es : List Event}
    (h : SideBySide R as es) (hR : ∀ a l, R a l → Confirmed l) :
    (succeeded es).Perm (issued es) := by
  obtain ⟨parts, hparts, hi⟩ := h
  have hsucceeded : parts.map succeeded = parts.map issued := by
    refine List.map_congr_left fun l hl => ?_
    obtain ⟨a, -, ha⟩ := forall₂_mem_right hparts hl
    exact (hR a l ha).symm
  have hw : (succeeded es).Perm (parts.map succeeded).flatten := by
    have hperm := (hi.filterMap Event.write?).perm.map Write.call
    rw [List.map_flatten, List.map_map] at hperm
    exact hperm
  rw [hsucceeded] at hw
  exact hw.trans (hi.filterMap Event.call?).perm.symm

theorem Together.sideBySide {w : Weave} {strands : List (Strand β)} {es : List Event}
    {o : End (List β)} (ht : Together w strands es o) :
    SideBySide (fun s l => ∃ p, s.Trace l p ∧ (o.IsValue → p.IsValue)) strands es := by
  obtain ⟨ps, hps, hi, hj⟩ := ht.parts
  refine ⟨ps.map (·.1), ?_, w.interleaved hi⟩
  rw [List.forall₂_map_right_iff]
  refine forall₂_imp_mem hps fun s p _ hp htr => ⟨p.2, htr, ?_⟩
  rintro ⟨bs, rfl⟩
  generalize hends : ps.map (·.2) = ends at hj
  cases hj with
  | values bs =>
    have hmem : p.2 ∈ bs.map End.value := hends ▸ List.mem_map_of_mem hp
    obtain ⟨b, -, hb⟩ := List.mem_map.mp hmem
    exact ⟨b, hb.symm⟩

/-! ## Stages -/

/-- Nothing but milestones. -/
def Told (es : List Event) : Prop := ∀ x ∈ es, ∃ m, x = .told m

namespace Told

variable {es : List Event}

theorem issued_eq_nil (h : Told es) : issued es = [] := by
  refine List.filterMap_eq_nil_iff.mpr fun x hx => ?_
  obtain ⟨m, rfl⟩ := h x hx
  rfl

theorem writes_eq_nil (h : Told es) : writes es = [] := by
  refine List.filterMap_eq_nil_iff.mpr fun x hx => ?_
  obtain ⟨m, rfl⟩ := h x hx
  rfl

theorem inPhase (h : Told es) (phase : Phase) : InPhase phase es := by
  intro x hx other hother
  obtain ⟨m, rfl⟩ := h x hx
  cases hother

theorem during_eq_nil (h : Told es) (phase : Phase) : during phase es = [] := by
  refine List.filter_eq_nil_iff.mpr fun x hx hphase => ?_
  obtain ⟨m, rfl⟩ := h x hx
  cases hphase

end Told

namespace Program

variable {w : Weave} {es : List Event}

/-- A stage leaves no events and has no result, or it does what `P` says, and tells of it.  `P` is
told whether the stage has a result. -/
structure StageDoes (phase : Phase) (P : Prop → List Event → Prop) (es : List Event)
    (through : Prop) : Prop where
  inPhase : InPhase phase es
  does : (es = [] ∧ ¬through) ∨ P through (during phase es)
  /-- With a result, all calls have succeeded. -/
  settled : through → (succeeded es).Perm (issued es)

theorem StageDoes.skipped {phase : Phase} {P : Prop → List Event → Prop} {through : Prop}
    (hno : ¬through) : StageDoes phase P [] through :=
  ⟨.nil, Or.inl ⟨rfl, hno⟩, fun h => absurd h hno⟩

theorem StageDoes.imp {phase : Phase} {P P' : Prop → List Event → Prop} {es : List Event}
    {through : Prop} (h : StageDoes phase P es through)
    (himp : ∀ es', P through es' → P' through es') : StageDoes phase P' es through :=
  ⟨h.inPhase, h.does.imp_right (himp _), h.settled⟩

theorem trace_bind_through {p : Program α} {f : α → Program β} {o : End β}
    (h : (p >>= f).Trace w es o) :
    (∃ a es₁ es₂, p.Trace w es₁ (.value a) ∧ (f a).Trace w es₂ o ∧ es = es₁ ++ es₂) ∨
      ∃ o', p.Trace w es o' ∧ ¬o'.IsValue ∧ ¬o.IsValue := by
  rcases trace_bind h with h | ⟨e, h₁, rfl⟩ | ⟨h₁, rfl⟩
  · exact Or.inl h
  · exact Or.inr ⟨_, h₁, End.not_isValue_error e, End.not_isValue_error e⟩
  · exact Or.inr ⟨_, h₁, End.not_isValue_cut, End.not_isValue_cut⟩

section Stage

variable {plan : Except (List Issue) γ} {strands : γ → List (Strand β)}
  {milestone : List β → Milestone} {result : List β → δ} {o : End δ}

theorem stage_together (h : (stage plan strands milestone result).Trace w es o) :
    (es = [] ∧ ¬o.IsValue) ∨ ∃ p es' ms o', plan = .ok p ∧ Together w (strands p) es' o' ∧
      es = es' ++ ms ∧ Told ms ∧ (o.IsValue → o'.IsValue) := by
  rcases trace_bind_through h with ⟨p, es₁, es₂, h₁, h₂, rfl⟩ | ⟨o', h₁, -, hno⟩
  case inr => exact Or.inl ⟨(trace_resolved h₁).1, hno⟩
  obtain ⟨rfl, ⟨p', hp, ho⟩ | ⟨issues, -, ho⟩ | ho⟩ := trace_resolved h₁ <;> cases ho
  refine Or.inr ?_
  rw [List.nil_append]
  rcases trace_bind_through h₂ with ⟨bs, es₃, es₄, h₃, h₄, rfl⟩ | ⟨o', h₃, -, hno⟩
  case inr =>
    refine ⟨p, es₂, [], o', hp, trace_all h₃, (List.append_nil _).symm, List.forall_mem_nil _, ?_⟩
    exact fun ho => absurd ho hno
  have htold : Told es₄ := by
    have htell {es : List Event} {o : End Unit} (h : (tell (milestone bs)).Trace w es o) :
        Told es := by
      rcases trace_tell h with ⟨rfl, -⟩ | ⟨rfl, -⟩
      · exact List.forall_mem_nil _
      · exact List.forall_mem_singleton.mpr ⟨_, rfl⟩
    rcases trace_bind_events h₄ with ⟨u, es₅, es₆, h₅, h₆, rfl⟩ | ⟨o', h₅⟩
    · obtain ⟨rfl, -⟩ := trace_pure.mp h₆
      rw [List.append_nil]
      exact htell h₅
    · exact htell h₅
  exact ⟨p, es₃, es₄, _, hp, trace_all h₃, rfl, htold, fun _ => End.isValue_value bs⟩

/-- A stage does what its strands do side by side. -/
theorem stage_does {phase : Phase} {P : Prop → List Event → Prop}
    (h : (stage plan strands milestone result).Trace w es o)
    (hwithin : ∀ p, ∀ s ∈ strands p, s.Within phase)
    (hP : ∀ p es', plan = .ok p →
      SideBySide (fun s l => ∃ q, s.Trace l q ∧ (o.IsValue → q.IsValue)) (strands p) es' →
      P o.IsValue es')
    (hconfirmed : ∀ es', P True es' → (succeeded es').Perm (issued es')) :
    StageDoes phase P es o.IsValue := by
  rcases stage_together h with ⟨rfl, hno⟩ | ⟨p, es', ms, o', hp, ht, rfl, hms, ho⟩
  · exact ⟨.nil, Or.inl ⟨rfl, hno⟩, fun ho => absurd ho hno⟩
  have hphase : ∀ x ∈ es', x.phase? = some phase := by
    intro x hx
    obtain ⟨s, hs, l, q, htr, hl, -⟩ := ht.exists_trace hx
    exact hwithin p s hs l q htr x hl
  have hduring : during phase (es' ++ ms) = es' := by
    rw [during_append, hms.during_eq_nil, List.append_nil]
    exact List.filter_eq_self.mpr fun x hx => beq_iff_eq.mpr (hphase x hx)
  have hdoes : P o.IsValue es' := hP p es' hp
    (ht.sideBySide.imp fun s l ⟨q, htr, hq⟩ => ⟨q, htr, fun hvalue => hq (ho hvalue)⟩)
  refine ⟨?_, Or.inr (by rw [hduring]; exact hdoes), fun hvalue => ?_⟩
  · refine InPhase.append (fun x hx other hother => ?_) (hms.inPhase phase)
    rw [hphase x hx] at hother
    exact (Option.some.inj hother).symm
  · rw [succeeded_append, issued_append, hms.issued_eq_nil, succeeded, succeeded,
      hms.writes_eq_nil, List.map_nil, List.append_nil, List.append_nil]
    rw [eq_true hvalue] at hdoes
    exact hconfirmed es' hdoes

end Stage

/-! ## What the three stages do -/

variable {agentId : String} {models : List Model} {additions : Additions} {actions : List Action}
  {schedules : List Schedule} {known : Known} {coding : Bool}

/-- The calls of the first stage. -/
def modelCalls (agentId : String) (models : List Model) (appends : List (String × List Field)) :
    List StoreCall :=
  models.map (.createModel agentId) ++ appends.map fun p => .appendFields p.1 p.2

/-- Models are created and fields appended to known models, all side by side. -/
def ModelsStored (agentId : String) (models : List Model) (additions : Additions) (known : Known)
    (through : Prop) (es : List Event) : Prop :=
  ∃ appends, List.Forall₂ (fun add p => known.models.lookup add.1 = some p.1 ∧ p.2 = add.2)
      additions appends ∧
    SideBySide (fun c l => Carries [c] l through) (modelCalls agentId models appends) es

/-- Actions are created side by side; each is followed by its steps, in order and under the
identifier that it got.  `model` says which identifier may be used for a name. -/
def ActionsStored (coding : Bool) (agentId : String) (model : String → String → Prop)
    (actions : List Action) (through : Prop) (es : List Event) : Prop :=
  SideBySide (fun a l => ∃ modelId id ts, model a.targetModel modelId ∧
    List.Forall₂ (Step.Prepares coding a) a.steps ts ∧
    StartsWith l (.action agentId id modelId a) ∧
    Carries (.createAction agentId modelId a :: stepCalls id 0 ts) l through) actions es

/-- Schedules are created side by side; each is followed by its turns, by their orders and under
the identifier that it got. -/
def SchedulesStored (agentId : String) (model action : String → String → Prop)
    (schedules : List Schedule) (through : Prop) (es : List Event) : Prop :=
  SideBySide (fun c l => ∃ id turns, (turns.map (·.1)).Perm c.steps ∧
    turns.Pairwise (fun t u => t.1.order ≤ u.1.order) ∧
    (∀ t ∈ turns, model t.1.modelName t.2.1 ∧ action t.1.actionName t.2.2) ∧
    StartsWith l (.schedule agentId id c) ∧
    Carries (.createSchedule agentId c :: turnCalls id turns) l through) schedules es

theorem modelStrands_carries (agentId : String) (models : List Model)
    (appends : List (String × List Field)) :
    List.Forall₂ (fun c s => ∀ l o, s.Trace l o → Carries [c] l o.IsValue)
      (modelCalls agentId models appends) (modelStrands agentId models appends) := by
  refine List.rel_append ?_ ?_
  · rw [List.forall₂_map_left_iff, List.forall₂_map_right_iff, List.forall₂_same]
    exact fun m _ l o => Strand.saveModel_carries
  · rw [List.forall₂_map_left_iff, List.forall₂_map_right_iff, List.forall₂_same]
    exact fun p _ l o => Strand.appendFields_carries

theorem modelStrands_within (appends : List (String × List Field)) :
    ∀ s ∈ modelStrands agentId models appends, s.Within .models := by
  intro s hs
  rcases List.mem_append.mp hs with hs | hs
  · obtain ⟨m, -, rfl⟩ := List.mem_map.mp hs
    exact Strand.saveModel_within
  · obtain ⟨p, -, rfl⟩ := List.mem_map.mp hs
    exact Strand.appendFields_within

theorem saveModels_does {o : End (List StoredModel)}
    (h : (saveModels agentId models additions known).Trace w es o) :
    StageDoes .models (ModelsStored agentId models additions known) es o.IsValue := by
  rw [saveModels_eq] at h
  refine stage_does h modelStrands_within (fun appends es' hplan hside => ?_)
    fun es' hstored => ?_
  · obtain ⟨parts, hparts, hi⟩ := hside
    refine ⟨appends, Known.resolveAdditions_eq_ok.mp hplan, parts, ?_, hi⟩
    refine forall₂_trans (modelStrands_carries agentId models appends) hparts ?_
    rintro c s l hcarries ⟨q, htr, hq⟩
    exact (hcarries l q htr).mono hq
  · obtain ⟨appends, -, hside⟩ := hstored
    exact hside.succeeded_perm fun c l hl => (hl.whole trivial).2

theorem saveActions_does {o : End (List StoredAction × List Warning)}
    (h : (saveActions coding agentId actions known).Trace w es o) :
    StageDoes .actions (ActionsStored coding agentId
      (fun name id => known.models.lookup name = some id) actions) es o.IsValue := by
  rw [saveActions_eq] at h
  refine stage_does h (fun targets s hs => ?_) (fun targets es' hplan hside => ?_)
    fun es' hstored => ?_
  · obtain ⟨t, -, rfl⟩ := List.mem_map.mp hs
    exact Strand.saveAction_within
  · obtain ⟨parts, hparts, hi⟩ := hside
    rw [List.forall₂_map_left_iff] at hparts
    refine ⟨parts, forall₂_trans (Known.resolveActions_eq_ok.mp hplan) hparts ?_, hi⟩
    rintro a t l ⟨rfl, hid⟩ ⟨q, htr, hq⟩
    obtain ⟨id, ts, hts, hstart, hcarries⟩ := Strand.saveAction_carries htr
    exact ⟨t.2, id, ts, hid, hts, hstart, hcarries.mono hq⟩
  · refine hstored.succeeded_perm ?_
    rintro a l ⟨modelId, id, ts, -, -, -, hl⟩
    exact (hl.whole trivial).2

theorem saveSchedules_does {o : End (List StoredSchedule)}
    (h : (saveSchedules agentId schedules known).Trace w es o) :
    StageDoes .schedules (SchedulesStored agentId
      (fun name id => known.models.lookup name = some id)
      (fun name id => known.actions.lookup name = some id) schedules) es o.IsValue := by
  rw [saveSchedules_eq] at h
  refine stage_does h (fun plans s hs => ?_) (fun plans es' hplan hside => ?_)
    fun es' hstored => ?_
  · obtain ⟨p, -, rfl⟩ := List.mem_map.mp hs
    exact Strand.saveSchedule_within
  · obtain ⟨parts, hparts, hi⟩ := hside
    rw [List.forall₂_map_left_iff] at hparts
    refine ⟨parts, forall₂_trans (Known.resolveSchedules_eq_ok.mp hplan) hparts ?_, hi⟩
    rintro c p l ⟨rfl, hturns⟩ ⟨q, htr, hq⟩
    obtain ⟨id, hstart, hcarries⟩ := Strand.saveSchedule_carries htr
    have hsteps : p.2.map (·.1) = p.1.turns.map (·.1) :=
      (forall₂_map_eq (hturns.imp fun t r hr => hr.1.symm)).symm
    refine ⟨id, p.2, ?_, ?_, fun r hr => ?_, hstart, hcarries.mono hq⟩
    · rw [hsteps]
      have hperm := (List.mergeSort_perm p.1.steps.zipIdx fun a b => a.1.order ≤ b.1.order).map
        Prod.fst
      rw [List.zipIdx_map_fst] at hperm
      exact hperm
    · have hsorted : (p.1.turns.map (·.1)).Pairwise fun t u => t.order ≤ u.order :=
        List.pairwise_map.mpr p.1.turns_sorted
      rw [← hsteps, List.pairwise_map] at hsorted
      exact hsorted
    · obtain ⟨t, -, hstep, hmodel, haction⟩ := forall₂_mem_right hturns hr
      rw [hstep]
      exact ⟨hmodel, haction⟩
  · refine hstored.succeeded_perm ?_
    rintro c l ⟨id, turns, -, -, -, -, hl⟩
    exact (hl.whole trivial).2

/-! ## Identifiers -/

/-- The identifier of a model that this run created under the name, or else the known one. -/
def ModelNamed (agentId : String) (g : Graph) (known : Known) (es : List Event)
    (name id : String) : Prop :=
  (∃ m : Model, m.name = name ∧ .model agentId ⟨id, m⟩ ∈ writes es) ∨
    (name ∉ g.models.map (·.name) ∧ known.models.lookup name = some id)

/-- The identifier of an action that this run created under the name, or else the known one. -/
def ActionNamed (agentId : String) (g : Graph) (known : Known) (es : List Event)
    (name id : String) : Prop :=
  (∃ modelId a, a.name = name ∧ .action agentId id modelId a ∈ writes es) ∨
    (name ∉ g.actions.map (·.name) ∧ known.actions.lookup name = some id)

theorem ModelNamed.mono {g : Graph} {es' : List Event} {name id : String}
    (h : ModelNamed agentId g known es name id) (hsub : writes es ⊆ writes es') :
    ModelNamed agentId g known es' name id :=
  h.imp_left fun ⟨m, hm, hmem⟩ => ⟨m, hm, hsub hmem⟩

theorem ActionNamed.mono {g : Graph} {es' : List Event} {name id : String}
    (h : ActionNamed agentId g known es name id) (hsub : writes es ⊆ writes es') :
    ActionNamed agentId g known es' name id :=
  h.imp_left fun ⟨modelId, a, ha, hmem⟩ => ⟨modelId, a, ha, hsub hmem⟩

/-- After the first stage names of models stand for what it created, and for what was known. -/
theorem modelNamed_of_lookup {g : Graph} {saved : List StoredModel} {name id : String}
    (h : (saveModels agentId g.models additions known).Trace w es (.value saved))
    (hid : (saved.foldl Known.addModel known).models.lookup name = some id) :
    ModelNamed agentId g known es name id := by
  obtain ⟨appends, parts, es', -, hmodels, hparts, hallows, hws⟩ := saveModels_value h
  rw [Known.addModels_models] at hid
  rcases Dictionary.lookup_foldl_insert_cases hid with hmem | ⟨hnew, hold⟩
  · obtain ⟨m, hm, heq⟩ := List.mem_map.mp hmem
    cases heq
    refine Or.inl ⟨m.model, rfl, ?_⟩
    rw [hws, (w.interleaved_writes id (fun _ => []) hparts hallows).mem_iff]
    exact ⟨_, List.mem_map_of_mem (List.mem_append_left _ (List.mem_map_of_mem hm)),
      List.mem_cons_self⟩
  · refine Or.inr ⟨?_, hold⟩
    rw [← hmodels]
    rw [List.map_map] at hnew ⊢
    exact hnew

/-- After the second stage names of actions stand for what it created, and for what was known. -/
theorem actionNamed_of_lookup {g : Graph} {saved : List StoredAction × List Warning}
    {before : Known} {name id : String} (hbefore : before.actions = known.actions)
    (h : (saveActions coding agentId g.actions before).Trace w es (.value saved))
    (hid : (saved.1.foldl Known.addAction before).actions.lookup name = some id) :
    ActionNamed agentId g known es name id := by
  obtain ⟨entries, parts, es', hsaved, hactions, -, hparts, hallows, hws⟩ := saveActions_value h
  rw [Known.addActions_actions] at hid
  rcases Dictionary.lookup_foldl_insert_cases hid with hmem | ⟨hnew, hold⟩
  · obtain ⟨a, ha, heq⟩ := List.mem_map.mp hmem
    cases heq
    rw [hsaved] at ha
    obtain ⟨x, hx, rfl⟩ := List.mem_map.mp ha
    refine Or.inl ⟨x.1.2.1, x.1.2.2, rfl, ?_⟩
    rw [hws, (w.interleaved_writes _ _ hparts hallows).mem_iff]
    exact ⟨_, List.mem_map_of_mem hx, List.mem_cons_self⟩
  · rw [hbefore] at hold
    refine Or.inr ⟨?_, hold⟩
    rw [← saveActions_names h]
    rw [List.map_map] at hnew
    exact hnew

/-! ## The whole run -/

/-- The run ends with a result, or has gone on to a later phase. -/
def Passed (es : List Event) (finished : Prop) (phase : Phase) : Prop :=
  finished ∨ ∃ c ∈ issued es, phase.rank < c.phase.rank

/-- What a run does in a phase.  Either there is nothing of the phase and it is not passed, or `P`
holds of its events; `P` is told whether the phase is passed. -/
def DoesIn (phase : Phase) (P : Prop → List Event → Prop) (es : List Event) (finished : Prop) :
    Prop :=
  (during phase es = [] ∧ ¬Passed es finished phase) ∨
    P (Passed es finished phase) (during phase es)

/-- How a run stores a graph, whatever the store replies. -/
structure InOrder (coding : Bool) (agentId : String) (g : Graph) (additions : Additions)
    (known : Known) (es : List Event) (finished : Prop) : Prop where
  phases : ∀ c ∈ issued es, c.phase = .models ∨ c.phase = .actions ∨ c.phase = .schedules
  barrier : Barrier es
  models : DoesIn .models (ModelsStored agentId g.models additions known) es finished
  actions : DoesIn .actions
    (ActionsStored coding agentId (ModelNamed agentId g known es) g.actions) es finished
  schedules : DoesIn .schedules
    (SchedulesStored agentId (ModelNamed agentId g known es) (ActionNamed agentId g known es)
      g.schedules) es finished

theorem ModelsStored.mono {through through' : Prop}
    (h : ModelsStored agentId models additions known through es) (himp : through' → through) :
    ModelsStored agentId models additions known through' es := by
  obtain ⟨appends, happends, hside⟩ := h
  exact ⟨appends, happends, hside.imp fun c l hl => hl.mono himp⟩

theorem ActionsStored.mono {model model' : String → String → Prop} {through through' : Prop}
    (h : ActionsStored coding agentId model actions through es)
    (hmodel : ∀ name id, model name id → model' name id) (himp : through' → through) :
    ActionsStored coding agentId model' actions through' es := by
  refine SideBySide.imp h ?_
  rintro a l ⟨modelId, id, ts, hid, hts, hstart, hl⟩
  exact ⟨modelId, id, ts, hmodel _ _ hid, hts, hstart, hl.mono himp⟩

theorem SchedulesStored.mono {model model' action action' : String → String → Prop}
    {through through' : Prop} (h : SchedulesStored agentId model action schedules through es)
    (hmodel : ∀ name id, model name id → model' name id)
    (haction : ∀ name id, action name id → action' name id) (himp : through' → through) :
    SchedulesStored agentId model' action' schedules through' es := by
  refine SideBySide.imp h ?_
  rintro c l ⟨id, turns, hperm, hsorted, hids, hstart, hl⟩
  refine ⟨id, turns, hperm, hsorted, fun t ht => ?_, hstart, hl.mono himp⟩
  exact ⟨hmodel _ _ (hids t ht).1, haction _ _ (hids t ht).2⟩

/-- What a stage does, seen in the whole run. -/
theorem StageDoes.doesIn {phase : Phase} {P : Prop → List Event → Prop} {all : List Event}
    {through finished : Prop} (h : StageDoes phase P es through)
    (hduring : during phase all = during phase es) (hpassed : Passed all finished phase → through)
    (hmono : ∀ es', P through es' → P (Passed all finished phase) es') :
    DoesIn phase P all finished := by
  unfold DoesIn
  rw [hduring]
  rcases h.does with ⟨rfl, hno⟩ | hdoes
  · exact Or.inl ⟨rfl, fun hp => hno (hpassed hp)⟩
  · exact Or.inr (hmono _ hdoes)

section Stages

variable {P₁ P₂ P₃ : Prop → List Event → Prop} {es₁ es₂ es₃ : List Event} {t₁ t₂ t₃ : Prop}

/-- A stage begins when the calls of those before it have succeeded. -/
theorem barrier_of_stages (h₁ : StageDoes .models P₁ es₁ t₁) (h₂ : StageDoes .actions P₂ es₂ t₂)
    (h₃ : StageDoes .schedules P₃ es₃ t₃) (h₁₂ : t₂ ∨ es₂ ≠ [] → t₁) (h₂₃ : es₃ ≠ [] → t₂) :
    Barrier (es₁ ++ es₂ ++ es₃) := by
  have hfirst : Barrier es₁ :=
    Barrier.nil.append (fun _ => List.Perm.refl _) (List.forall_mem_nil _) h₁.inPhase
  have hsecond : Barrier (es₁ ++ es₂) := by
    refine hfirst.append (fun hne => h₁.settled (h₁₂ (Or.inr hne))) (fun c hc => ?_) h₂.inPhase
    rw [h₁.inPhase.rank_of_issued hc]
    decide
  refine hsecond.append (fun hne => ?_) (fun c hc => ?_) h₃.inPhase
  · rw [succeeded_append, issued_append]
    exact (h₁.settled (h₁₂ (Or.inl (h₂₃ hne)))).append (h₂.settled (h₂₃ hne))
  · rw [issued_append] at hc
    rcases List.mem_append.mp hc with hc | hc
    · rw [h₁.inPhase.rank_of_issued hc]
      decide
    · rw [h₂.inPhase.rank_of_issued hc]
      decide

/-- Three stages one after the other.  One that has no result is the last that leaves events. -/
theorem inOrder_of_stages {g : Graph} {finished : Prop} (hes : es = es₁ ++ es₂ ++ es₃)
    (h₁ : StageDoes .models (ModelsStored agentId g.models additions known) es₁ t₁)
    (h₂ : StageDoes .actions
      (ActionsStored coding agentId (ModelNamed agentId g known es) g.actions) es₂ t₂)
    (h₃ : StageDoes .schedules (SchedulesStored agentId (ModelNamed agentId g known es)
      (ActionNamed agentId g known es) g.schedules) es₃ t₃)
    (h₁₂ : t₂ ∨ es₂ ≠ [] → t₁) (h₂₃ : t₃ ∨ es₃ ≠ [] → t₂) (hfinished : finished → t₃) :
    InOrder coding agentId g additions known es finished := by
  have hfrom {c : StoreCall} (hc : c ∈ issued es) :
      (c ∈ issued es₁ ∨ c ∈ issued es₂) ∨ c ∈ issued es₃ := by
    rw [hes, issued_append, issued_append] at hc
    exact (List.mem_append.mp hc).imp_left List.mem_append.mp
  have hne {c : StoreCall} {l : List Event} (hc : c ∈ issued l) : l ≠ [] := by
    rintro rfl
    cases hc
  have hpassed₃ : Passed es finished .schedules → t₃ := by
    rintro (ht | ⟨c, -, hlt⟩)
    · exact hfinished ht
    · cases hphase : c.phase <;> rw [hphase] at hlt <;> exact absurd hlt (by decide)
  have hpassed₂ : Passed es finished .actions → t₂ := by
    rintro (ht | ⟨c, hc, hlt⟩)
    · exact h₂₃ (Or.inl (hfinished ht))
    · rcases hfrom hc with (hc | hc) | hc
      · exact absurd (h₁.inPhase.rank_of_issued hc ▸ hlt) (by decide)
      · exact absurd (h₂.inPhase.rank_of_issued hc ▸ hlt) (by decide)
      · exact h₂₃ (Or.inr (hne hc))
  have hpassed₁ : Passed es finished .models → t₁ := by
    rintro (ht | ⟨c, hc, hlt⟩)
    · exact h₁₂ (Or.inl (h₂₃ (Or.inl (hfinished ht))))
    · rcases hfrom hc with (hc | hc) | hc
      · exact absurd (h₁.inPhase.rank_of_issued hc ▸ hlt) (by decide)
      · exact h₁₂ (Or.inr (hne hc))
      · exact h₁₂ (Or.inl (h₂₃ (Or.inr (hne hc))))
  have hduring (phase : Phase) : during phase es =
      during phase es₁ ++ during phase es₂ ++ during phase es₃ := by
    rw [hes, during_append, during_append]
  refine ⟨fun c hc => ?_, ?_, ?_, ?_, ?_⟩
  · rcases hfrom hc with (hc | hc) | hc
    · exact Or.inl (h₁.inPhase.phase_of_issued hc)
    · exact Or.inr (Or.inl (h₂.inPhase.phase_of_issued hc))
    · exact Or.inr (Or.inr (h₃.inPhase.phase_of_issued hc))
  · rw [hes]
    exact barrier_of_stages h₁ h₂ h₃ h₁₂ fun hne => h₂₃ (Or.inr hne)
  · refine h₁.doesIn ?_ hpassed₁ fun _ hs => hs.mono hpassed₁
    rw [hduring, h₂.inPhase.during_other (by decide), h₃.inPhase.during_other (by decide),
      List.append_nil, List.append_nil]
  · refine h₂.doesIn ?_ hpassed₂ fun _ hs => hs.mono (fun _ _ => id) hpassed₂
    rw [hduring, h₁.inPhase.during_other (by decide), h₃.inPhase.during_other (by decide),
      List.append_nil, List.nil_append]
  · refine h₃.doesIn ?_ hpassed₃ fun _ hs => hs.mono (fun _ _ => id) (fun _ _ => id) hpassed₃
    rw [hduring, h₁.inPhase.during_other (by decide), h₂.inPhase.during_other (by decide)]
    rfl

end Stages

/-- A run stores models, actions and schedules in this order, and each entity's rows in turn. -/
theorem save_inOrder {g : Graph} {o : End Saved}
    (h : (save coding agentId g additions known).Trace w es o) :
    InOrder coding agentId g additions known es o.IsValue := by
  have hstops {p : Prop} (hno : ¬p) {q : Prop} : p ∨ ([] : List Event) ≠ [] → q := by
    rintro (hp | hne)
    · exact absurd hp hno
    · exact absurd rfl hne
  rcases trace_bind_through h with ⟨models, es₁, es', h₁, h', rfl⟩ | ⟨o₁, h₁, -, hno⟩
  case inr =>
    exact inOrder_of_stages (by rw [List.append_nil, List.append_nil]) (saveModels_does h₁)
      (.skipped not_false)
      (.skipped hno) (hstops not_false) (hstops hno) id
  have hmodel {rest : List Event} (name id : String)
      (hid : (models.foldl Known.addModel known).models.lookup name = some id) :
      ModelNamed agentId g known (es₁ ++ rest) name id := by
    refine (modelNamed_of_lookup h₁ hid).mono ?_
    rw [writes_append]
    exact List.subset_append_left _ _
  rcases trace_bind_through h' with ⟨r, es₂, es'', h₂, h'', rfl⟩ | ⟨o₂, h₂, -, hno⟩
  case inr =>
    exact inOrder_of_stages (by rw [List.append_nil]) (saveModels_does h₁)
      ((saveActions_does h₂).imp fun _ hs => hs.mono hmodel id) (.skipped hno)
      (fun _ => End.isValue_value models) (hstops hno) id
  have haction {rest : List Event} (name id : String)
      (hid : (r.1.foldl Known.addAction (models.foldl Known.addModel known)).actions.lookup name =
        some id) : ActionNamed agentId g known (es₁ ++ (es₂ ++ rest)) name id := by
    refine (actionNamed_of_lookup (Known.addModels_actions models known) h₂ hid).mono ?_
    rw [writes_append, writes_append]
    exact List.Subset.trans (List.subset_append_left _ _) (List.subset_append_right _ _)
  have hmodels : (r.1.foldl Known.addAction (models.foldl Known.addModel known)).models =
      (models.foldl Known.addModel known).models := Known.addActions_models _ _
  have hlast {es₃ : List Event} {o₃ : End (List StoredSchedule)}
      (h₃ : (saveSchedules agentId g.schedules
        (r.1.foldl Known.addAction (models.foldl Known.addModel known))).Trace w es₃ o₃)
      (ho : o.IsValue → o₃.IsValue) :
      InOrder coding agentId g additions known (es₁ ++ (es₂ ++ es₃)) o.IsValue := by
    have h₃' := saveSchedules_does h₃
    rw [hmodels] at h₃'
    exact inOrder_of_stages (List.append_assoc ..).symm (saveModels_does h₁)
      ((saveActions_does h₂).imp fun _ hs => hs.mono hmodel id)
      (h₃'.imp fun _ hs => hs.mono hmodel haction id) (fun _ => End.isValue_value models)
      (fun _ => End.isValue_value r) ho
  rcases trace_bind_through h'' with ⟨schedules, es₃, es₄, h₃, h₄, rfl⟩ | ⟨o₃, h₃, -, hno⟩
  · obtain ⟨rfl, -⟩ := trace_pure.mp h₄
    rw [List.append_nil]
    exact hlast h₃ fun _ => End.isValue_value schedules
  · exact hlast h₃ fun ho => absurd ho hno

section Calls

def lead : Model := { name := "Lead" }

def deal : Model := { name := "Deal" }

def callStep : Step := { name := "ask", config := .reasoning "Ask how they are." none }

def callAction : Action where
  name := "call"
  title := "Call"
  targetModel := "Lead"
  steps := [callStep]

def callTurn : ScheduleStep := { modelName := "Lead", actionName := "call" }

def callSchedule : Schedule := { name := "weekly", mode := .recurring, steps := [callTurn] }

def callGraph : Graph where
  models := [lead, deal]
  actions := [callAction]
  schedules := [callSchedule]

/-- The models are asked for at once and answered in the other order. -/
def modelEvents : List Event :=
  [.called (.createModel "agent-01" lead), .called (.createModel "agent-01" deal),
    .replied (.createModel "agent-01" deal) (.ok "model-02"),
    .replied (.createModel "agent-01" lead) (.ok "model-01")]

def actionEvents : List Event :=
  [.called (.createAction "agent-01" "model-01" callAction),
    .replied (.createAction "agent-01" "model-01" callAction) (.ok "action-01"),
    .called (.createStep "action-01" 0 callStep true),
    .replied (.createStep "action-01" 0 callStep true) (.ok "step-01")]

/-- A schedule of one turn, the call. -/
def callsBy (c : Schedule) : List Event :=
  [.called (.createSchedule "agent-01" c),
    .replied (.createSchedule "agent-01" c) (.ok "schedule-01"),
    .called (.createTurn "schedule-01" "model-01" "action-01" callTurn),
    .replied (.createTurn "schedule-01" "model-01" "action-01" callTurn) (.ok "turn-01")]

def scheduleEvents : List Event := callsBy callSchedule

def callEvents : List Event :=
  modelEvents ++ .told (.models 2) :: (actionEvents ++ .told (.actions 1 1) ::
    (scheduleEvents ++ [.told (.schedules 1)]))

def savedAction : StoredAction :=
  .ofAction "action-01" "model-01" callAction [⟨"step-01", 0, true, callStep⟩]

def savedSchedule : StoredSchedule :=
  .ofSchedule "schedule-01" callSchedule [⟨"turn-01", "model-01", "action-01", callTurn⟩]

def savedCalls : Saved where
  models := [⟨"model-01", lead⟩, ⟨"model-02", deal⟩]
  actions := [savedAction]
  schedules := [savedSchedule]
  known := ⟨[("Deal", "model-02"), ("Lead", "model-01")], [("call", "action-01")]⟩
  warnings := []

theorem together_alone {s : Strand β} {b : β} (h : s.Trace es (.value b)) :
    Together .any [s] es (.value [b]) :=
  ⟨[(es, .value b)], .cons h .nil, .single es, .values [b]⟩

theorem together_none {β : Type} : Together .any ([] : List (Strand β)) [] (.value []) :=
  ⟨[], .nil, Interleaved.nil (List.forall_mem_nil _), .values []⟩

theorem modelEvents_together : Together .any (modelStrands "agent-01" [lead, deal] []) modelEvents
    (.value [some ⟨"model-01", lead⟩, some ⟨"model-02", deal⟩]) := by
  let leadEvents : List Event := [.called (.createModel "agent-01" lead),
    .replied (.createModel "agent-01" lead) (.ok "model-01")]
  let dealEvents : List Event := [.called (.createModel "agent-01" deal),
    .replied (.createModel "agent-01" deal) (.ok "model-02")]
  let saved : List (Option StoredModel) := [some ⟨"model-01", lead⟩, some ⟨"model-02", deal⟩]
  refine ⟨[(leadEvents, .value (some ⟨"model-01", lead⟩)),
    (dealEvents, .value (some ⟨"model-02", deal⟩))], ?_, ?_, .values saved⟩
  · exact .cons (.store _ (.done _)) (.cons (.store _ (.done _)) .nil)
  · have hnil : Interleaved ([] ++ [] :: [[]]) ([] : List Event) := .nil (by simp)
    have hlead := hnil.prepend [] [.replied (.createModel "agent-01" lead) (.ok "model-01")]
    have hdeal := Interleaved.prepend [leadEvents.tail] hlead dealEvents
    exact Interleaved.prepend [] hdeal [.called (.createModel "agent-01" lead)]

theorem actionEvents_trace : (Strand.saveAction false "agent-01" callAction "model-01").Trace
    actionEvents (.value (savedAction, [])) := by
  refine .store _ ?_
  exact .store _ (.done _)

def savedBy (c : Schedule) : Saved :=
  { savedCalls with
    schedules := [.ofSchedule "schedule-01" c [⟨"turn-01", "model-01", "action-01", callTurn⟩]] }

/-- The graph is saved with any schedule that only calls. -/
theorem callGraph_trace_by {c : Schedule} (hc : c.turns = [(callTurn, 0)]) :
    (save false "agent-01" { callGraph with schedules := [c] } [] {}).Trace .any
      (modelEvents ++ .told (.models 2) :: (actionEvents ++ .told (.actions 1 1) ::
        (callsBy c ++ [.told (.schedules 1)]))) (.value (savedBy c)) := by
  have hschedule : (Strand.saveSchedule "agent-01" c [(callTurn, "model-01", "action-01")]).Trace
      (callsBy c) (.value
        (.ofSchedule "schedule-01" c [⟨"turn-01", "model-01", "action-01", callTurn⟩])) := by
    refine .store _ ?_
    exact .store _ (.done _)
  have hplan : savedCalls.known.resolveSchedules [c] =
      .ok [(c, [(callTurn, "model-01", "action-01")])] := by
    refine Known.resolveSchedules_eq_ok.mpr (.cons ⟨rfl, ?_⟩ .nil)
    rw [hc]
    exact .cons ⟨rfl, rfl, rfl⟩ .nil
  refine .together modelEvents_together (.announce ?_)
  refine .together (together_alone actionEvents_trace) (.announce ?_)
  change (saveSchedules "agent-01" [c] savedCalls.known >>= _).Trace _ _ _
  rw [saveSchedules, hplan]
  refine .together (together_alone hschedule) ?_
  exact .announce (.done _)

theorem callGraph_trace :
    (save false "agent-01" callGraph [] {}).Trace .any callEvents (.value savedCalls) :=
  callGraph_trace_by (c := callSchedule) (List.mergeSort_singleton _)

/-- The step of the action is asked for when the action has its identifier, and the action when all
models have theirs. -/
theorem save_inOrder_callGraph :
    (save false "agent-01" callGraph [] {}).Trace .any callEvents (.value savedCalls) ∧
    InOrder false "agent-01" callGraph [] {} callEvents (End.value savedCalls).IsValue :=
  ⟨callGraph_trace, save_inOrder callGraph_trace⟩

end Calls

end Program
end AgentSpec
