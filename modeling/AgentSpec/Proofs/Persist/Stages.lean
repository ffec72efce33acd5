import AgentSpec.Proofs.Persist.Known
import AgentSpec.Proofs.Persist.Strands

/-!
The stages of a run.

A stage makes a plan or fails with issues, runs the strands of the plan together and tells what it
stored.  All three stages have this form.  Main statements: a stage that has a plan fails only in
the store (`save_error`), and what is stored carries the entities of the graph (`saveModels_value` and
its likes).
-/
namespace AgentSpec.Program

variable {w : Weave} {es : List Event}

theorem trace_resolved {r : Except (List Issue) α} {o : End α} (h : (resolved r).Trace w es o) :
    es = [] ∧ ((∃ a, r = .ok a ∧ o = .value a) ∨
      (∃ issues, r = .error issues ∧ o = .error (.references issues)) ∨ o = .cut) := by
  obtain ⟨rfl, ho⟩ := trace_ofExcept h
  refine ⟨rfl, ?_⟩
  rcases ho with ⟨a, ha, ho⟩ | ⟨e, he, ho⟩ | ho
  · cases r with
    | ok b =>
      cases ha
      exact Or.inl ⟨a, rfl, ho⟩
    | error issues => cases ha
  · cases r with
    | ok b => cases he
    | error issues =>
      cases he
      exact Or.inr (Or.inl ⟨issues, rfl, ho⟩)
  · exact Or.inr (Or.inr ho)

/-- A stage: a plan, its strands, what is told of their results and what is made of them. -/
def stage (plan : Except (List Issue) γ) (strands : γ → List (Strand β))
    (milestone : List β → Milestone) (result : List β → δ) : Program δ := do
  let p ← resolved plan
  let bs ← all (strands p)
  tell (milestone bs)
  return result bs

section Stage

variable {plan : Except (List Issue) γ} {strands : γ → List (Strand β)}
  {milestone : List β → Milestone} {result : List β → δ}

theorem stage_value {d : δ} (h : (stage plan strands milestone result).Trace w es (.value d)) :
    ∃ p bs es', plan = .ok p ∧ Together w (strands p) es' (.value bs) ∧
      es = es' ++ [.told (milestone bs)] ∧ d = result bs := by
  obtain ⟨p, es₁, es₂, h₁, h₂, rfl⟩ := trace_bind_value h
  obtain ⟨rfl, ⟨p', hp, ho⟩ | ⟨issues, -, ho⟩ | ho⟩ := trace_resolved h₁ <;> cases ho
  obtain ⟨bs, es₃, es₄, h₃, h₄, rfl⟩ := trace_bind_value h₂
  obtain ⟨u, es₅, es₆, h₅, h₆, rfl⟩ := trace_bind_value h₄
  obtain ⟨rfl, ho | ho⟩ := trace_pure.mp h₆ <;> cases ho
  rcases trace_tell h₅ with ⟨-, ho⟩ | ⟨rfl, -⟩
  · cases ho
  · exact ⟨p, bs, es₃, hp, trace_all h₃, by simp, rfl⟩

/-- A stage fails with the issues of its plan and leaves no events, or with the error of one of its
strands. -/
theorem stage_error {e : CompileError}
    (h : (stage plan strands milestone result).Trace w es (.error e)) :
    (∃ issues, plan = .error issues ∧ e = .references issues ∧ es = []) ∨
      ∃ p, plan = .ok p ∧ ∃ s ∈ strands p, ∃ l, s.Trace l (.error e) ∧ ∀ x ∈ l, x ∈ es := by
  rcases trace_bind_error h with ⟨p, es₁, es₂, h₁, h₂, rfl⟩ | h₁
  case inr =>
    obtain ⟨rfl, ⟨p', -, ho⟩ | ⟨issues, hi, ho⟩ | ho⟩ := trace_resolved h₁ <;> cases ho
    exact Or.inl ⟨issues, hi, rfl, rfl⟩
  obtain ⟨rfl, ⟨p', hp, ho⟩ | ⟨issues, -, ho⟩ | ho⟩ := trace_resolved h₁ <;> cases ho
  refine Or.inr ⟨p, hp, ?_⟩
  rw [List.nil_append]
  rcases trace_bind_error h₂ with ⟨bs, es₃, es₄, -, h₄, -⟩ | h₃
  case inr => exact (trace_all h₃).error_part
  rcases trace_bind_error h₄ with ⟨u, es₅, es₆, -, h₆, -⟩ | h₅
  · obtain ⟨-, ho | ho⟩ := trace_pure.mp h₆ <;> cases ho
  · rcases trace_tell h₅ with ⟨-, ho⟩ | ⟨-, ho | ho⟩ <;> cases ho

/-- Whatever the end, the writes of a stage are those of its strands. -/
theorem stage_writes {o : End δ} (h : (stage plan strands milestone result).Trace w es o) :
    writes es = [] ∨ ∃ p es' o', plan = .ok p ∧ Together w (strands p) es' o' ∧
      writes es = writes es' := by
  rcases trace_bind h with ⟨p, es₁, es₂, h₁, h₂, rfl⟩ | ⟨e', h₁, -⟩ | ⟨h₁, -⟩
  · obtain ⟨rfl, ⟨p', hp, ho⟩ | ⟨issues, -, ho⟩ | ho⟩ := trace_resolved h₁ <;> cases ho
    rw [List.nil_append]
    rcases trace_bind h₂ with ⟨bs, es₃, es₄, h₃, h₄, rfl⟩ | ⟨e', h₃, -⟩ | ⟨h₃, -⟩
    · have hw : writes es₄ = [] := by
        rcases trace_bind h₄ with ⟨u, es₅, es₆, h₅, h₆, rfl⟩ | ⟨e', h₅, -⟩ | ⟨h₅, -⟩
        · obtain ⟨rfl, -⟩ := trace_pure.mp h₆
          rcases trace_tell h₅ with ⟨rfl, -⟩ | ⟨rfl, -⟩ <;> rfl
        · rcases trace_tell h₅ with ⟨rfl, -⟩ | ⟨rfl, -⟩ <;> rfl
        · rcases trace_tell h₅ with ⟨rfl, -⟩ | ⟨rfl, -⟩ <;> rfl
      exact Or.inr ⟨p, es₃, _, hp, trace_all h₃, by rw [writes_append, hw, List.append_nil]⟩
    · exact Or.inr ⟨p, es₂, _, hp, trace_all h₃, rfl⟩
    · exact Or.inr ⟨p, es₂, _, hp, trace_all h₃, rfl⟩
  · obtain ⟨rfl, -⟩ := trace_resolved h₁
    exact Or.inl rfl
  · obtain ⟨rfl, -⟩ := trace_resolved h₁
    exact Or.inl rfl

end Stage

variable {agentId : String} {models : List Model} {additions : Additions} {actions : List Action}
  {schedules : List Schedule} {known : Known} {coding : Bool}

/-! ## The three stages -/

/-- The strands of the first stage. -/
def modelStrands (agentId : String) (models : List Model) (appends : List (String × List Field)) :
    List (Strand (Option StoredModel)) :=
  models.map (Strand.saveModel agentId) ++
    appends.map fun p => Strand.appendFields p.1 p.2

theorem saveModels_eq : saveModels agentId models additions known =
    stage (known.resolveAdditions additions) (modelStrands agentId models)
      (fun saved => .models (saved.filterMap id).length) (·.filterMap id) := rfl

theorem saveActions_eq : saveActions coding agentId actions known =
    stage (known.resolveActions actions)
      (fun targets => targets.map fun t => Strand.saveAction coding agentId t.1 t.2)
      (fun saved => .actions (saved.map (·.1)).length
        ((saved.map (·.1)).flatMap (·.steps)).length)
      (fun saved => (saved.map (·.1), saved.flatMap (·.2))) := rfl

theorem saveSchedules_eq : saveSchedules agentId schedules known =
    stage (known.resolveSchedules schedules)
      (fun plans => plans.map fun p => Strand.saveSchedule agentId p.1 p.2)
      (fun saved => .schedules saved.length) id := rfl

theorem modelStrands_value {appends : List (String × List Field)}
    {ps : List (List Event × Option StoredModel)}
    (h : List.Forall₂ (fun s p => s.Trace p.1 (.value p.2))
      (modelStrands agentId models appends) ps) :
    ((ps.map (·.2)).filterMap id).map (·.model) = models ∧
      List.Forall₂ (fun first l => Opens l first [])
        (((ps.map (·.2)).filterMap id).map (.model agentId) ++
          appends.map fun p => .fields p.1 p.2) (ps.map (·.1)) := by
  induction models generalizing ps with
  | nil =>
    rw [modelStrands, List.map_nil, List.nil_append, List.forall₂_map_left_iff] at h
    have hnone : (ps.map (·.2)).filterMap id = [] := by
      rw [List.filterMap_eq_nil_iff]
      intro r hr
      obtain ⟨p, hp, rfl⟩ := List.mem_map.mp hr
      obtain ⟨a, -, ha⟩ := forall₂_mem_right h hp
      exact (Strand.appendFields_value ha).1
    rw [hnone, List.map_nil, List.map_nil, List.nil_append, List.forall₂_map_left_iff,
      List.forall₂_map_right_iff]
    exact ⟨rfl, h.imp fun _ _ ht => (Strand.appendFields_value ht).2⟩
  | cons m rest ih =>
    cases h with
    | @cons _ p _ ps ht hrest =>
      obtain ⟨id, hp, hopens⟩ := Strand.saveModel_value ht
      obtain ⟨hmodels, hparts⟩ := ih hrest
      rw [List.map_cons, List.map_cons, hp]
      exact ⟨congrArg (m :: ·) hmodels, .cons hopens hparts⟩

/-- All models are stored and all fields appended, in some order. -/
theorem saveModels_value {saved : List StoredModel}
    (h : (saveModels agentId models additions known).Trace w es (.value saved)) :
    ∃ appends parts es', known.resolveAdditions additions = .ok appends ∧
      saved.map (·.model) = models ∧
      List.Forall₂ (fun first l => Opens l first [])
        (saved.map (.model agentId) ++ appends.map fun p => .fields p.1 p.2) parts ∧
      w.Allows parts es' ∧ writes es = writes es' := by
  rw [saveModels_eq] at h
  obtain ⟨appends, bs, es', hplan, ht, rfl, rfl⟩ := stage_value h
  obtain ⟨ps, hps, hallows, rfl⟩ := ht.value_parts
  obtain ⟨hmodels, hparts⟩ := modelStrands_value hps
  exact ⟨appends, _, es', hplan, hmodels, hparts, hallows, by rw [writes_append]; simp [writes_told]⟩

/-- An action with the identifiers that it is stored under, and its stored steps. -/
abbrev ActionEntry := (String × String × Action) × List StoredStep

/-- A schedule with its identifier, and its stored turns. -/
abbrev ScheduleEntry := (String × Schedule) × List StoredTurn

/-- All actions are stored with their steps, the steps of one action in order. -/
theorem saveActions_value {saved : List StoredAction × List Warning}
    (h : (saveActions coding agentId actions known).Trace w es (.value saved)) :
    ∃ (entries : List ActionEntry) (parts : List (List Event)) (es' : List Event),
      saved.1 = entries.map (fun x => .ofAction x.1.1 x.1.2.1 x.1.2.2 x.2) ∧
      List.Forall₂ (fun a x => x.1.2.2 = a ∧ known.models.lookup a.targetModel = some x.1.2.1)
        actions entries ∧
      (∀ x ∈ entries, StepsStored coding x.1.2.2 es 0 x.1.2.2.steps x.2) ∧
      List.Forall₂ (fun x l => Opens l (.action agentId x.1.1 x.1.2.1 x.1.2.2)
        (x.2.map (.step x.1.1))) entries parts ∧
      w.Allows parts es' ∧ writes es = writes es' := by
  rw [saveActions_eq] at h
  obtain ⟨targets, bs, es', hplan, ht, rfl, rfl⟩ := stage_value h
  obtain ⟨ps, hps, hallows, rfl⟩ := ht.value_parts
  rw [List.forall₂_map_left_iff] at hps
  have hentries : List.Forall₂ (fun a p => ∃ x : ActionEntry,
      (x.1.2.2 = a ∧ known.models.lookup a.targetModel = some x.1.2.1) ∧
      p.2.1 = StoredAction.ofAction x.1.1 x.1.2.1 x.1.2.2 x.2 ∧
      StepsStored coding x.1.2.2 p.1 0 x.1.2.2.steps x.2 ∧
      Opens p.1 (.action agentId x.1.1 x.1.2.1 x.1.2.2) (x.2.map (.step x.1.1))) actions ps := by
    refine forall₂_trans (Known.resolveActions_eq_ok.mp hplan) hps fun a t p hat htr => ?_
    obtain ⟨rfl, hid⟩ := hat
    obtain ⟨id, steps, hr, hst, hopens⟩ := Strand.saveAction_value htr
    exact ⟨((id, t.2, t.1), steps), ⟨rfl, hid⟩, hr, hst, hopens⟩
  obtain ⟨entries, hactions, hparts⟩ := forall₂_split hentries
  refine ⟨entries, ps.map (·.1), es', ?_, hactions, fun x hx => ?_, ?_, hallows, ?_⟩
  · rw [List.map_map]
    exact forall₂_map_eq (hparts.imp fun p x hp => hp.1)
  · obtain ⟨p, hp, -, hst, -⟩ := forall₂_mem_right hparts hx
    refine hst.mono fun y hy => List.mem_append_left _ ?_
    exact (w.interleaved hallows).mem_iff.mpr ⟨p.1, List.mem_map_of_mem hp, hy⟩
  · rw [List.forall₂_map_right_iff]
    exact (hparts.imp fun p x hp => hp.2.2).flip
  · rw [writes_append]
    simp [writes_told]

/-- All schedules are stored with their turns, the turns of one schedule in order. -/
theorem saveSchedules_value {saved : List StoredSchedule}
    (h : (saveSchedules agentId schedules known).Trace w es (.value saved)) :
    ∃ (entries : List ScheduleEntry) (parts : List (List Event)) (es' : List Event),
      saved = entries.map (fun x => .ofSchedule x.1.1 x.1.2 x.2) ∧
      List.Forall₂ (fun c x => x.1.2 = c ∧ List.Forall₂ (fun t u => u.step = t.1 ∧
        known.models.lookup t.1.modelName = some u.modelId ∧
        known.actions.lookup t.1.actionName = some u.actionId) c.turns x.2) schedules entries ∧
      List.Forall₂ (fun x l => Opens l (.schedule agentId x.1.1 x.1.2) (x.2.map (.turn x.1.1)))
        entries parts ∧
      w.Allows parts es' ∧ writes es = writes es' := by
  rw [saveSchedules_eq] at h
  obtain ⟨plans, bs, es', hplan, ht, rfl, rfl⟩ := stage_value h
  obtain ⟨ps, hps, hallows, rfl⟩ := ht.value_parts
  rw [List.forall₂_map_left_iff] at hps
  have hentries : List.Forall₂ (fun c p => ∃ x : ScheduleEntry,
      (x.1.2 = c ∧ List.Forall₂ (fun t u => u.step = t.1 ∧
        known.models.lookup t.1.modelName = some u.modelId ∧
        known.actions.lookup t.1.actionName = some u.actionId) c.turns x.2) ∧
      p.2 = StoredSchedule.ofSchedule x.1.1 x.1.2 x.2 ∧
      Opens p.1 (.schedule agentId x.1.1 x.1.2) (x.2.map (.turn x.1.1))) schedules ps := by
    refine forall₂_trans (Known.resolveSchedules_eq_ok.mp hplan) hps fun c q p hcq htr => ?_
    obtain ⟨rfl, hturns⟩ := hcq
    obtain ⟨id, turns, hr, hq, hopens⟩ := Strand.saveSchedule_value htr
    rw [← hq, List.forall₂_map_right_iff] at hturns
    exact ⟨((id, q.1), turns), ⟨rfl, hturns⟩, hr, hopens⟩
  obtain ⟨entries, hschedules, hparts⟩ := forall₂_split hentries
  refine ⟨entries, ps.map (·.1), es', ?_, hschedules, ?_, hallows, ?_⟩
  · exact forall₂_map_eq (hparts.imp fun p x hp => hp.1)
  · rw [List.forall₂_map_right_iff]
    exact (hparts.imp fun p x hp => hp.2).flip
  · rw [writes_append]
    simp [writes_told]

/-- The three stages of a run that stores all. -/
theorem save_value {g : Graph} {saved : Saved}
    (h : (save coding agentId g additions known).Trace w es (.value saved)) :
    ∃ es₁ es₂ es₃, es = es₁ ++ (es₂ ++ es₃) ∧
      (saveModels agentId g.models additions known).Trace w es₁ (.value saved.models) ∧
      (saveActions coding agentId g.actions (saved.models.foldl Known.addModel known)).Trace w es₂
        (.value (saved.actions, saved.warnings)) ∧
      (saveSchedules agentId g.schedules (saved.actions.foldl Known.addAction
        (saved.models.foldl Known.addModel known))).Trace w es₃ (.value saved.schedules) := by
  obtain ⟨models, es₁, es', h₁, h', rfl⟩ := trace_bind_value h
  obtain ⟨actions, es₂, es'', h₂, h'', rfl⟩ := trace_bind_value h'
  obtain ⟨schedules, es₃, es₄, h₃, h₄, rfl⟩ := trace_bind_value h''
  obtain ⟨rfl, ho | ho⟩ := trace_pure.mp h₄ <;> cases ho
  exact ⟨es₁, es₂, es₃, by rw [List.append_nil], h₁, h₂, h₃⟩

/-! ## Errors -/

theorem saveModels_error {e : CompileError}
    (h : (saveModels agentId models additions known).Trace w es (.error e))
    (hadds : ∀ add ∈ additions, ∃ id, known.models.lookup add.1 = some id) :
    ∃ phase source, e = .persistence phase source := by
  rw [saveModels_eq] at h
  rcases stage_error h with ⟨issues, hplan, -⟩ | ⟨appends, -, s, hs, l, hl, -⟩
  · obtain ⟨appends, hok⟩ := Known.exists_resolveAdditions hadds
    rw [hok] at hplan
    cases hplan
  · rcases List.mem_append.mp hs with hs | hs
    · obtain ⟨m, -, rfl⟩ := List.mem_map.mp hs
      exact ⟨_, Strand.saveModel_failsIn.persistence hl⟩
    · obtain ⟨p, -, rfl⟩ := List.mem_map.mp hs
      exact ⟨_, Strand.appendFields_failsIn.persistence hl⟩

theorem saveActions_error {e : CompileError}
    (h : (saveActions coding agentId actions known).Trace w es (.error e))
    (htargets : ∀ a ∈ actions, ∃ id, known.models.lookup a.targetModel = some id) :
    ∃ phase source, e = .persistence phase source := by
  rw [saveActions_eq] at h
  rcases stage_error h with ⟨issues, hplan, -⟩ | ⟨targets, -, s, hs, l, hl, -⟩
  · obtain ⟨targets, hok⟩ := Known.exists_resolveActions htargets
    rw [hok] at hplan
    cases hplan
  · obtain ⟨t, -, rfl⟩ := List.mem_map.mp hs
    exact ⟨_, Strand.saveAction_failsIn.persistence hl⟩

theorem saveSchedules_error {e : CompileError}
    (h : (saveSchedules agentId schedules known).Trace w es (.error e))
    (hturns : ∀ c ∈ schedules, ∀ t ∈ c.steps,
      (∃ id, known.models.lookup t.modelName = some id) ∧
      ∃ id, known.actions.lookup t.actionName = some id) :
    ∃ phase source, e = .persistence phase source := by
  rw [saveSchedules_eq] at h
  rcases stage_error h with ⟨issues, hplan, -⟩ | ⟨plans, -, s, hs, l, hl, -⟩
  · obtain ⟨plans, hok⟩ := Known.exists_resolveSchedules hturns
    rw [hok] at hplan
    cases hplan
  · obtain ⟨q, -, rfl⟩ := List.mem_map.mp hs
    exact ⟨_, Strand.saveSchedule_failsIn.persistence hl⟩

/-- The stored models carry the names of the models. -/
theorem saveModels_names {saved : List StoredModel}
    (h : (saveModels agentId models additions known).Trace w es (.value saved)) :
    saved.map (·.model.name) = models.map (·.name) := by
  obtain ⟨appends, parts, es', -, hmodels, -⟩ := saveModels_value h
  rw [← hmodels, List.map_map]
  rfl

/-- The stored actions carry the names of the actions. -/
theorem saveActions_names {saved : List StoredAction × List Warning}
    (h : (saveActions coding agentId actions known).Trace w es (.value saved)) :
    saved.1.map (·.name) = actions.map (·.name) := by
  obtain ⟨entries, parts, es', hsaved, hactions, -⟩ := saveActions_value h
  rw [hsaved, List.map_map]
  exact (forall₂_map_eq (hactions.imp fun a x hx => by rw [← hx.1]; rfl)).symm

/-- A run that fails does so in one of its stages, behind those that have a result. -/
theorem save_failed {g : Graph} {e : CompileError}
    (h : (save coding agentId g additions known).Trace w es (.error e)) :
    (saveModels agentId g.models additions known).Trace w es (.error e) ∨
      ∃ models es₁ es', es = es₁ ++ es' ∧
        (saveModels agentId g.models additions known).Trace w es₁ (.value models) ∧
        ((saveActions coding agentId g.actions (models.foldl Known.addModel known)).Trace w es'
            (.error e) ∨
          ∃ actions es₂ es₃, es' = es₂ ++ es₃ ∧
            (saveActions coding agentId g.actions (models.foldl Known.addModel known)).Trace w es₂
              (.value actions) ∧
            (saveSchedules agentId g.schedules (actions.1.foldl Known.addAction
              (models.foldl Known.addModel known))).Trace w es₃ (.error e)) := by
  rcases trace_bind_error h with ⟨models, es₁, es', h₁, h', rfl⟩ | h₁
  case inr => exact Or.inl h₁
  refine Or.inr ⟨models, es₁, es', rfl, h₁, ?_⟩
  rcases trace_bind_error h' with ⟨actions, es₂, es'', h₂, h'', rfl⟩ | h₂
  case inr => exact Or.inl h₂
  refine Or.inr ⟨actions, es₂, es'', rfl, h₂, ?_⟩
  rcases trace_bind_error h'' with ⟨schedules, es₃, es₄, -, h₄, -⟩ | h₃
  · obtain ⟨-, ho | ho⟩ := trace_pure.mp h₄ <;> cases ho
  · exact h₃

/-- A run whose stages all have plans fails, if at all, in the store. -/
theorem save_error {g : Graph} {e : CompileError}
    (h : (save coding agentId g additions known).Trace w es (.error e))
    (hadds : ∀ add ∈ additions, ∃ id, known.models.lookup add.1 = some id)
    (htargets : ∀ a ∈ g.actions, a.targetModel ∈ g.models.map (·.name) ∨
      ∃ id, known.models.lookup a.targetModel = some id)
    (hturns : ∀ c ∈ g.schedules, ∀ t ∈ c.steps,
      (t.modelName ∈ g.models.map (·.name) ∨ ∃ id, known.models.lookup t.modelName = some id) ∧
      (t.actionName ∈ g.actions.map (·.name) ∨
        ∃ id, known.actions.lookup t.actionName = some id)) :
    ∃ phase source, e = .persistence phase source := by
  rcases save_failed h with h₁ | ⟨models, es₁, es', rfl, h₁, h'⟩
  · exact saveModels_error h₁ hadds
  have hnames : models.map (·.model.name) = g.models.map (·.name) := saveModels_names h₁
  rcases h' with h₂ | ⟨actions, es₂, es₃, rfl, h₂, h₃⟩
  · refine saveActions_error h₂ fun a ha => Known.exists_addModels_models ?_
    rw [hnames]
    exact htargets a ha
  have hactions : actions.1.map (·.name) = g.actions.map (·.name) := saveActions_names h₂
  refine saveSchedules_error h₃ fun c hc t ht => ⟨?_, Known.exists_addActions_actions ?_⟩
  · rw [Known.addActions_models]
    refine Known.exists_addModels_models ?_
    rw [hnames]
    exact (hturns c hc t ht).1
  · rw [hactions, Known.addModels_actions]
    exact (hturns c hc t ht).2

end AgentSpec.Program
