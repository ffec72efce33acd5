import AgentSpec.Proofs.Persist.Order

/-!
Where a run that fails has stopped.

A stage looks up every name that its entities use before it stores any of them.  So a run that fails
is through with some stages, and its error names the next one: either that stage has stored nothing,
and there is one issue for each use of a name that stands for nothing, or all names stand for
something, and the store has refused a call of the stage.  Nothing is undone, and the error is how
those who called learn what was stored.  Main statement: `Program.save_stopped`.
-/
namespace AgentSpec

/-! ## Uses of names -/

/-- The use of a name, and the names that would do there. -/
structure Mention where
  path : String
  what : String
  name : String
  candidates : List String
deriving DecidableEq, Repr

namespace Mention

/-- The name stands for nothing. -/
def Dangles (r : Mention) : Prop := r.name ∉ r.candidates

instance (r : Mention) : Decidable r.Dangles := inferInstanceAs (Decidable (¬_))

def issue (r : Mention) : Issue := ⟨r.path, .unresolved r.what r.name r.candidates⟩

end Mention

/-- One issue for each use of a name that stands for nothing. -/
def danglingIssues (rs : List Mention) : List Issue := (rs.filter (·.Dangles)).map Mention.issue

theorem danglingIssues_append (rs rs' : List Mention) :
    danglingIssues (rs ++ rs') = danglingIssues rs ++ danglingIssues rs' := by
  rw [danglingIssues, List.filter_append, List.map_append]
  rfl

theorem danglingIssues_cons (r : Mention) (rs : List Mention) :
    danglingIssues (r :: rs) = (if r.Dangles then [r.issue] else []) ++ danglingIssues rs := by
  rw [danglingIssues, List.filter_cons]
  by_cases hr : r.Dangles
  · simp [hr, danglingIssues]
  · simp [hr, danglingIssues]

namespace Known

def mentionModel (known : Known) (path name : String) : Mention :=
  ⟨path, "model", name, Dictionary.names known.models⟩

def mentionAction (known : Known) (path name : String) : Mention :=
  ⟨path, "action", name, Dictionary.names known.actions⟩

def mentionTurn (known : Known) (path : String) (t : ScheduleStep) : List Mention :=
  [known.mentionModel path t.modelName, known.mentionAction path t.actionName]

/-- The names that a stage looks up before it stores anything: the models that get fields, the
models that actions work on, and the models and actions of schedules. -/
def mentions (known : Known) (g : Graph) (additions : Additions) : Phase → List Mention
  | .agent | .load => []
  | .models => additions.flatMap fun add => [known.mentionModel "field additions" add.1]
  | .actions => g.actions.flatMap fun a => [known.mentionModel s!"action '{a.name}'" a.targetModel]
  | .schedules => g.schedules.flatMap fun c => c.turns.flatMap fun t =>
    known.mentionTurn s!"schedule '{c.name}'.steps[{t.2}]" t.1

end Known

/-! ## Plans that fail -/

/-- There is a plan if no name dangles, and else there are the issues. -/
def Accounts (plan : Except (List Issue) γ) (rs : List Mention) : Prop :=
  (danglingIssues rs = [] ∧ ∃ p, plan = .ok p) ∨
    (danglingIssues rs ≠ [] ∧ plan = .error (danglingIssues rs))

namespace Accounts

theorem map {plan : Except (List Issue) γ} {rs : List Mention} (h : Accounts plan rs)
    (f : γ → δ) : Accounts (plan.map f) rs := by
  rcases h with ⟨hnone, p, hp⟩ | ⟨hsome, hp⟩
  · exact Or.inl ⟨hnone, f p, by rw [hp]; rfl⟩
  · exact Or.inr ⟨hsome, by rw [hp]; rfl⟩

/-- What is gathered from parts accounts for the mentions of all of them. -/
theorem gather {f : α → Except (List Issue) β} {m : α → List Mention} {as : List α}
    (h : ∀ a ∈ as, Accounts (f a) (m a)) : Accounts (gather (as.map f)) (as.flatMap m) := by
  induction as with
  | nil => exact Or.inl ⟨rfl, [], rfl⟩
  | cons a as ih =>
    have hfirst : Accounts (f a) (m a) := h a List.mem_cons_self
    have hrest := ih fun b hb => h b (List.mem_cons_of_mem _ hb)
    unfold Accounts
    rw [List.map_cons, List.flatMap_cons, danglingIssues_append]
    rcases hfirst with ⟨hnone, b, hb⟩ | ⟨hsome, hb⟩
    · rw [hb, hnone, List.nil_append]
      exact hrest.map (b :: ·)
    · refine Or.inr ⟨List.append_ne_nil_of_left_ne_nil hsome _, ?_⟩
      rw [hb, AgentSpec.gather]
      -- the rest is looked at even so, and its issues come behind
      rcases hrest with ⟨hnone, bs, hbs⟩ | ⟨-, hbs⟩
      · rw [hbs, hnone, List.append_nil]
      · rw [hbs]

end Accounts

namespace Known

variable {known : Known}

theorem model_of_found {path name : String} (h : ¬(known.mentionModel path name).Dangles) :
    ∃ id, known.model path name = .ok id := by
  have hmem : name ∈ Dictionary.names known.models := not_not.mp h
  obtain ⟨id, hid⟩ := Dictionary.mem_names_iff.mp hmem
  exact ⟨id, model_eq_ok.mpr hid⟩

theorem model_of_dangles {path name : String} (h : (known.mentionModel path name).Dangles) :
    known.model path name = .error (known.mentionModel path name).issue := by
  have hnone : known.models.lookup name = none := Dictionary.lookup_eq_none h
  rw [model, hnone]
  rfl

theorem action_of_found {path name : String} (h : ¬(known.mentionAction path name).Dangles) :
    ∃ id, known.action path name = .ok id := by
  have hmem : name ∈ Dictionary.names known.actions := not_not.mp h
  obtain ⟨id, hid⟩ := Dictionary.mem_names_iff.mp hmem
  exact ⟨id, action_eq_ok.mpr hid⟩

theorem action_of_dangles {path name : String} (h : (known.mentionAction path name).Dangles) :
    known.action path name = .error (known.mentionAction path name).issue := by
  have hnone : known.actions.lookup name = none := Dictionary.lookup_eq_none h
  rw [action, hnone]
  rfl

theorem accounts_withModel {path name : String} {f : String → β} :
    Accounts (match known.model path name with
      | .ok id => .ok (f id)
      | .error i => .error [i]) [known.mentionModel path name] := by
  unfold Accounts
  rw [danglingIssues_cons]
  by_cases hname : (known.mentionModel path name).Dangles
  · rw [if_pos hname, model_of_dangles hname]
    exact Or.inr ⟨List.cons_ne_nil _ _, rfl⟩
  · obtain ⟨id, hid⟩ := model_of_found hname
    rw [if_neg hname, hid]
    exact Or.inl ⟨rfl, f id, rfl⟩

theorem accounts_resolveTurn (path : String) (t : ScheduleStep) :
    Accounts (known.resolveTurn path t) (known.mentionTurn path t) := by
  unfold Accounts mentionTurn resolveTurn
  rw [danglingIssues_cons, danglingIssues_cons]
  by_cases hmodel : (known.mentionModel path t.modelName).Dangles
  · rw [if_pos hmodel, model_of_dangles hmodel]
    by_cases haction : (known.mentionAction path t.actionName).Dangles
    · rw [if_pos haction, action_of_dangles haction]
      exact Or.inr ⟨List.cons_ne_nil _ _, rfl⟩
    · obtain ⟨id, hid⟩ := action_of_found haction
      rw [if_neg haction, hid]
      exact Or.inr ⟨List.cons_ne_nil _ _, rfl⟩
  · obtain ⟨modelId, hid⟩ := model_of_found hmodel
    rw [if_neg hmodel, hid]
    by_cases haction : (known.mentionAction path t.actionName).Dangles
    · rw [if_pos haction, action_of_dangles haction]
      exact Or.inr ⟨List.cons_ne_nil _ _, rfl⟩
    · obtain ⟨actionId, hid⟩ := action_of_found haction
      rw [if_neg haction, hid]
      exact Or.inl ⟨rfl, _, rfl⟩

theorem accounts_resolveAdditions (g : Graph) (additions : Additions) :
    Accounts (known.resolveAdditions additions) (known.mentions g additions .models) :=
  .gather fun _ _ => accounts_withModel

theorem accounts_resolveActions (g : Graph) (additions : Additions) :
    Accounts (known.resolveActions g.actions) (known.mentions g additions .actions) :=
  .gather fun _ _ => accounts_withModel

theorem accounts_resolveSchedules (g : Graph) (additions : Additions) :
    Accounts (known.resolveSchedules g.schedules) (known.mentions g additions .schedules) := by
  refine .gather fun c _ => ?_
  refine Accounts.map ?_ (c, ·)
  exact .gather fun t _ => accounts_resolveTurn _ t.1

/-! ## Names that are known behind a stage -/

theorem mem_addModels_names {models : List StoredModel} {name : String} :
    name ∈ Dictionary.names (models.foldl addModel known).models ↔
      name ∈ Dictionary.names known.models ∨ name ∈ models.map (·.model.name) := by
  rw [addModels_models, Dictionary.mem_names_foldl_insert, List.map_map]
  rfl

theorem mem_addActions_names {actions : List StoredAction} {name : String} :
    name ∈ Dictionary.names (actions.foldl addAction known).actions ↔
      name ∈ Dictionary.names known.actions ∨ name ∈ actions.map (·.name) := by
  rw [addActions_actions, Dictionary.mem_names_foldl_insert, List.map_map]
  rfl

end Known

namespace Program

variable {w : Weave} {es es₁ es₂ es₃ : List Event} {phase : Phase} {e : CompileError}
  {agentId : String} {additions : Additions} {known reached : Known} {coding : Bool} {g : Graph}

/-! ## Stages that fail -/

/-- A stage fails with its issues before it does anything, or in a call that the store refuses. -/
def StageStops (phase : Phase) (rs : List Mention) (es : List Event) (e : CompileError) : Prop :=
  (danglingIssues rs ≠ [] ∧ e = .references (danglingIssues rs) ∧ es = []) ∨
    (danglingIssues rs = [] ∧ ∃ source, e = .persistence phase source ∧
      ∃ c : StoreCall, c.phase = phase ∧ .replied c (.error source) ∈ es)

theorem stage_stops {plan : Except (List Issue) γ} {strands : γ → List (Strand β)}
    {milestone : List β → Milestone} {result : List β → δ} {rs : List Mention}
    (h : (stage plan strands milestone result).Trace w es (.error e)) (hplan : Accounts plan rs)
    (hfails : ∀ p, ∀ s ∈ strands p, s.FailsIn phase)
    (hwithin : ∀ p, ∀ s ∈ strands p, s.Within phase) : StageStops phase rs es e := by
  rcases stage_error h with ⟨issues, hissues, he, hes⟩ | ⟨p, hp, s, hs, l, hl, hsub⟩
  · rcases hplan with ⟨-, p, hp⟩ | ⟨hsome, hrs⟩
    · rw [hp] at hissues
      cases hissues
    · rw [hrs] at hissues
      cases hissues
      exact Or.inl ⟨hsome, he, hes⟩
  · rcases hplan with ⟨hnone, -⟩ | ⟨-, hrs⟩
    · obtain ⟨source, he, c, hc⟩ := hfails p s hs l e hl
      have hphase : c.phase = phase := Option.some.inj (hwithin p s hs l _ hl _ hc)
      exact Or.inr ⟨hnone, source, he, c, hphase, hsub _ hc⟩
    · rw [hrs] at hp
      cases hp

theorem saveModels_stops
    (h : (saveModels agentId g.models additions known).Trace w es (.error e)) :
    StageStops .models (known.mentions g additions .models) es e := by
  rw [saveModels_eq] at h
  refine stage_stops h (Known.accounts_resolveAdditions g additions) ?_ ?_
  · intro appends s hs
    rcases List.mem_append.mp hs with hs | hs
    · obtain ⟨m, -, rfl⟩ := List.mem_map.mp hs
      exact Strand.saveModel_failsIn
    · obtain ⟨p, -, rfl⟩ := List.mem_map.mp hs
      exact Strand.appendFields_failsIn
  · exact modelStrands_within

theorem saveActions_stops
    (h : (saveActions coding agentId g.actions known).Trace w es (.error e)) :
    StageStops .actions (known.mentions g additions .actions) es e := by
  rw [saveActions_eq] at h
  refine stage_stops h (Known.accounts_resolveActions g additions) ?_ ?_
  · intro targets s hs
    obtain ⟨t, -, rfl⟩ := List.mem_map.mp hs
    exact Strand.saveAction_failsIn
  · intro targets s hs
    obtain ⟨t, -, rfl⟩ := List.mem_map.mp hs
    exact Strand.saveAction_within

theorem saveSchedules_stops
    (h : (saveSchedules agentId g.schedules known).Trace w es (.error e)) :
    StageStops .schedules (known.mentions g additions .schedules) es e := by
  rw [saveSchedules_eq] at h
  refine stage_stops h (Known.accounts_resolveSchedules g additions) ?_ ?_
  · intro plans s hs
    obtain ⟨p, -, rfl⟩ := List.mem_map.mp hs
    exact Strand.saveSchedule_failsIn
  · intro plans s hs
    obtain ⟨p, -, rfl⟩ := List.mem_map.mp hs
    exact Strand.saveSchedule_within

/-! ## Stages that are behind -/

/-- The run has come to a phase.  Every write of the stages in front of it has been issued and has
succeeded, and to the names that were known those of the entities stored there have been added. -/
structure Reaches (coding : Bool) (agentId : String) (g : Graph) (additions : Additions)
    (known : Known) (es : List Event) (phase : Phase) (reached : Known) : Prop where
  stage : 0 < phase.rank
  models : Phase.models.rank < phase.rank →
    ModelsStored agentId g.models additions known True (during .models es)
  actions : Phase.actions.rank < phase.rank →
    ActionsStored coding agentId (ModelNamed agentId g known es) g.actions True
      (during .actions es)
  modelNames : ∀ name, name ∈ Dictionary.names reached.models ↔
    name ∈ Dictionary.names known.models ∨
      (Phase.models.rank < phase.rank ∧ name ∈ g.models.map (·.name))
  actionNames : ∀ name, name ∈ Dictionary.names reached.actions ↔
    name ∈ Dictionary.names known.actions ∨
      (Phase.actions.rank < phase.rank ∧ name ∈ g.actions.map (·.name))

theorem StageDoes.whole {P : Prop → List Event → Prop} {through : Prop}
    (h : StageDoes phase P es through) (hthrough : through) : P True (during phase es) := by
  rcases h.does with ⟨-, hno⟩ | hdoes
  · exact absurd hthrough hno
  · rwa [eq_true hthrough] at hdoes

theorem reaches_models : Reaches coding agentId g additions known es .models known where
  stage := by decide
  models h := absurd h (by decide)
  actions h := absurd h (by decide)
  modelNames name := by simp [Phase.rank]
  actionNames name := by simp [Phase.rank]

theorem reaches_actions {models : List StoredModel}
    (h₁ : (saveModels agentId g.models additions known).Trace w es₁ (.value models))
    (hphase : InPhase .actions es₂) :
    Reaches coding agentId g additions known (es₁ ++ es₂) .actions
      (models.foldl Known.addModel known) where
  stage := by decide
  models _ := by
    rw [during_append, hphase.during_other (by decide), List.append_nil]
    exact (saveModels_does h₁).whole (End.isValue_value models)
  actions h := absurd h (by decide)
  modelNames name := by
    rw [Known.mem_addModels_names, saveModels_names h₁]
    simp [Phase.rank]
  actionNames name := by
    rw [Known.addModels_actions]
    simp [Phase.rank]

theorem reaches_schedules {models : List StoredModel} {actions : List StoredAction × List Warning}
    (h₁ : (saveModels agentId g.models additions known).Trace w es₁ (.value models))
    (h₂ : (saveActions coding agentId g.actions (models.foldl Known.addModel known)).Trace w es₂
      (.value actions)) (hphase : InPhase .schedules es₃) :
    Reaches coding agentId g additions known (es₁ ++ (es₂ ++ es₃)) .schedules
      (actions.1.foldl Known.addAction (models.foldl Known.addModel known)) where
  stage := by decide
  models _ := by
    rw [during_append, during_append, (saveActions_does h₂).inPhase.during_other (by decide),
      hphase.during_other (by decide), List.append_nil, List.append_nil]
    exact (saveModels_does h₁).whole (End.isValue_value models)
  actions _ := by
    rw [during_append, during_append, (saveModels_does h₁).inPhase.during_other (by decide),
      hphase.during_other (by decide), List.append_nil, List.nil_append]
    refine ActionsStored.mono ((saveActions_does h₂).whole (End.isValue_value actions)) ?_ id
    intro name id hid
    refine (modelNamed_of_lookup h₁ hid).mono ?_
    rw [writes_append]
    exact List.subset_append_left _ _
  modelNames name := by
    rw [Known.addActions_models, Known.mem_addModels_names, saveModels_names h₁]
    simp [Phase.rank]
  actionNames name := by
    rw [Known.mem_addActions_names, saveActions_names h₂, Known.addModels_actions]
    simp [Phase.rank]

/-! ## Runs that fail -/

/-- What an error says of the run that it ends.  Calls count as issued also where no reply came. -/
inductive Stopped (coding : Bool) (agentId : String) (g : Graph) (additions : Additions)
    (known : Known) (es : List Event) : CompileError → Prop
  /-- Names of one stage stand for nothing; all that was issued belongs to stages behind. -/
  | references {phase : Phase} {reached : Known} :
    Reaches coding agentId g additions known es phase reached →
    (∀ c ∈ issued es, 0 < c.phase.rank ∧ c.phase.rank < phase.rank) →
    danglingIssues (reached.mentions g additions phase) ≠ [] →
    Stopped coding agentId g additions known es
      (.references (danglingIssues (reached.mentions g additions phase)))
  /-- The store refused a call of one stage; nothing was issued for those ahead. -/
  | persistence {phase : Phase} {reached : Known} {source : StoreError} {c : StoreCall} :
    Reaches coding agentId g additions known es phase reached →
    (∀ c ∈ issued es, 0 < c.phase.rank ∧ c.phase.rank ≤ phase.rank) →
    danglingIssues (reached.mentions g additions phase) = [] →
    c.phase = phase → .replied c (.error source) ∈ es →
    Stopped coding agentId g additions known es (.persistence phase source)

theorem StageStops.stopped {all before : List Event}
    (h : StageStops phase (reached.mentions g additions phase) es e) (hall : all = before ++ es)
    (hreaches : Reaches coding agentId g additions known all phase reached)
    (hbefore : ∀ c ∈ issued before, 0 < c.phase.rank ∧ c.phase.rank < phase.rank)
    (hphase : InPhase phase es) : Stopped coding agentId g additions known all e := by
  rcases h with ⟨hsome, rfl, rfl⟩ | ⟨hnone, source, rfl, c, hc, hreplied⟩
  · -- the stage has left no events: what was issued was issued before
    rw [List.append_nil] at hall
    rw [← hall] at hbefore
    exact .references hreaches hbefore hsome
  · have hissued : ∀ d ∈ issued all, 0 < d.phase.rank ∧ d.phase.rank ≤ phase.rank := by
      intro d hd
      rw [hall, issued_append] at hd
      rcases List.mem_append.mp hd with hd | hd
      · have hrank := hbefore d hd
        omega
      · have hrank := hphase.rank_of_issued hd
        have hstage := hreaches.stage
        omega
    rw [hall] at hreaches hissued ⊢
    exact .persistence hreaches hissued hnone hc (List.mem_append_right _ hreplied)

/-- A run that fails has stopped at a stage, and its error tells which and why. -/
theorem save_stopped (h : (save coding agentId g additions known).Trace w es (.error e)) :
    Stopped coding agentId g additions known es e := by
  rcases save_failed h with h₁ | ⟨models, es₁, es', rfl, h₁, h'⟩
  · exact (saveModels_stops h₁).stopped (List.nil_append es).symm reaches_models
      (List.forall_mem_nil _) (saveModels_does h₁).inPhase
  have hmodels : ∀ c ∈ issued es₁, c.phase.rank = 1 := fun c hc =>
    (saveModels_does h₁).inPhase.rank_of_issued hc
  rcases h' with h₂ | ⟨actions, es₂, es₃, rfl, h₂, h₃⟩
  · have hphase : InPhase .actions es' := (saveActions_does h₂).inPhase
    refine (saveActions_stops h₂).stopped rfl (reaches_actions h₁ hphase) ?_ hphase
    intro c hc
    rw [hmodels c hc]
    decide
  · have hphase : InPhase .schedules es₃ := (saveSchedules_does h₃).inPhase
    refine (saveSchedules_stops h₃).stopped (List.append_assoc ..).symm
      (reaches_schedules h₁ h₂ hphase) ?_ hphase
    intro c hc
    rw [issued_append] at hc
    rcases List.mem_append.mp hc with hc | hc
    · rw [hmodels c hc]
      decide
    · rw [(saveActions_does h₂).inPhase.rank_of_issued hc]
      decide

section Calls

/-- Nothing is called like this. -/
def strayTurn : ScheduleStep := { modelName := "Lead", actionName := "write" }

def straySchedule : Schedule := { name := "weekly", mode := .recurring, steps := [strayTurn] }

/-- The graph of the calls, but its schedule is for an action that does not exist. -/
def strayGraph : Graph := { callGraph with schedules := [straySchedule] }

def strayIssue : Issue :=
  ⟨"schedule 'weekly'.steps[0]", .unresolved "action" "write" ["call"]⟩

/-- Models and actions are stored, and then the run stops. -/
def strayEvents : List Event :=
  modelEvents ++ .told (.models 2) :: (actionEvents ++ [.told (.actions 1 1)])

theorem strayGraph_trace :
    (save false "agent-01" strayGraph [] {}).Trace .any strayEvents
      (.error (.references [strayIssue])) := by
  have haction : (Strand.saveAction false "agent-01" callAction "model-01").Trace actionEvents
      (.value (savedAction, [])) := by
    refine .store _ ?_
    exact .store _ (.done _)
  refine .together modelEvents_together (.announce ?_)
  refine .together (together_alone haction) (.announce ?_)
  have hplan : savedCalls.known.resolveSchedules [straySchedule] = .error [strayIssue] := by
    have hturns : straySchedule.turns = [(strayTurn, 0)] := List.mergeSort_singleton _
    rw [Known.resolveSchedules, List.map_singleton, hturns]
    rfl
  change (saveSchedules "agent-01" [straySchedule] savedCalls.known >>= _).Trace _ _ _
  rw [saveSchedules, hplan]
  exact .failed _

def busy : StoreError := .io "database is locked"

/-- The action is refused, and its step is not asked for. -/
def refusedEvents : List Event :=
  modelEvents ++ .told (.models 2) :: [.called (.createAction "agent-01" "model-01" callAction),
    .replied (.createAction "agent-01" "model-01" callAction) (.error busy)]

theorem refusedAction_trace :
    (save false "agent-01" strayGraph [] {}).Trace .any refusedEvents
      (.error (.persistence .actions busy)) := by
  let asked : List Event := [.called (.createAction "agent-01" "model-01" callAction),
    .replied (.createAction "agent-01" "model-01" callAction) (.error busy)]
  have haction : (Strand.saveAction false "agent-01" callAction "model-01").Trace asked
      (.error (.persistence .actions busy)) := .store _ (.failed _)
  refine .together modelEvents_together (.announce ?_)
  refine .togetherFailed ⟨[(asked, .error (.persistence .actions busy))], ?_, .single asked, ?_⟩
  · exact .cons haction .nil
  · exact .error List.mem_cons_self

/-- The error for the stray name comes when models and actions are stored, and not at all if the
store has refused the action before. -/
theorem save_stopped_strayGraph :
    ((save false "agent-01" strayGraph [] {}).Trace .any strayEvents
        (.error (.references [strayIssue])) ∧
      Stopped false "agent-01" strayGraph [] {} strayEvents (.references [strayIssue])) ∧
    (save false "agent-01" strayGraph [] {}).Trace .any refusedEvents
        (.error (.persistence .actions busy)) ∧
      Stopped false "agent-01" strayGraph [] {} refusedEvents (.persistence .actions busy) :=
  ⟨⟨strayGraph_trace, save_stopped strayGraph_trace⟩, refusedAction_trace,
    save_stopped refusedAction_trace⟩

end Calls

end Program
end AgentSpec
