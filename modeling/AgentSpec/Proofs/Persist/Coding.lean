import AgentSpec.Proofs.Persist.Stopping

/-!
What becomes of steps that need code.

The assistant is asked while the steps of an action are stored.  Whatever it answers, the step is
stored: with the code, or as it was written and with a warning.  So the stored steps, their marks
and the warnings have to be in line, although actions are stored side by side and their events
stand in any order.

One step has one event of the assistant at most (`Strand.prepare_value`).  The steps of an action go
by induction (`Strand.saveSteps_coded`), and those of all actions by what an interleaving keeps
(`Program.saveActions_coded`).  Main statement: `Program.save_degrades`.
-/
namespace AgentSpec

instance (coding : Bool) (s : Step) : Decidable (s.asksCode coding) :=
  inferInstanceAs (Decidable (_ ∧ _ ∧ _))

/-! ## Requests for code -/

def Event.codeRequest? : Event → Option CodeRequest
  | .coded r _ => some r
  | _ => none

/-- The requests for code in a trace, in the order of the answers. -/
def codeRequests (es : List Event) : List CodeRequest := es.filterMap Event.codeRequest?

theorem codeRequests_append (es es' : List Event) :
    codeRequests (es ++ es') = codeRequests es ++ codeRequests es' := List.filterMap_append

/-- Code is asked for while actions are stored, and at no other time. -/
theorem InPhase.codeRequests_eq_nil {phase : Phase} {es : List Event} (h : InPhase phase es)
    (hne : phase ≠ .actions) : codeRequests es = [] := by
  refine List.filterMap_eq_nil_iff.mpr fun x hx => ?_
  cases x with
  | coded r a => exact absurd (h _ hx .actions rfl).symm hne
  | _ => rfl

/-- The requests for the steps of an action that need code. -/
def Action.codeRequests (coding : Bool) (a : Action) : List CodeRequest :=
  (a.steps.filter (·.asksCode coding)).map (.ofStep a)

/-! ## One step -/

/-- The step with the code that the assistant wrote. -/
def Step.withCode (s : Step) (g : GeneratedCode) : Step :=
  { s with config := .customCode (some g.code) g.dependencies g.envVars }

/-- How a step of an action may be stored. -/
structure Step.StoredAs (coding : Bool) (a : Action) (es : List Event) (s : Step)
    (t : StoredStep) : Prop where
  /-- The mark is that of the step as it is stored. -/
  ready : t.ready = t.step.isReady
  /-- A step that needs no code is stored as it was given. -/
  kept : s.kind ≠ .customCode ∨ s.isReady → t.step = s
  /-- So is a step that is stored without its code. -/
  authored : t.ready = false → t.step = s
  /-- Code is what the assistant answered when it was asked for this step. -/
  coded : t.step = s ∨ coding ∧ ∃ g, .coded (.ofStep a s) (.ok g) ∈ es ∧
    Text.isBlank g.code = false ∧ t.step = s.withCode g

/-- The warning names the step and says why it has no code. -/
inductive Step.Uncoded (coding : Bool) (a : Action) (es : List Event) (s : Step) : Warning → Prop
  | disabled : coding = false →
    Uncoded coding a es s (.uncoded a.name s.name "code generation is disabled")
  | blank {g : GeneratedCode} : .coded (.ofStep a s) (.ok g) ∈ es → Text.isBlank g.code →
    Uncoded coding a es s (.uncoded a.name s.name "generator returned no code")
  | failed {e : AssistantError} : .coded (.ofStep a s) (.error e) ∈ es →
    Uncoded coding a es s (.uncoded a.name s.name e.message)

namespace Step

variable {coding : Bool} {a : Action} {s : Step} {es es' : List Event}

theorem StoredAs.mono {t : StoredStep} (h : s.StoredAs coding a es t) (hes : es ⊆ es') :
    s.StoredAs coding a es' t :=
  ⟨h.ready, h.kept, h.authored, h.coded.imp_right fun ⟨hc, g, hg, hrest⟩ => ⟨hc, g, hes hg, hrest⟩⟩

theorem Uncoded.mono {w : Warning} (h : s.Uncoded coding a es w) (hes : es ⊆ es') :
    s.Uncoded coding a es' w := by
  cases h with
  | disabled hc => exact .disabled hc
  | blank hg hblank => exact .blank (hes hg) hblank
  | failed he => exact .failed (hes he)

/-- What is asked for a step, and what is told of it, does not depend on the steps around it. -/
theorem Uncoded.toAction {w : Warning} {b : StoredAction} {id modelId : String}
    {ts : List StoredStep} (h : s.Uncoded coding a es w) (hb : b = .ofAction id modelId a ts) :
    s.Uncoded coding b.toAction es w := by
  subst hb
  cases h with
  | disabled hc => exact .disabled hc
  | blank hg hblank => exact .blank hg hblank
  | failed he => exact .failed he

theorem isReady_withCode (g : GeneratedCode) : (s.withCode g).isReady = !Text.isBlank g.code := rfl

/-- What an answer makes of a step: the step as it is, ready or with a warning, or a ready one. -/
theorem prepared_cases (answer : Except AssistantError GeneratedCode)
    (hes : s.asksCode coding → .coded (.ofStep a s) answer ∈ es) :
    (s.prepared coding a answer = (s, none) ∧ s.isReady) ∨
      (∃ w, s.prepared coding a answer = (s, some w) ∧ s.isReady = false ∧
        s.kind = .customCode ∧ s.Uncoded coding a es w) ∨
      ∃ g, s.prepared coding a answer = (s.withCode g, none) ∧ s.asksCode coding ∧
        answer = .ok g ∧ Text.isBlank g.code = false := by
  unfold prepared
  by_cases hs : s.kind ≠ .customCode ∨ s.isReady
  · refine Or.inl ⟨by rw [if_pos hs], ?_⟩
    rcases hs with hkind | hready
    · unfold kind at hkind
      unfold isReady
      cases hconfig : s.config with
      | customCode code dependencies envVars =>
        rw [hconfig] at hkind
        exact absurd rfl hkind
      | _ => rfl
    · exact hready
  · rw [if_neg hs]
    rw [not_or, not_not] at hs
    have hready : s.isReady = false := eq_false_of_ne_true hs.2
    cases coding with
    | false => exact Or.inr (Or.inl ⟨_, rfl, hready, hs.1, .disabled rfl⟩)
    | true =>
      have hasks : s.asksCode true := ⟨hs.1, hs.2, rfl⟩
      cases answer with
      | error e => exact Or.inr (Or.inl ⟨_, rfl, hready, hs.1, .failed (hes hasks)⟩)
      | ok g =>
        cases hblank : Text.isBlank g.code with
        | true =>
          refine Or.inr (Or.inl ⟨_, ?_, hready, hs.1, .blank (hes hasks) hblank⟩)
          simp [hblank]
        | false =>
          refine Or.inr (Or.inr ⟨g, ?_, hasks, rfl, hblank⟩)
          simp [hblank, withCode]

/-- The stored step, and the warnings for it: one if it is not ready. -/
theorem storedAs_prepared {t : StoredStep} (answer : Except AssistantError GeneratedCode)
    (hes : s.asksCode coding → .coded (.ofStep a s) answer ∈ es)
    (ht : t.step = (s.prepared coding a answer).1) (hready : t.ready = t.step.isReady) :
    s.StoredAs coding a es t ∧ List.Forall₂ (fun u w => u.step.Uncoded coding a es w)
      ([t].filter (!·.ready)) (s.prepared coding a answer).2.toList := by
  rcases prepared_cases answer hes with ⟨heq, hs⟩ | ⟨w, heq, hs, -, hw⟩ | ⟨g, heq, hask, rfl, hg⟩
  · rw [heq] at ht ⊢
    have htr : t.ready = true := by rw [hready, ht, hs]
    refine ⟨⟨hready, fun _ => ht, fun _ => ht, Or.inl ht⟩, ?_⟩
    simp [htr]
  · rw [heq] at ht ⊢
    have htr : t.ready = false := by rw [hready, ht, hs]
    refine ⟨⟨hready, fun _ => ht, fun _ => ht, Or.inl ht⟩, ?_⟩
    rw [← show t.step = s from ht] at hw
    simp [htr, hw]
  · rw [heq] at ht ⊢
    have htr : t.ready = true := by rw [hready, ht, isReady_withCode, hg]; rfl
    have hneeds : ¬(s.kind ≠ .customCode ∨ s.isReady) := not_or.mpr ⟨not_not.mpr hask.1, hask.2.1⟩
    refine ⟨⟨hready, fun hno => absurd hno hneeds, fun hno => ?_, ?_⟩, ?_⟩
    · rw [htr] at hno
      cases hno
    · exact Or.inr ⟨hask.2.2, g, hes hask, hg, ht⟩
    · simp [htr]

end Step

/-! ## The steps of an action -/

def Write.isStep : Write → Bool
  | .step _ _ => true
  | _ => false

theorem filter_isStep_of_phase {ws : List Write} {phase : Phase} (h : ∀ v ∈ ws, v.phase = phase)
    (hne : phase ≠ .actions) : ws.filter Write.isStep = [] := by
  refine List.filter_eq_nil_iff.mpr fun v hv hstep => hne ?_
  rw [← h v hv]
  cases v with
  | step => rfl
  | _ => cases hstep

/-- The writes of the steps of a stored action. -/
def StoredAction.stepWrites (b : StoredAction) : List Write := b.steps.map (.step b.id)

namespace Strand

variable {coding : Bool} {agentId modelId id : String} {a : Action} {s : Step} {es : List Event}

/-- The assistant is asked once if the step needs code, and else not at all. -/
theorem prepare_value {p : Step × Option Warning} (h : (prepare coding a s).Trace es (.value p)) :
    ∃ answer, p = s.prepared coding a answer ∧
      (s.asksCode coding → .coded (.ofStep a s) answer ∈ es) ∧
      codeRequests es = ([s].filter (·.asksCode coding)).map (.ofStep a) := by
  by_cases hs : s.asksCode coding
  · rw [prepare_of_asksCode hs] at h
    cases h with
    | code answer h =>
      obtain ⟨rfl, ho | ho⟩ := trace_done.mp h <;> cases ho
      exact ⟨answer, rfl, fun _ => List.mem_cons_self, by simp [hs, codeRequests, Event.codeRequest?]⟩
  · rw [prepare_of_not_asksCode hs (.ok ⟨"", [], []⟩)] at h
    obtain ⟨rfl, ho | ho⟩ := trace_done.mp h <;> cases ho
    exact ⟨_, rfl, fun hask => absurd hask hs, by simp [hs, codeRequests]⟩

/-- What a trace that stored some steps did about their code. -/
structure StepsCoded (coding : Bool) (a : Action) (es : List Event) (steps : List Step)
    (ts : List StoredStep) (warnings : List Warning) : Prop where
  asked : codeRequests es = (steps.filter (·.asksCode coding)).map (.ofStep a)
  stored : List.Forall₂ (Step.StoredAs coding a es) steps ts
  warned : List.Forall₂ (fun t w => t.step.Uncoded coding a es w) (ts.filter (!·.ready)) warnings

theorem saveSteps_coded {i : Nat} {steps : List Step} {r : List StoredStep × List Warning}
    (h : (saveSteps coding a id i steps).Trace es (.value r)) :
    StepsCoded coding a es steps r.1 r.2 := by
  induction steps generalizing i es r with
  | nil =>
    obtain ⟨rfl, ho | ho⟩ := trace_pure.mp h <;> cases ho
    exact ⟨rfl, .nil, .nil⟩
  | cons s rest ih =>
    obtain ⟨p, es₁, es₂, h₁, h₂, rfl⟩ := trace_bind_value h
    obtain ⟨v, es₃, es₄, h₃, h₄, rfl⟩ := trace_bind_value h₂
    obtain ⟨q, es₅, es₆, h₅, h₆, rfl⟩ := trace_bind_value h₄
    obtain ⟨rfl, ho | ho⟩ := trace_pure.mp h₆ <;> cases ho
    obtain ⟨answer, rfl, hanswer, hasked⟩ := prepare_value h₁
    have hrest := ih h₅
    have hfirst : es₁ ⊆ es₁ ++ (es₃ ++ (es₅ ++ [])) := List.subset_append_left _ _
    have hlast : es₅ ⊆ es₁ ++ (es₃ ++ (es₅ ++ [])) := by
      rw [List.append_nil]
      exact List.subset_append_of_subset_right _ (List.subset_append_right _ _)
    let t : StoredStep := ⟨v, .ofNat i, (s.prepared coding a answer).1.isReady,
      (s.prepared coding a answer).1⟩
    obtain ⟨hst, hwarned⟩ := Step.storedAs_prepared (t := t) answer hanswer rfl rfl
    refine ⟨?_, .cons (hst.mono hfirst) (hrest.stored.imp fun _ _ ht => ht.mono hlast), ?_⟩
    · rw [codeRequests_append, codeRequests_append, hasked, trace_ask_value h₃, List.append_nil,
        hrest.asked]
      show _ ++ ([] ++ _) = _
      rw [List.nil_append, ← List.map_append, ← List.filter_append]
      rfl
    · show List.Forall₂ _ (([t] ++ q.1).filter _) _
      rw [List.filter_append]
      exact List.rel_append (hwarned.imp fun _ _ hw => hw.mono hfirst)
        (hrest.warned.imp fun _ _ hw => hw.mono hlast)

/-- What a trace that stored an action did about the code of its steps. -/
structure ActionCoded (coding : Bool) (a : Action) (es : List Event) (b : StoredAction)
    (warnings : List Warning) : Prop where
  action : b = .ofAction b.id b.modelId a b.steps
  steps : StepsCoded coding a es a.steps b.steps warnings
  written : (writes es).filter Write.isStep = b.stepWrites

theorem saveAction_coded {r : StoredAction × List Warning}
    (h : (saveAction coding agentId a modelId).Trace es (.value r)) :
    ActionCoded coding a es r.1 r.2 := by
  obtain ⟨id, es₁, es₂, h₁, h₂, rfl⟩ := trace_bind_value h
  obtain ⟨t, es₃, es₄, h₃, h₄, rfl⟩ := trace_bind_value h₂
  obtain ⟨rfl, ho | ho⟩ := trace_pure.mp h₄ <;> cases ho
  have hsteps := saveSteps_coded h₃
  have hsub : es₃ ⊆ es₁ ++ (es₃ ++ []) := by simp
  refine ⟨rfl, ⟨?_, hsteps.stored.imp fun _ _ ht => ht.mono hsub,
    hsteps.warned.imp fun _ _ hw => hw.mono hsub⟩, ?_⟩
  · rw [codeRequests_append, trace_ask_value h₁, List.append_nil, hsteps.asked]
    rfl
  · rw [writes_append, trace_ask_value h₁, writes_replied, List.append_nil, (saveSteps_value h₃).2]
    show (t.1.map (Write.step id)).filter Write.isStep = t.1.map (Write.step id)
    refine List.filter_eq_self.mpr fun v hv => ?_
    obtain ⟨u, -, rfl⟩ := List.mem_map.mp hv
    rfl

end Strand

/-! ## All actions -/

/-- An action as it is stored, with its steps. -/
structure Action.StoredAs (coding : Bool) (es : List Event) (a : Action) (b : StoredAction) :
    Prop where
  action : b = .ofAction b.id b.modelId a b.steps
  steps : List.Forall₂ (Step.StoredAs coding a es) a.steps b.steps

/-- The steps that are stored without their code, each with its action. -/
def StoredAction.uncoded (b : StoredAction) : List (StoredAction × StoredStep) :=
  (b.steps.filter (!·.ready)).map (b, ·)

namespace Program

variable {w : Weave} {es : List Event} {agentId : String} {known : Known} {coding : Bool}
  {additions : Additions} {g : Graph}

/-- What a run that stored actions did about the code of their steps.  Actions are stored side by
side, but the warnings stand in the order of the actions and their steps. -/
structure Coded (coding : Bool) (actions : List Action) (es : List Event)
    (saved : List StoredAction) (warnings : List Warning) : Prop where
  /-- The assistant is asked once for each step that needs code, and for no other.  For the steps
  of one action it is asked in their order. -/
  asked : Interleaved (actions.map (·.codeRequests coding)) (codeRequests es)
  stored : List.Forall₂ (Action.StoredAs coding es) actions saved
  /-- The steps that are handed out are those that the store has confirmed. -/
  written : ((writes es).filter Write.isStep).Perm (saved.flatMap (·.stepWrites))
  /-- One warning for each step that is not ready. -/
  warned : List.Forall₂ (fun p w => p.2.step.Uncoded coding p.1.toAction es w)
    (saved.flatMap (·.uncoded)) warnings

theorem Coded.mono {actions : List Action} {es' : List Event} {saved : List StoredAction}
    {warnings : List Warning} (h : Coded coding actions es saved warnings) (hes : es ⊆ es')
    (hasked : codeRequests es' = codeRequests es)
    (hwrites : (writes es').filter Write.isStep = (writes es).filter Write.isStep) :
    Coded coding actions es' saved warnings := by
  refine ⟨hasked ▸ h.asked, h.stored.imp fun a b hab => ⟨hab.action, ?_⟩, hwrites ▸ h.written,
    h.warned.imp fun p w hw => hw.mono hes⟩
  exact hab.steps.imp fun s t ht => ht.mono hes

/-- The parts of actions that were stored side by side. -/
theorem coded_of_parts {actions : List Action}
    {ps : List (List Event × StoredAction × List Warning)}
    (h : List.Forall₂ (fun a p => Strand.ActionCoded coding a p.1 p.2.1 p.2.2) actions ps)
    (hi : Interleaved (ps.map (·.1)) es) :
    Coded coding actions es (ps.map (·.2.1)) (ps.flatMap (·.2.2)) := by
  have hsub : ∀ p ∈ ps, p.1 ⊆ es := fun p hp x hx =>
    hi.mem_iff.mpr ⟨p.1, List.mem_map_of_mem hp, hx⟩
  refine ⟨?_, ?_, ?_, ?_⟩
  · have hasked : actions.map (·.codeRequests coding) = ps.map fun p => codeRequests p.1 :=
      forall₂_map_eq (h.imp fun a p hp => hp.steps.asked.symm)
    have hrequests := hi.filterMap Event.codeRequest?
    rw [List.map_map] at hrequests
    rw [hasked]
    exact hrequests
  · rw [List.forall₂_map_right_iff]
    refine forall₂_imp_mem h fun a p _ hp hap => ⟨hap.action, ?_⟩
    exact hap.steps.stored.imp fun s t ht => ht.mono (hsub p hp)
  · have hperm := (hi.filterMap Event.write?).perm.filter Write.isStep
    rw [List.map_map, List.filter_flatten, List.map_map, ← List.flatMap_def] at hperm
    rw [List.flatMap_map]
    have heq : ps.flatMap (List.filter Write.isStep ∘ List.filterMap Event.write? ∘ (·.1)) =
        ps.flatMap fun p => p.2.1.stepWrites := by
      refine List.flatMap_congr fun p hp => ?_
      obtain ⟨a, -, hap⟩ := forall₂_mem_right h hp
      exact hap.written
    rw [← heq]
    exact hperm
  · rw [List.flatMap_map]
    refine forall₂_flatMap fun p hp => ?_
    obtain ⟨a, -, hap⟩ := forall₂_mem_right h hp
    rw [StoredAction.uncoded, List.forall₂_map_left_iff]
    exact hap.steps.warned.imp fun t w hw => (hw.toAction hap.action).mono (hsub p hp)

theorem saveActions_coded {actions : List Action} {saved : List StoredAction × List Warning}
    (h : (saveActions coding agentId actions known).Trace w es (.value saved)) :
    Coded coding actions es saved.1 saved.2 := by
  rw [saveActions_eq] at h
  obtain ⟨targets, bs, es', hplan, ht, rfl, rfl⟩ := stage_value h
  obtain ⟨ps, hps, hallows, rfl⟩ := ht.value_parts
  rw [List.forall₂_map_left_iff] at hps
  have hparts : List.Forall₂ (fun a (p : List Event × StoredAction × List Warning) =>
      Strand.ActionCoded coding a p.1 p.2.1 p.2.2) actions ps := by
    refine forall₂_trans (Known.resolveActions_eq_ok.mp hplan) hps fun a t p hat htr => ?_
    rw [← hat.1]
    exact Strand.saveAction_coded htr
  have hcoded := coded_of_parts hparts (w.interleaved hallows)
  have hwarnings : (ps.map (·.2)).flatMap (·.2) = ps.flatMap (·.2.2) := List.flatMap_map ..
  show Coded coding actions _ ((ps.map (·.2)).map (·.1)) ((ps.map (·.2)).flatMap (·.2))
  rw [List.map_map, hwarnings]
  refine hcoded.mono (List.subset_append_left _ _) ?_ ?_
  · rw [codeRequests_append]
    exact List.append_nil _
  · rw [writes_append, writes_told, List.append_nil]

/-! ## Runs -/

/-- Every name that is used stands for something. -/
structure Covered (g : Graph) (additions : Additions) (known : Known) : Prop where
  additions : ∀ add ∈ additions, ∃ id, known.models.lookup add.1 = some id
  targets : ∀ a ∈ g.actions, a.targetModel ∈ g.models.map (·.name) ∨
    ∃ id, known.models.lookup a.targetModel = some id
  turns : ∀ c ∈ g.schedules, ∀ t ∈ c.steps,
    (t.modelName ∈ g.models.map (·.name) ∨ ∃ id, known.models.lookup t.modelName = some id) ∧
    (t.actionName ∈ g.actions.map (·.name) ∨ ∃ id, known.actions.lookup t.actionName = some id)

/-- Why a run fails: some name stands for nothing, or the store refused a call.  What the assistant
answered is not among the reasons. -/
inductive FailsFor (g : Graph) (additions : Additions) (known : Known) (es : List Event) :
    CompileError → Prop
  | references {issues : List Issue} : ¬Covered g additions known →
    FailsFor g additions known es (.references issues)
  | persistence {c : StoreCall} {source : StoreError} : .replied c (.error source) ∈ es →
    FailsFor g additions known es (.persistence c.phase source)

theorem StageStops.cases {phase : Phase} {rs : List Mention} {e : CompileError}
    (h : StageStops phase rs es e) :
    (∃ issues, e = .references issues) ∨
      ∃ (c : StoreCall) (source : StoreError), e = .persistence c.phase source ∧
        .replied c (.error source) ∈ es := by
  rcases h with ⟨-, he, -⟩ | ⟨-, source, he, c, hc, hreplied⟩
  · exact Or.inl ⟨_, he⟩
  · rw [← hc] at he
    exact Or.inr ⟨c, source, he, hreplied⟩

theorem save_failsFor {e : CompileError}
    (h : (save coding agentId g additions known).Trace w es (.error e)) :
    FailsFor g additions known es e := by
  have hcause : (∃ issues, e = .references issues) ∨ ∃ (c : StoreCall) (source : StoreError),
      e = .persistence c.phase source ∧ .replied c (.error source) ∈ es := by
    rcases save_failed h with h₁ | ⟨models, es₁, es', rfl, h₁, h₂ | ⟨actions, es₂, es₃, rfl, h₂, h₃⟩⟩
    · exact (saveModels_stops h₁).cases
    · have hstops : StageStops .actions (Known.mentions _ g additions .actions) es' e :=
        saveActions_stops h₂
      refine hstops.cases.imp_right fun ⟨c, source, he, hc⟩ => ?_
      exact ⟨c, source, he, List.mem_append_right _ hc⟩
    · have hstops : StageStops .schedules (Known.mentions _ g additions .schedules) es₃ e :=
        saveSchedules_stops h₃
      refine hstops.cases.imp_right fun ⟨c, source, he, hc⟩ => ?_
      exact ⟨c, source, he, List.mem_append_right _ (List.mem_append_right _ hc)⟩
  rcases hcause with ⟨issues, rfl⟩ | ⟨c, source, rfl, hc⟩
  · refine .references fun hcovered => ?_
    obtain ⟨phase, source, he⟩ := save_error h hcovered.additions hcovered.targets hcovered.turns
    cases he
  · exact .persistence hc

theorem save_coded {saved : Saved}
    (h : (save coding agentId g additions known).Trace w es (.value saved)) :
    Coded coding g.actions es saved.actions saved.warnings := by
  obtain ⟨es₁, es₂, es₃, rfl, h₁, h₂, h₃⟩ := save_value h
  have hmodels : codeRequests es₁ = [] :=
    (saveModels_does h₁).inPhase.codeRequests_eq_nil (by decide)
  have hschedules : codeRequests es₃ = [] :=
    (saveSchedules_does h₃).inPhase.codeRequests_eq_nil (by decide)
  obtain ⟨-, -, -, hphase₁, -⟩ := saveModels_writes h₁
  obtain ⟨-, -, -, hphase₃, -⟩ := saveSchedules_writes h₃
  refine (saveActions_coded h₂).mono ?_ ?_ ?_
  · exact List.subset_append_of_subset_right _ (List.subset_append_left _ _)
  · rw [codeRequests_append, codeRequests_append, hmodels, hschedules, List.nil_append,
      List.append_nil]
  · rw [writes_append, writes_append, List.filter_append, List.filter_append,
      filter_isStep_of_phase hphase₁ (by decide), filter_isStep_of_phase hphase₃ (by decide),
      List.nil_append, List.append_nil]

/-- Whatever the assistant answers, a run does not fail for it.  One with a result has asked once
for each step that needs code, and has stored the others as they were given; its warnings are for
the steps that it stored without their code. -/
theorem save_degrades {o : End Saved}
    (h : (save coding agentId g additions known).Trace w es o) :
    (∀ e, o = .error e → FailsFor g additions known es e) ∧
      ∀ saved, o = .value saved → Coded coding g.actions es saved.actions saved.warnings := by
  constructor
  · rintro e rfl
    exact save_failsFor h
  · rintro saved rfl
    exact save_coded h

section Coding

/-- Steps of custom code that lack their code. -/
def uncodedStep (name : String) : Step := { name, config := .customCode none [] [] }

def scoreAction : Action where
  name := "score"
  title := "Score"
  targetModel := "Lead"
  steps := [callStep, uncodedStep "sum", uncodedStep "rank", uncodedStep "sort"]

def scoreGraph : Graph where
  models := [lead, deal]
  actions := [scoreAction]

def sumCode : GeneratedCode := { code := "return 1" }

def sortError : AssistantError := .rejected "too vague"

def stepEvents (i : UInt32) (s : Step) (id : String) : List Event :=
  [.called (.createStep "action-01" i s s.isReady),
    .replied (.createStep "action-01" i s s.isReady) (.ok id)]

def coded (s : Step) (a : Except AssistantError GeneratedCode) : Event :=
  .coded (.ofStep scoreAction s) a

/-- One step is ready, one gets its code, one gets blanks, and one is refused. -/
def scoreEvents : List Event :=
  [.called (.createAction "agent-01" "model-01" scoreAction),
    .replied (.createAction "agent-01" "model-01" scoreAction) (.ok "action-01")] ++
  (stepEvents 0 callStep "step-01" ++
  (coded (uncodedStep "sum") (.ok sumCode) ::
    stepEvents 1 ((uncodedStep "sum").withCode sumCode) "step-02" ++
  (coded (uncodedStep "rank") (.ok ⟨" ", [], []⟩) :: stepEvents 2 (uncodedStep "rank") "step-03" ++
  (coded (uncodedStep "sort") (.error sortError) :: stepEvents 3 (uncodedStep "sort") "step-04"))))

def savedScore : StoredAction :=
  .ofAction "action-01" "model-01" scoreAction [⟨"step-01", 0, true, callStep⟩,
    ⟨"step-02", 1, true, (uncodedStep "sum").withCode sumCode⟩,
    ⟨"step-03", 2, false, uncodedStep "rank"⟩, ⟨"step-04", 3, false, uncodedStep "sort"⟩]

def scoreWarnings : List Warning :=
  [.uncoded "score" "rank" "generator returned no code",
    .uncoded "score" "sort" "Collaborator rejected the request: too vague"]

theorem scoreAction_trace : (Strand.saveAction true "agent-01" scoreAction "model-01").Trace
    scoreEvents (.value (savedScore, scoreWarnings)) := by
  refine .store _ (.store _ ?_)
  refine .code _ (.store _ ?_)
  refine .code _ (.store _ ?_)
  refine .code _ (.store _ ?_)
  exact .done _

def savedScores : Saved where
  models := savedCalls.models
  actions := [savedScore]
  schedules := []
  known := ⟨[("Deal", "model-02"), ("Lead", "model-01")], [("score", "action-01")]⟩
  warnings := scoreWarnings

def scoreGraphEvents : List Event :=
  modelEvents ++ .told (.models 2) :: (scoreEvents ++ [.told (.actions 1 4), .told (.schedules 0)])

theorem scoreGraph_trace :
    (save true "agent-01" scoreGraph [] {}).Trace .any scoreGraphEvents (.value savedScores) := by
  have hnone : Together .any ([] : List (Strand StoredSchedule)) [] (.value []) :=
    ⟨[], .nil, .nil (List.forall_mem_nil _), .values []⟩
  refine .together modelEvents_together (.announce ?_)
  refine .together (together_alone scoreAction_trace) (.announce ?_)
  exact .together hnone (.announce (.done _))

/-- Blanks and a refusal of the assistant leave two steps without code and do not end the run; a
refusal of the store does. -/
theorem save_degrades_scoreGraph :
    ((save true "agent-01" scoreGraph [] {}).Trace .any scoreGraphEvents (.value savedScores) ∧
      Coded true scoreGraph.actions scoreGraphEvents savedScores.actions savedScores.warnings) ∧
    (save false "agent-01" strayGraph [] {}).Trace .any refusedEvents
        (.error (.persistence .actions busy)) ∧
      FailsFor strayGraph [] {} refusedEvents (.persistence .actions busy) :=
  ⟨⟨scoreGraph_trace, (save_degrades scoreGraph_trace).2 _ rfl⟩, refusedAction_trace,
    (save_degrades refusedAction_trace).1 _ rfl⟩

end Coding

end Program
end AgentSpec
