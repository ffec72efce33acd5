import AgentSpec.Proofs.Persist.Strands
import AgentSpec.Proofs.Trace.Sequence

/-!
The calls that the strands of a run issue.

A strand issues its calls in turn: the row of an entity, then one row after the other that points
to it by the identifier that the first reply brought.  Main statements: `saveAction_carries` and
its likes.  They hold of every trace; one without a result has issued some of the first calls.
-/
namespace AgentSpec

/-- The step as it may be stored: with code, or as it is. -/
def Step.Prepares (coding : Bool) (a : Action) (s t : Step) : Prop :=
  ∃ answer, t = (s.prepared coding a answer).1

/-- The calls for steps under an action; positions count from `first`. -/
def stepCalls (actionId : String) (first : Nat) (steps : List Step) : List StoreCall :=
  (steps.zipIdx first).map fun (t, i) => .createStep actionId (.ofNat i) t t.isReady

/-- The calls for turns under a schedule. -/
def turnCalls (scheduleId : String) (turns : List (ScheduleStep × String × String)) :
    List StoreCall :=
  turns.map fun (step, modelId, actionId) => .createTurn scheduleId modelId actionId step

/-- The trace writes nothing, or this first. -/
def StartsWith (es : List Event) (first : Write) : Prop := ∀ w ∈ (writes es).head?, w = first

theorem StartsWith.of_writes {es : List Event} {first : Write} {rest : List Write}
    (h : writes es = first :: rest) : StartsWith es first := by
  intro w hw
  rw [h] at hw
  exact (Option.some.inj hw).symm

theorem exists_prepares (coding : Bool) (a : Action) (steps : List Step) :
    ∃ ts, List.Forall₂ (Step.Prepares coding a) steps ts := by
  induction steps with
  | nil => exact ⟨[], .nil⟩
  | cons s rest ih =>
    obtain ⟨ts, hts⟩ := ih
    exact ⟨_ :: ts, .cons ⟨.ok ⟨"", [], []⟩, rfl⟩ hts⟩

namespace Strand

variable {agentId modelId id : String} {m : Model} {a : Action} {s : Step} {c : Schedule}
  {fields : List Field} {coding : Bool} {es : List Event}

theorem saveModel_carries {o : End (Option StoredModel)} (h : (saveModel agentId m).Trace es o) :
    Carries [.createModel agentId m] es o.IsValue := by
  obtain ⟨o', h, ho⟩ := trace_bind_pure h
  exact (ask_carries rfl h).mono ho

theorem appendFields_carries {o : End (Option StoredModel)}
    (h : (appendFields modelId fields).Trace es o) :
    Carries [.appendFields modelId fields] es o.IsValue := by
  obtain ⟨o', h, ho⟩ := trace_bind_pure h
  exact (ask_carries rfl h).mono ho

/-! ## Steps -/

/-- Preparing a step calls nothing. -/
theorem prepare_carries {o : End (Step × Option Warning)} (h : (prepare coding a s).Trace es o) :
    Carries [] es True := by
  refine .of_silent ?_ (prepare_trace h).1
  by_cases hs : s.asksCode coding
  · rw [prepare_of_asksCode hs] at h
    cases h with
    | cut => rfl
    | code answer h =>
      rw [(trace_done.mp h).1]
      rfl
  · rw [prepare_of_not_asksCode hs (.ok ⟨"", [], []⟩)] at h
    rw [(trace_done.mp h).1]
    rfl

theorem saveSteps_carries {i : Nat} {steps : List Step} {o : End (List StoredStep × List Warning)}
    (h : (saveSteps coding a id i steps).Trace es o) :
    ∃ ts, List.Forall₂ (Step.Prepares coding a) steps ts ∧
      Carries (stepCalls id i ts) es o.IsValue := by
  induction steps generalizing i es o with
  | nil =>
    obtain ⟨rfl, -⟩ := trace_pure.mp h
    exact ⟨[], .nil, .of_silent rfl rfl⟩
  | cons s rest ih =>
    -- a trace that stops here has prepared none of the steps behind
    obtain ⟨others, hothers⟩ := exists_prepares coding a rest
    rcases trace_bind_through h with ⟨p, es₁, es₂, h₁, h₂, rfl⟩ | ⟨o', h₁, hno⟩
    case inr =>
      exact ⟨_, .cons ⟨.ok ⟨"", [], []⟩, rfl⟩ hothers, (prepare_carries h₁).stop hno⟩
    obtain ⟨-, ho | ⟨answer, ho, -⟩⟩ := prepare_trace h₁
    · cases ho
    obtain ⟨t, warning⟩ := p
    have ht : s.Prepares coding a t := ⟨answer, congrArg Prod.fst (End.value.inj ho)⟩
    rcases trace_bind_through h₂ with ⟨v, es₃, es₄, h₃, h₄, rfl⟩ | ⟨o', h₃, hno⟩
    case inr =>
      have hstep : Carries (_ :: stepCalls id (i + 1) others) es₂ o.IsValue :=
        (ask_carries rfl h₃).stop hno
      exact ⟨_, .cons ht hothers, (prepare_carries h₁).append hstep⟩
    obtain ⟨o', h₅, ho⟩ := trace_bind_pure h₄
    obtain ⟨ts, hts, hrest⟩ := ih h₅
    have hstep := (ask_value_carries rfl h₃).append (hrest.mono ho)
    exact ⟨_, .cons ht hts, (prepare_carries h₁).append hstep⟩

/-- The row of the action, then its steps by the identifier that it got. -/
theorem saveAction_carries {o : End (StoredAction × List Warning)}
    (h : (saveAction coding agentId a modelId).Trace es o) :
    ∃ id ts, List.Forall₂ (Step.Prepares coding a) a.steps ts ∧
      StartsWith es (.action agentId id modelId a) ∧
      Carries (.createAction agentId modelId a :: stepCalls id 0 ts) es o.IsValue := by
  rcases trace_bind_through h with ⟨id, es₁, es₂, h₁, h₂, rfl⟩ | ⟨o', h₁, hno⟩
  · obtain ⟨o', h₃, ho⟩ := trace_bind_pure h₂
    obtain ⟨ts, hts, hsteps⟩ := saveSteps_carries h₃
    refine ⟨id, ts, hts, ?_, (ask_value_carries rfl h₁).append (hsteps.mono ho)⟩
    rw [trace_ask_value h₁]
    exact .of_writes (Opens.of_replied rfl).writes_eq
  · obtain ⟨ts, hts⟩ := exists_prepares coding a a.steps
    rcases ask_writes h₁ with hw | ⟨id, hw⟩
    · refine ⟨"", ts, hts, ?_, (ask_carries rfl h₁).stop hno⟩
      intro w hmem
      rw [hw] at hmem
      cases hmem
    · exact ⟨id, ts, hts, .of_writes hw, (ask_carries rfl h₁).stop hno⟩

/-! ## Turns -/

section Schedules

variable {turns : List (ScheduleStep × String × String)}

theorem saveTurns_carries {o : End (List StoredTurn)} (h : (saveTurns id turns).Trace es o) :
    Carries (turnCalls id turns) es o.IsValue := by
  induction turns generalizing es o with
  | nil =>
    obtain ⟨rfl, -⟩ := trace_pure.mp h
    exact .of_silent rfl rfl
  | cons t rest ih =>
    rcases trace_bind_through h with ⟨v, es₁, es₂, h₁, h₂, rfl⟩ | ⟨o', h₁, hno⟩
    · obtain ⟨o', h₃, ho⟩ := trace_bind_pure h₂
      exact (ask_value_carries rfl h₁).append ((ih h₃).mono ho)
    · exact (ask_carries rfl h₁).stop hno

/-- The row of the schedule, then its turns by the identifier that it got. -/
theorem saveSchedule_carries {o : End StoredSchedule}
    (h : (saveSchedule agentId c turns).Trace es o) :
    ∃ id, StartsWith es (.schedule agentId id c) ∧
      Carries (.createSchedule agentId c :: turnCalls id turns) es o.IsValue := by
  rcases trace_bind_through h with ⟨id, es₁, es₂, h₁, h₂, rfl⟩ | ⟨o', h₁, hno⟩
  · obtain ⟨o', h₃, ho⟩ := trace_bind_pure h₂
    refine ⟨id, ?_, (ask_value_carries rfl h₁).append ((saveTurns_carries h₃).mono ho)⟩
    rw [trace_ask_value h₁]
    exact .of_writes (Opens.of_replied rfl).writes_eq
  · rcases ask_writes h₁ with hw | ⟨id, hw⟩
    · refine ⟨"", ?_, (ask_carries rfl h₁).stop hno⟩
      intro w hmem
      rw [hw] at hmem
      cases hmem
    · exact ⟨id, .of_writes hw, (ask_carries rfl h₁).stop hno⟩

end Schedules

/-! ## Phases -/

theorem saveModel_within : (saveModel agentId m).Within .models :=
  (within_ask rfl).bind fun _ => within_pure _

theorem appendFields_within : (appendFields modelId fields).Within .models :=
  (within_ask rfl).bind fun _ => within_pure _

theorem prepare_within : (prepare coding a s).Within .actions := by
  intro es o h x hx
  by_cases hs : s.asksCode coding
  · rw [prepare_of_asksCode hs] at h
    cases h with
    | cut => cases hx
    | code answer h =>
      rw [(trace_done.mp h).1] at hx
      rw [List.mem_singleton.mp hx]
      rfl
  · rw [prepare_of_not_asksCode hs (.ok ⟨"", [], []⟩)] at h
    rw [(trace_done.mp h).1] at hx
    cases hx

theorem saveSteps_within {i : Nat} {steps : List Step} :
    (saveSteps coding a id i steps).Within .actions := by
  induction steps generalizing i with
  | nil => exact within_pure _
  | cons s rest ih =>
    exact prepare_within.bind fun _ =>
      (within_ask rfl).bind fun _ => ih.bind fun _ => within_pure _

theorem saveAction_within : (saveAction coding agentId a modelId).Within .actions :=
  (within_ask rfl).bind fun _ => saveSteps_within.bind fun _ => within_pure _

theorem saveTurns_within {turns : List (ScheduleStep × String × String)} :
    (saveTurns id turns).Within .schedules := by
  induction turns with
  | nil => exact within_pure _
  | cons t rest ih => exact (within_ask rfl).bind fun _ => ih.bind fun _ => within_pure _

theorem saveSchedule_within {turns : List (ScheduleStep × String × String)} :
    (saveSchedule agentId c turns).Within .schedules :=
  (within_ask rfl).bind fun _ => saveTurns_within.bind fun _ => within_pure _

end Strand
end AgentSpec
