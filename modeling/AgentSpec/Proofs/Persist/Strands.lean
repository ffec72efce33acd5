import AgentSpec.Compile.Persist
import AgentSpec.Proofs.Trace.Writes

/-!
What the strands of a run store.

Each of them begins with the row of an entity and goes on, if at all, with rows that point to it.
Main statements: the writes of a trace that may stop anywhere (`saveAction_writes` and its likes),
and the result of a trace that ends with one (`saveAction_value` and its likes).
-/
namespace AgentSpec

/-- A step as it is stored, and the warning for it, when the assistant gives this answer. -/
def Step.prepared (coding : Bool) (a : Action) (s : Step)
    (answer : Except AssistantError GeneratedCode) : Step × Option Warning :=
  if s.kind ≠ .customCode ∨ s.isReady then (s, none)
  else if !coding then (s, some (.uncoded a.name s.name "code generation is disabled"))
  else match answer with
    | .ok g =>
      if Text.isBlank g.code then
        (s, some (.uncoded a.name s.name "generator returned no code"))
      else ({ s with config := .customCode (some g.code) g.dependencies g.envVars }, none)
    | .error e => (s, some (.uncoded a.name s.name e.message))

/-- The assistant is asked for the code of the step. -/
def Step.asksCode (coding : Bool) (s : Step) : Prop :=
  s.kind = .customCode ∧ ¬s.isReady ∧ coding

theorem Step.prepared_of_not_asksCode {coding : Bool} {a : Action} {s : Step}
    (h : ¬s.asksCode coding) (x y : Except AssistantError GeneratedCode) :
    s.prepared coding a x = s.prepared coding a y := by
  unfold Step.prepared
  by_cases hs : s.kind ≠ .customCode ∨ s.isReady
  · rw [if_pos hs, if_pos hs]
  · rw [if_neg hs, if_neg hs]
    have hc : coding = false := by
      cases coding with
      | false => rfl
      | true =>
        rw [not_or, not_not] at hs
        exact absurd ⟨hs.1, hs.2, rfl⟩ h
    rw [hc]
    rfl

/-- Every error of the strand is a reply of the store in one part of the run. -/
def Strand.FailsIn (phase : Phase) (s : Strand α) : Prop :=
  ∀ es e, s.Trace es (.error e) → ∃ source, e = .persistence phase source ∧
    ∃ c : StoreCall, .replied c (.error source) ∈ es

/-- The stored steps carry the steps of the action; positions count from `first`. -/
structure StepsStored (coding : Bool) (a : Action) (es : List Event) (first : Nat)
    (steps : List Step) (stored : List StoredStep) : Prop where
  prepared : List.Forall₂ (fun s t => ∃ answer,
    (s.asksCode coding → .coded (.ofStep a s) answer ∈ es) ∧
      t.step = (s.prepared coding a answer).1) steps stored
  positions : stored.map (·.position) = (List.range' first steps.length).map UInt32.ofNat
  ready : ∀ t ∈ stored, t.ready = t.step.isReady

theorem StepsStored.mono {coding : Bool} {a : Action} {es es' : List Event} {first : Nat}
    {steps : List Step} {stored : List StoredStep} (h : StepsStored coding a es first steps stored)
    (hes : ∀ x ∈ es, x ∈ es') : StepsStored coding a es' first steps stored :=
  ⟨h.prepared.imp fun _ _ ⟨answer, hcoded, ht⟩ => ⟨answer, fun hask => hes _ (hcoded hask), ht⟩,
    h.positions, h.ready⟩

namespace Strand

section FailsIn

variable {phase : Phase} {s : Strand α} {f : α → Strand β}

theorem FailsIn.persistence (hs : s.FailsIn phase) {es : List Event} {e : CompileError}
    (h : s.Trace es (.error e)) : ∃ source, e = .persistence phase source := by
  obtain ⟨source, he, -⟩ := hs es e h
  exact ⟨source, he⟩

theorem failsIn_pure (a : α) : (pure a : Strand α).FailsIn phase := by
  intro es e h
  obtain ⟨-, ho | ho⟩ := trace_pure.mp h <;> cases ho

theorem failsIn_ask (c : StoreCall) : (ask phase c).FailsIn phase := by
  intro es e h
  rcases trace_ask h with ⟨-, ho⟩ | ⟨-, ho⟩ | ⟨v, -, ho | ho⟩ | ⟨source, rfl, ho | ho⟩ <;> cases ho
  exact ⟨source, rfl, c, by simp⟩

theorem FailsIn.bind (hs : s.FailsIn phase) (hf : ∀ a, (f a).FailsIn phase) :
    (s >>= f).FailsIn phase := by
  intro es e h
  rcases trace_bind h with ⟨a, es₁, es₂, -, h₂, rfl⟩ | ⟨e', h₁, ho⟩ | ⟨-, ho⟩
  · obtain ⟨source, he, c, hc⟩ := hf a es₂ e h₂
    exact ⟨source, he, c, List.mem_append_right _ hc⟩
  · cases ho
    exact hs es e h₁
  · cases ho

end FailsIn

variable {agentId modelId id : String} {m : Model} {a : Action} {s : Step} {c : Schedule}
  {fields : List Field} {coding : Bool} {es : List Event}

/-! ## Models -/

theorem saveModel_failsIn : (saveModel agentId m).FailsIn .models :=
  (failsIn_ask _).bind fun _ => failsIn_pure _

theorem appendFields_failsIn : (appendFields modelId fields).FailsIn .models :=
  (failsIn_ask _).bind fun _ => failsIn_pure _

theorem ask_writes {phase : Phase} {call : StoreCall} {o : End call.Value}
    (h : (ask phase call).Trace es o) :
    writes es = [] ∨ ∃ v, writes es = (call.confirmed (.ok v)).toList := by
  rcases trace_ask h with ⟨rfl, -⟩ | ⟨rfl, -⟩ | ⟨v, rfl, -⟩ | ⟨e, rfl, -⟩
  · exact Or.inl rfl
  · exact Or.inl rfl
  · exact Or.inr ⟨v, writes_replied call (.ok v)⟩
  · rw [writes_replied, StoreCall.confirmed_error]
    exact Or.inl rfl

theorem saveModel_writes {o : End (Option StoredModel)} (h : (saveModel agentId m).Trace es o) :
    writes es = [] ∨ ∃ id, writes es = [.model agentId ⟨id, m⟩] := by
  obtain ⟨o', h⟩ := trace_bind_pure_events h
  exact ask_writes h

theorem saveModel_value {r : Option StoredModel} (h : (saveModel agentId m).Trace es (.value r)) :
    ∃ id, r = some ⟨id, m⟩ ∧ Opens es (.model agentId ⟨id, m⟩) [] := by
  obtain ⟨v, es₁, es₂, h₁, h₂, rfl⟩ := trace_bind_value h
  obtain ⟨rfl, ho | ho⟩ := trace_pure.mp h₂ <;> cases ho
  rw [trace_ask_value h₁]
  exact ⟨v, rfl, .of_replied rfl⟩

theorem appendFields_writes {o : End (Option StoredModel)}
    (h : (appendFields modelId fields).Trace es o) :
    writes es = [] ∨ writes es = [.fields modelId fields] := by
  obtain ⟨o', h⟩ := trace_bind_pure_events h
  exact (ask_writes h).imp_right fun ⟨_, hw⟩ => hw

theorem appendFields_value {r : Option StoredModel}
    (h : (appendFields modelId fields).Trace es (.value r)) :
    r = none ∧ Opens es (.fields modelId fields) [] := by
  obtain ⟨v, es₁, es₂, h₁, h₂, rfl⟩ := trace_bind_value h
  obtain ⟨rfl, ho | ho⟩ := trace_pure.mp h₂ <;> cases ho
  rw [trace_ask_value h₁]
  exact ⟨rfl, .of_replied rfl⟩

/-! ## Actions and their steps -/

/-- The assistant is asked, and what it answers decides. -/
theorem prepare_of_asksCode (h : s.asksCode coding) :
    prepare coding a s = .code (.ofStep a s) fun answer => .done (s.prepared coding a answer) := by
  obtain ⟨hk, hr, rfl⟩ := h
  have hs : ¬(s.kind ≠ .customCode ∨ s.isReady = true) := not_or.mpr ⟨not_not.mpr hk, hr⟩
  unfold prepare Step.prepared
  simp only [if_neg hs, Bool.not_true, Bool.false_eq_true, if_false]
  congr
  funext answer
  cases answer with
  | ok g => exact (apply_ite Strand.done _ _ _).symm
  | error e => rfl

theorem prepare_of_not_asksCode (h : ¬s.asksCode coding)
    (answer : Except AssistantError GeneratedCode) :
    prepare coding a s = .done (s.prepared coding a answer) := by
  unfold prepare Step.prepared
  by_cases hs : s.kind ≠ .customCode ∨ s.isReady
  · rw [if_pos hs, if_pos hs]
  · have hc : coding = false := by
      rw [not_or, not_not] at hs
      cases coding with
      | false => rfl
      | true => exact absurd ⟨hs.1, hs.2, rfl⟩ h
    rw [if_neg hs, if_neg hs, hc]
    rfl

/-- Preparing a step writes nothing and never fails; its result is that of some answer. -/
theorem prepare_trace {o : End (Step × Option Warning)} (h : (prepare coding a s).Trace es o) :
    writes es = [] ∧ (o = .cut ∨ ∃ answer, o = .value (s.prepared coding a answer) ∧
      (s.asksCode coding → .coded (.ofStep a s) answer ∈ es)) := by
  by_cases hs : s.asksCode coding
  · rw [prepare_of_asksCode hs] at h
    cases h with
    | cut => exact ⟨rfl, Or.inl rfl⟩
    | code answer h =>
      obtain ⟨rfl, rfl | rfl⟩ := trace_done.mp h
      · exact ⟨rfl, Or.inr ⟨answer, rfl, fun _ => List.mem_cons_self⟩⟩
      · exact ⟨rfl, Or.inl rfl⟩
  · rw [prepare_of_not_asksCode hs (.ok ⟨"", [], []⟩)] at h
    obtain ⟨rfl, rfl | rfl⟩ := trace_done.mp h
    · exact ⟨rfl, Or.inr ⟨_, rfl, fun hask => absurd hask hs⟩⟩
    · exact ⟨rfl, Or.inl rfl⟩

theorem prepare_failsIn : (prepare coding a s).FailsIn .actions := by
  intro es e h
  rcases (prepare_trace h).2 with ho | ⟨answer, ho, -⟩ <;> cases ho

theorem saveSteps_failsIn {i : Nat} {steps : List Step} :
    (saveSteps coding a id i steps).FailsIn .actions := by
  induction steps generalizing i with
  | nil => exact failsIn_pure _
  | cons s rest ih =>
    exact prepare_failsIn.bind fun _ => (failsIn_ask _).bind fun _ => ih.bind fun _ => failsIn_pure _

theorem saveAction_failsIn : (saveAction coding agentId a modelId).FailsIn .actions :=
  (failsIn_ask _).bind fun _ => saveSteps_failsIn.bind fun _ => failsIn_pure _

theorem saveSteps_writes {i : Nat} {steps : List Step} {o : End (List StoredStep × List Warning)}
    (h : (saveSteps coding a id i steps).Trace es o) :
    ∃ stored : List StoredStep, writes es = stored.map (.step id) := by
  induction steps generalizing i es o with
  | nil =>
    obtain ⟨rfl, -⟩ := trace_pure.mp h
    exact ⟨[], rfl⟩
  | cons s rest ih =>
    rcases trace_bind_events h with ⟨r, es₁, es₂, h₁, h₂, rfl⟩ | ⟨o', h₁⟩
    case inr => exact ⟨[], (prepare_trace h₁).1⟩
    rw [writes_append, (prepare_trace h₁).1, List.nil_append]
    have hask {es : List Event} {o : End String} (h : (ask .actions
        (.createStep id (.ofNat i) r.1 r.1.isReady)).Trace es o) :
        ∃ stored : List StoredStep, writes es = stored.map (.step id) := by
      rcases ask_writes h with hw | ⟨v, hw⟩
      · exact ⟨[], hw⟩
      · exact ⟨[⟨v, .ofNat i, r.1.isReady, r.1⟩], hw⟩
    rcases trace_bind_events h₂ with ⟨v, es₃, es₄, h₃, h₄, rfl⟩ | ⟨o', h₃⟩
    case inr => exact hask h₃
    obtain ⟨first, hfirst⟩ := hask h₃
    obtain ⟨o', h₅⟩ := trace_bind_pure_events h₄
    obtain ⟨stored, hst⟩ := ih h₅
    exact ⟨first ++ stored, by rw [writes_append, hfirst, hst, List.map_append]⟩

/-- Steps are written under the identifier that the action got, or not at all. -/
theorem saveAction_writes {o : End (StoredAction × List Warning)}
    (h : (saveAction coding agentId a modelId).Trace es o) :
    writes es = [] ∨ ∃ (id : String) (stored : List StoredStep),
      writes es = .action agentId id modelId a :: stored.map (.step id) := by
  rcases trace_bind_events h with ⟨id, es₁, es₂, h₁, h₂, rfl⟩ | ⟨o', h₁⟩
  · obtain ⟨o', h₃⟩ := trace_bind_pure_events h₂
    obtain ⟨stored, hst⟩ := saveSteps_writes h₃
    rw [writes_append, trace_ask_value h₁, writes_replied, hst]
    exact Or.inr ⟨id, stored, rfl⟩
  · exact (ask_writes h₁).imp_right fun ⟨id, hw⟩ => ⟨id, [], hw⟩

theorem saveSteps_value {i : Nat} {steps : List Step} {r : List StoredStep × List Warning}
    (h : (saveSteps coding a id i steps).Trace es (.value r)) :
    StepsStored coding a es i steps r.1 ∧ writes es = r.1.map (.step id) := by
  induction steps generalizing i es r with
  | nil =>
    obtain ⟨rfl, ho | ho⟩ := trace_pure.mp h <;> cases ho
    exact ⟨⟨.nil, rfl, List.forall_mem_nil _⟩, rfl⟩
  | cons s rest ih =>
    obtain ⟨p, es₁, es₂, h₁, h₂, rfl⟩ := trace_bind_value h
    obtain ⟨v, es₃, es₄, h₃, h₄, rfl⟩ := trace_bind_value h₂
    obtain ⟨t, es₅, es₆, h₅, h₆, rfl⟩ := trace_bind_value h₄
    obtain ⟨rfl, ho | ho⟩ := trace_pure.mp h₆ <;> cases ho
    obtain ⟨hw, ho | ⟨answer, ho, hans⟩⟩ := prepare_trace h₁ <;> cases ho
    obtain ⟨hst, hws⟩ := ih h₅
    have hmem {x : Event} (hx : x ∈ es₅) : x ∈ es₁ ++ (es₃ ++ (es₅ ++ [])) := by simp [hx]
    refine ⟨⟨.cons ⟨answer, fun hask => List.mem_append_left _ (hans hask), rfl⟩ ?_, ?_, ?_⟩, ?_⟩
    · exact hst.prepared.imp fun _ _ ⟨x, hx, ht⟩ => ⟨x, fun hask => hmem (hx hask), ht⟩
    · rw [List.map_cons, hst.positions]
      rfl
    · exact List.forall_mem_cons.mpr ⟨rfl, hst.ready⟩
    · rw [writes_append, writes_append, writes_append, hw, trace_ask_value h₃, writes_replied, hws,
        writes_nil, List.append_nil]
      rfl

theorem saveAction_value {r : StoredAction × List Warning}
    (h : (saveAction coding agentId a modelId).Trace es (.value r)) :
    ∃ (id : String) (stored : List StoredStep), r.1 = .ofAction id modelId a stored ∧
      StepsStored coding a es 0 a.steps stored ∧
      Opens es (.action agentId id modelId a) (stored.map (.step id)) := by
  obtain ⟨id, es₁, es₂, h₁, h₂, rfl⟩ := trace_bind_value h
  obtain ⟨t, es₃, es₄, h₃, h₄, rfl⟩ := trace_bind_value h₂
  obtain ⟨rfl, ho | ho⟩ := trace_pure.mp h₄ <;> cases ho
  obtain ⟨hst, hws⟩ := saveSteps_value h₃
  refine ⟨id, t.1, rfl, ⟨?_, hst.positions, hst.ready⟩, ?_⟩
  · exact hst.prepared.imp fun _ _ ⟨x, hx, ht⟩ =>
      ⟨x, fun hask => List.mem_append_right _ (List.mem_append_left _ (hx hask)), ht⟩
  · rw [trace_ask_value h₁, List.append_nil, ← hws]
    exact .of_replied rfl

/-! ## Schedules and their turns -/

section Schedules

variable {turns : List (ScheduleStep × String × String)}

theorem saveTurns_failsIn : (saveTurns id turns).FailsIn .schedules := by
  induction turns with
  | nil => exact failsIn_pure _
  | cons t rest ih => exact (failsIn_ask _).bind fun _ => ih.bind fun _ => failsIn_pure _

theorem saveSchedule_failsIn : (saveSchedule agentId c turns).FailsIn .schedules :=
  (failsIn_ask _).bind fun _ => saveTurns_failsIn.bind fun _ => failsIn_pure _

theorem saveTurns_writes {o : End (List StoredTurn)} (h : (saveTurns id turns).Trace es o) :
    ∃ stored : List StoredTurn, writes es = stored.map (.turn id) := by
  induction turns generalizing es o with
  | nil =>
    obtain ⟨rfl, -⟩ := trace_pure.mp h
    exact ⟨[], rfl⟩
  | cons t rest ih =>
    obtain ⟨step, modelId, actionId⟩ := t
    have hask {es : List Event} {o : End String} (h : (ask .schedules
        (.createTurn id modelId actionId step)).Trace es o) :
        ∃ stored : List StoredTurn, writes es = stored.map (.turn id) := by
      rcases ask_writes h with hw | ⟨v, hw⟩
      · exact ⟨[], hw⟩
      · exact ⟨[⟨v, modelId, actionId, step⟩], hw⟩
    rcases trace_bind_events h with ⟨v, es₁, es₂, h₁, h₂, rfl⟩ | ⟨o', h₁⟩
    case inr => exact hask h₁
    obtain ⟨first, hfirst⟩ := hask h₁
    obtain ⟨o', h₃⟩ := trace_bind_pure_events h₂
    obtain ⟨stored, hst⟩ := ih h₃
    exact ⟨first ++ stored, by rw [writes_append, hfirst, hst, List.map_append]⟩

theorem saveSchedule_writes {o : End StoredSchedule}
    (h : (saveSchedule agentId c turns).Trace es o) :
    writes es = [] ∨ ∃ (id : String) (stored : List StoredTurn),
      writes es = .schedule agentId id c :: stored.map (.turn id) := by
  rcases trace_bind_events h with ⟨id, es₁, es₂, h₁, h₂, rfl⟩ | ⟨o', h₁⟩
  · obtain ⟨o', h₃⟩ := trace_bind_pure_events h₂
    obtain ⟨stored, hst⟩ := saveTurns_writes h₃
    rw [writes_append, trace_ask_value h₁, writes_replied, hst]
    exact Or.inr ⟨id, stored, rfl⟩
  · exact (ask_writes h₁).imp_right fun ⟨id, hw⟩ => ⟨id, [], hw⟩

theorem saveTurns_value {r : List StoredTurn} (h : (saveTurns id turns).Trace es (.value r)) :
    r.map (fun t => (t.step, t.modelId, t.actionId)) = turns ∧ writes es = r.map (.turn id) := by
  induction turns generalizing es r with
  | nil =>
    obtain ⟨rfl, ho | ho⟩ := trace_pure.mp h <;> cases ho
    exact ⟨rfl, rfl⟩
  | cons t rest ih =>
    obtain ⟨v, es₁, es₂, h₁, h₂, rfl⟩ := trace_bind_value h
    obtain ⟨u, es₃, es₄, h₃, h₄, rfl⟩ := trace_bind_value h₂
    obtain ⟨rfl, ho | ho⟩ := trace_pure.mp h₄ <;> cases ho
    obtain ⟨hst, hws⟩ := ih h₃
    refine ⟨?_, ?_⟩
    · rw [List.map_cons, hst]
    · rw [writes_append, writes_append, trace_ask_value h₁, writes_replied, hws, writes_nil,
        List.append_nil]
      rfl

theorem saveSchedule_value {r : StoredSchedule}
    (h : (saveSchedule agentId c turns).Trace es (.value r)) :
    ∃ (id : String) (stored : List StoredTurn), r = .ofSchedule id c stored ∧
      stored.map (fun t => (t.step, t.modelId, t.actionId)) = turns ∧
      Opens es (.schedule agentId id c) (stored.map (.turn id)) := by
  obtain ⟨id, es₁, es₂, h₁, h₂, rfl⟩ := trace_bind_value h
  obtain ⟨t, es₃, es₄, h₃, h₄, rfl⟩ := trace_bind_value h₂
  obtain ⟨rfl, ho | ho⟩ := trace_pure.mp h₄ <;> cases ho
  obtain ⟨hst, hws⟩ := saveTurns_value h₃
  refine ⟨id, t, rfl, hst, ?_⟩
  rw [trace_ask_value h₁, List.append_nil, ← hws]
  exact .of_replied rfl

end Schedules

end Strand
end AgentSpec
