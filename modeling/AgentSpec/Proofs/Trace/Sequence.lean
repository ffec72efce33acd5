import AgentSpec.Proofs.Trace.Writes

/-!
The order of calls in a trace.

A call is issued in turn when all calls in front of it have been confirmed.  `Carries` says that a
trace works through a list of calls in this way, and `Barrier` that a phase begins only when those
before it are over.
-/
namespace AgentSpec

/-! ## Calls, issued and confirmed -/

/-- The call that a write confirms. -/
def Write.call : Write → StoreCall
  | .agent new _ => .createAgent new
  | .change agentId c _ => .updateAgent agentId c
  | .model agentId m => .createModel agentId m.model
  | .fields modelId fs => .appendFields modelId fs
  | .action agentId _ modelId a => .createAction agentId modelId a
  | .step actionId s => .createStep actionId s.position s.step s.ready
  | .schedule agentId _ c => .createSchedule agentId c
  | .turn scheduleId t => .createTurn scheduleId t.modelId t.actionId t.step

namespace StoreCall

variable {c : StoreCall}

theorem call_of_confirmed {r : c.Reply} {v : Write} (h : c.confirmed r = some v) : v.call = c := by
  cases r with
  | error e =>
    rw [confirmed_error] at h
    cases h
  | ok a => cases c <;> cases h <;> rfl

/-- Success confirms a write, but for loading. -/
theorem exists_confirmed (hc : c.isWrite) (a : c.Value) : ∃ v, c.confirmed (.ok a) = some v := by
  cases c with
  | loadGraph agentId => cases hc
  | _ => exact ⟨_, rfl⟩

end StoreCall

def Event.call? : Event → Option StoreCall
  | .called c => some c
  | _ => none

/-- The calls of a trace, in the order in which they were issued. -/
def issued (es : List Event) : List StoreCall := es.filterMap Event.call?

/-- The calls of a trace that succeeded, in the order of their replies. -/
def succeeded (es : List Event) : List StoreCall := (writes es).map Write.call

section Append

variable {es es' : List Event} {c : StoreCall}

theorem issued_append (es es' : List Event) : issued (es ++ es') = issued es ++ issued es' :=
  List.filterMap_append

theorem succeeded_append (es es' : List Event) :
    succeeded (es ++ es') = succeeded es ++ succeeded es' := by
  rw [succeeded, writes_append, List.map_append]
  rfl

theorem mem_issued : c ∈ issued es ↔ .called c ∈ es := by
  rw [issued, List.mem_filterMap]
  constructor
  · rintro ⟨x, hx, hc⟩
    cases x with
    | called c' =>
      cases hc
      exact hx
    | _ => cases hc
  · exact fun h => ⟨_, h, rfl⟩

theorem exists_replied (h : c ∈ succeeded es) : ∃ r, .replied c r ∈ es := by
  obtain ⟨v, hv, rfl⟩ := List.mem_map.mp h
  obtain ⟨x, hx, hw⟩ := List.mem_filterMap.mp hv
  cases x with
  | replied c r =>
    rw [StoreCall.call_of_confirmed hw]
    exact ⟨r, hx⟩
  | _ => cases hw

end Append

/-! ## One call after the other -/

/-- All calls have succeeded, in the order in which they were issued. -/
def Confirmed (es : List Event) : Prop := issued es = succeeded es

/-- No call is issued while one is awaited or after one that failed. -/
def InTurn (es : List Event) : Prop := ∀ pre c post, es = pre ++ .called c :: post → Confirmed pre

theorem InTurn.of_silent {es : List Event} (h : issued es = []) : InTurn es := by
  intro pre c post hes
  have hmem : c ∈ issued es := mem_issued.mpr (by rw [hes]; simp)
  rw [h] at hmem
  cases hmem

/-- A member of two lists together, in the second one or in the first. -/
theorem split_append {x : ε} {xs ys pre post : List ε} (h : xs ++ ys = pre ++ x :: post) :
    (∃ more, pre = xs ++ more ∧ ys = more ++ x :: post) ∨
      ∃ rest, xs = pre ++ x :: rest ∧ post = rest ++ ys := by
  rcases List.append_eq_append_iff.mp h with ⟨more, hpre, hys⟩ | ⟨more, hxs, hmore⟩
  · exact Or.inl ⟨more, hpre, hys⟩
  · cases more with
    | nil => exact Or.inl ⟨[], by simpa using hxs.symm, by simpa using hmore.symm⟩
    | cons y rest =>
      obtain ⟨rfl, hpost⟩ := List.cons.inj hmore
      exact Or.inr ⟨rest, hxs, hpost⟩

theorem InTurn.append {es es' : List Event} (h : InTurn es) (hs : Confirmed es) (h' : InTurn es') :
    InTurn (es ++ es') := by
  intro pre c post heq
  rcases split_append heq with ⟨more, rfl, hmore⟩ | ⟨rest, hrest, -⟩
  · rw [Confirmed, issued_append, succeeded_append, hs, h' more c post hmore]
  · exact h pre c rest hrest

/-- A trace issues calls of a list in turn: all of them where it goes through, else some of the
first. -/
structure Carries (calls : List StoreCall) (es : List Event) (through : Prop) : Prop where
  prefix_issued : issued es <+: calls
  inTurn : InTurn es
  whole : through → issued es = calls ∧ Confirmed es

namespace Carries

variable {calls more : List StoreCall} {es es' : List Event} {through through' : Prop}

theorem mono (h : Carries calls es through) (himp : through' → through) :
    Carries calls es through' := ⟨h.prefix_issued, h.inTurn, fun ht => h.whole (himp ht)⟩

theorem of_silent (hi : issued es = []) (hw : writes es = []) : Carries [] es through := by
  have hconfirmed : Confirmed es := by simp [Confirmed, succeeded, hi, hw]
  exact ⟨hi ▸ List.prefix_rfl, .of_silent hi, fun _ => ⟨hi, hconfirmed⟩⟩

/-- A trace that goes no further. -/
theorem stop (h : Carries calls es through) (hno : ¬through') :
    Carries (calls ++ more) es through' :=
  ⟨h.prefix_issued.trans (List.prefix_append _ _), h.inTurn, fun ht => absurd ht hno⟩

theorem append (h : Carries calls es True) (h' : Carries more es' through) :
    Carries (calls ++ more) (es ++ es') through := by
  obtain ⟨hissued, hconfirmed⟩ := h.whole trivial
  refine ⟨?_, h.inTurn.append hconfirmed h'.inTurn, fun ht => ?_⟩
  · rw [issued_append, hissued, List.prefix_append_right_inj]
    exact h'.prefix_issued
  · obtain ⟨hissued', hconfirmed'⟩ := h'.whole ht
    refine ⟨?_, ?_⟩
    · rw [issued_append, hissued, hissued']
    · rw [Confirmed, issued_append, succeeded_append, hconfirmed, hconfirmed']

end Carries

/-- The trace ends with a result. -/
def End.IsValue (o : End α) : Prop := ∃ a, o = .value a

theorem End.isValue_value (a : α) : (End.value a).IsValue := ⟨a, rfl⟩

theorem End.not_isValue_error (e : CompileError) : ¬(End.error e : End α).IsValue := by
  rintro ⟨a, ha⟩
  cases ha

theorem End.not_isValue_cut : ¬(End.cut : End α).IsValue := by
  rintro ⟨a, ha⟩
  cases ha

namespace Strand

/-- A trace gets through the first part, or it ends there without a result. -/
theorem trace_bind_through {s : Strand α} {f : α → Strand β} {es : List Event} {o : End β}
    (h : (s >>= f).Trace es o) :
    (∃ a es₁ es₂, s.Trace es₁ (.value a) ∧ (f a).Trace es₂ o ∧ es = es₁ ++ es₂) ∨
      ∃ o', s.Trace es o' ∧ ¬o.IsValue := by
  rcases trace_bind h with h | ⟨e, h₁, rfl⟩ | ⟨h₁, rfl⟩
  · exact Or.inl h
  · exact Or.inr ⟨_, h₁, End.not_isValue_error e⟩
  · exact Or.inr ⟨_, h₁, End.not_isValue_cut⟩

/-- What is made of a result adds no events. -/
theorem trace_bind_pure {s : Strand α} {f : α → β} {es : List Event} {o : End β}
    (h : (s >>= fun a => pure (f a)).Trace es o) :
    ∃ o', s.Trace es o' ∧ (o.IsValue → o'.IsValue) := by
  rcases trace_bind_through h with ⟨a, es₁, es₂, h₁, h₂, rfl⟩ | ⟨o', h₁, hno⟩
  · obtain ⟨rfl, -⟩ := trace_pure.mp h₂
    rw [List.append_nil]
    exact ⟨_, h₁, fun _ => End.isValue_value a⟩
  · exact ⟨o', h₁, fun ho => absurd ho hno⟩

theorem ask_carries {phase : Phase} {c : StoreCall} (hc : c.isWrite) {es : List Event}
    {o : End c.Value} (h : (ask phase c).Trace es o) : Carries [c] es o.IsValue := by
  have hone (rest : List Event) (hrest : issued rest = []) : InTurn (.called c :: rest) := by
    intro pre d post heq
    cases pre with
    | nil => rfl
    | cons x pre =>
      have hmem : d ∈ issued rest := mem_issued.mpr (by rw [(List.cons.inj heq).2]; simp)
      rw [hrest] at hmem
      cases hmem
  rcases trace_ask h with ⟨rfl, rfl⟩ | ⟨rfl, rfl⟩ | ⟨v, rfl, ho⟩ | ⟨e, rfl, ho⟩
  · exact ⟨List.nil_prefix, .of_silent rfl, fun ho => absurd ho End.not_isValue_cut⟩
  · exact ⟨List.prefix_rfl, hone [] rfl, fun ho => absurd ho End.not_isValue_cut⟩
  · refine ⟨List.prefix_rfl, hone _ rfl, fun _ => ⟨rfl, ?_⟩⟩
    obtain ⟨w, hw⟩ := StoreCall.exists_confirmed hc v
    rw [Confirmed, succeeded, writes_replied, hw]
    exact congrArg (· :: []) (StoreCall.call_of_confirmed hw).symm
  · refine ⟨List.prefix_rfl, hone _ rfl, fun hvalue => ?_⟩
    rcases ho with rfl | rfl
    · exact absurd hvalue (End.not_isValue_error _)
    · exact absurd hvalue End.not_isValue_cut

theorem ask_value_carries {phase : Phase} {c : StoreCall} (hc : c.isWrite) {es : List Event}
    {v : c.Value} (h : (ask phase c).Trace es (.value v)) : Carries [c] es True :=
  (ask_carries hc h).mono fun _ => End.isValue_value v

end Strand

/-! ## Phases -/

/-- The part of a run that a call belongs to. -/
def StoreCall.phase : StoreCall → Phase
  | .createAgent _ | .updateAgent _ _ => .agent
  | .loadGraph _ => .load
  | .createModel _ _ | .appendFields _ _ => .models
  | .createAction _ _ _ | .createStep _ _ _ _ => .actions
  | .createSchedule _ _ | .createTurn _ _ _ _ => .schedules

/-- Phases that store a graph come one after the other. -/
def Phase.rank : Phase → Nat
  | .agent | .load => 0
  | .models => 1
  | .actions => 2
  | .schedules => 3

/-- The phase of a call and of its reply.  Only for actions the assistant is asked for code. -/
def Event.phase? : Event → Option Phase
  | .called c | .replied c _ => some c.phase
  | .coded _ _ => some .actions
  | .designed _ _ | .told _ => none

/-- What belongs to a phase at all belongs to this one. -/
def InPhase (phase : Phase) (es : List Event) : Prop :=
  ∀ x ∈ es, ∀ other, x.phase? = some other → other = phase

/-- The events of a phase. -/
def during (phase : Phase) (es : List Event) : List Event := es.filter (·.phase? == some phase)

theorem during_append (phase : Phase) (es es' : List Event) :
    during phase (es ++ es') = during phase es ++ during phase es' := List.filter_append ..

namespace InPhase

variable {phase other : Phase} {es es' : List Event}

theorem nil : InPhase phase [] := List.forall_mem_nil _

theorem append (h : InPhase phase es) (h' : InPhase phase es') : InPhase phase (es ++ es') :=
  List.forall_mem_append.mpr ⟨h, h'⟩

theorem phase_of_issued (h : InPhase phase es) {c : StoreCall} (hc : c ∈ issued es) :
    c.phase = phase := h _ (mem_issued.mp hc) _ rfl

theorem phase_of_succeeded (h : InPhase phase es) {c : StoreCall} (hc : c ∈ succeeded es) :
    c.phase = phase := by
  obtain ⟨r, hr⟩ := exists_replied hc
  exact h _ hr _ rfl

theorem rank_of_issued (h : InPhase phase es) {c : StoreCall} (hc : c ∈ issued es) :
    c.phase.rank = phase.rank := congrArg Phase.rank (h.phase_of_issued hc)

theorem during_other (h : InPhase phase es) (hne : other ≠ phase) : during other es = [] := by
  refine List.filter_eq_nil_iff.mpr fun x hx hphase => hne ?_
  exact h x hx other (beq_iff_eq.mp hphase)

theorem issued_other (h : InPhase phase es) (hne : other ≠ phase) :
    (issued es).filter (·.phase == other) = [] := by
  refine List.filter_eq_nil_iff.mpr fun c hc hphase => hne ?_
  rw [← h.phase_of_issued hc, beq_iff_eq.mp hphase]

theorem succeeded_other (h : InPhase phase es) (hne : other ≠ phase) :
    (succeeded es).filter (·.phase == other) = [] := by
  refine List.filter_eq_nil_iff.mpr fun c hc hphase => hne ?_
  rw [← h.phase_of_succeeded hc, beq_iff_eq.mp hphase]

end InPhase

/-- All events of the strand belong to the phase. -/
def Strand.Within (phase : Phase) (s : Strand α) : Prop :=
  ∀ es o, s.Trace es o → ∀ x ∈ es, x.phase? = some phase

namespace Strand

variable {phase : Phase} {s : Strand α} {f : α → Strand β}

theorem within_pure (a : α) : (pure a : Strand α).Within phase := by
  intro es o h x hx
  rw [(trace_pure.mp h).1] at hx
  cases hx

theorem within_ask {c : StoreCall} (hc : c.phase = phase) {other : Phase} :
    (ask other c).Within phase := by
  intro es o h x hx
  rw [← hc]
  rcases trace_ask h with ⟨rfl, -⟩ | ⟨rfl, -⟩ | ⟨v, rfl, -⟩ | ⟨e, rfl, -⟩
  · cases hx
  · rw [List.mem_singleton.mp hx]
    rfl
  · rcases List.mem_pair.mp hx with rfl | rfl <;> rfl
  · rcases List.mem_pair.mp hx with rfl | rfl <;> rfl

theorem Within.bind (hs : s.Within phase) (hf : ∀ a, (f a).Within phase) :
    (s >>= f).Within phase := by
  intro es o h x hx
  rcases trace_bind_events h with ⟨a, es₁, es₂, h₁, h₂, rfl⟩ | ⟨o', h₁⟩
  · rcases List.mem_append.mp hx with hx | hx
    · exact hs es₁ _ h₁ x hx
    · exact hf a es₂ o h₂ x hx
  · exact hs es o' h₁ x hx

end Strand

/-! ## Phases one after the other -/

/-- When a call is issued, the calls of all earlier phases have succeeded: all that are there. -/
def Barrier (es : List Event) : Prop :=
  ∀ pre c post, es = pre ++ .called c :: post → ∀ phase : Phase, phase.rank < c.phase.rank →
    ((succeeded pre).filter (·.phase == phase)).Perm ((issued es).filter (·.phase == phase))

theorem Barrier.nil : Barrier [] := by
  intro pre c post heq
  have hmem : Event.called c ∈ ([] : List Event) := by
    rw [heq]
    simp
  cases hmem

/-- A later phase behind earlier ones.  If there is anything of it, their calls have all succeeded;
a phase that leaves no events puts up no barrier. -/
theorem Barrier.append {es es' : List Event} {phase : Phase} (h : Barrier es)
    (hall : es' ≠ [] → (succeeded es).Perm (issued es))
    (hearlier : ∀ c ∈ issued es, c.phase.rank < phase.rank)
    (hphase : InPhase phase es') : Barrier (es ++ es') := by
  intro pre c post heq earlier hlt
  have hle : c.phase.rank ≤ phase.rank := by
    have hc : c ∈ issued (es ++ es') := mem_issued.mpr (by rw [heq]; simp)
    rcases List.mem_append.mp (issued_append es es' ▸ hc) with hc | hc
    · exact Nat.le_of_lt (hearlier c hc)
    · exact Nat.le_of_eq (hphase.rank_of_issued hc)
  have hne : earlier ≠ phase := by
    rintro rfl
    omega
  rw [issued_append, List.filter_append, hphase.issued_other hne, List.append_nil]
  rcases split_append heq with ⟨more, rfl, hmore⟩ | ⟨rest, hrest, -⟩
  · have hne' : es' ≠ [] := by
      rw [hmore]
      exact List.append_ne_nil_of_right_ne_nil _ (List.cons_ne_nil _ _)
    have hbefore : InPhase phase more := by
      intro x hx
      refine hphase x ?_
      rw [hmore]
      exact List.mem_append_left _ hx
    rw [succeeded_append, List.filter_append, hbefore.succeeded_other hne, List.append_nil]
    exact (hall hne').filter _
  · exact h pre c rest hrest earlier hlt

end AgentSpec
