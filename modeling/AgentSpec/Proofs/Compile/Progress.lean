import AgentSpec.Proofs.Compile.Soundness
import AgentSpec.Proofs.Persist.Order

/-!
What a run tells of its progress.

Four milestones can be told, and each covers the writes since the one before it.  `Truthful` says
of a trace that the first so many of them were told, each when its writes were all confirmed and
before any later one was issued.  A part of a program advances from one number of milestones to
another if it leads from truthful traces to truthful ones; parts that follow each other add up
(`Advances.bind`), so the whole is read off the parts.  Nothing is assumed of the replies, of the
order in which strands take their turns, or of where a trace stops.  Main statement:
`Compiler.progress_truthful`.
-/
namespace AgentSpec

/-! ## Milestones and what they cover -/

/-- The place of a milestone among all of them. -/
def Milestone.number : Milestone → Nat
  | .models _ => 1
  | .actions _ _ => 2
  | .schedules _ => 3
  | .complete _ _ => 4

/-- The number of the milestone that covers a write. -/
def StoreCall.milestone : StoreCall → Nat
  | .loadGraph _ => 0
  | .createAgent _ | .createModel _ _ | .appendFields _ _ => 1
  | .createAction _ _ _ | .createStep _ _ _ _ => 2
  | .createSchedule _ _ | .createTurn _ _ _ _ => 3
  | .updateAgent _ _ => 4

def Event.milestone? : Event → Option Milestone
  | .told m => some m
  | _ => none

/-- What was told, in order. -/
def milestones (es : List Event) : List Milestone := es.filterMap Event.milestone?

/-- The writes that were issued, whatever came of them. -/
def attempted (es : List Event) : List StoreCall := (issued es).filter (·.isWrite)

/-- Every write that was issued has succeeded. -/
def Cleared (es : List Event) : Prop := (succeeded es).Perm (attempted es)

section Append

variable {es es' : List Event} {m : Milestone} {c : StoreCall}

theorem mem_milestones : m ∈ milestones es ↔ .told m ∈ es := by
  rw [milestones, List.mem_filterMap]
  constructor
  · rintro ⟨x, hx, hm⟩
    cases x with
    | told m' =>
      cases hm
      exact hx
    | _ => cases hm
  · exact fun h => ⟨_, h, rfl⟩

theorem milestones_append (es es' : List Event) :
    milestones (es ++ es') = milestones es ++ milestones es' := List.filterMap_append

theorem attempted_append (es es' : List Event) :
    attempted (es ++ es') = attempted es ++ attempted es' := by
  rw [attempted, issued_append, List.filter_append]
  rfl

theorem Cleared.append (h : Cleared es) (h' : Cleared es') : Cleared (es ++ es') := by
  rw [Cleared, succeeded_append, attempted_append]
  exact List.Perm.append h h'

/-- A call that was answered without an error. -/
theorem cleared_replied (c : StoreCall) (v : c.Value) :
    Cleared [.called c, .replied c (.ok v)] := by
  by_cases hc : c.isWrite
  · obtain ⟨write, hwrite⟩ := StoreCall.exists_confirmed hc v
    have hcall : succeeded [.called c, .replied c (.ok v)] = [c] := by
      rw [succeeded, writes_replied, hwrite]
      exact congrArg (· :: []) (StoreCall.call_of_confirmed hwrite)
    have hissued : attempted [.called c, .replied c (.ok v)] = [c] := List.filter_cons_of_pos hc
    rw [Cleared, hcall, hissued]
  · cases c with
    | loadGraph agentId => exact List.Perm.refl _
    | _ => exact absurd rfl hc

end Append

/-- The first so many milestones were told.  When one was told, all writes up to then had succeeded
and are covered by it, and all writes issued later are not.  Nothing follows the last one. -/
structure Truthful (n : Nat) (es : List Event) : Prop where
  numbers : (milestones es).map (·.number) = List.range' 1 n
  covered : ∀ c ∈ attempted es, c.milestone ≤ n + 1
  between : ∀ pre m post, es = pre ++ .told m :: post →
    Cleared pre ∧ (∀ c ∈ attempted pre, c.milestone ≤ m.number) ∧
    (∀ c ∈ attempted post, m.number < c.milestone) ∧ (m.number = 4 → post = [])

namespace Truthful

variable {n : Nat} {es es' : List Event} {m : Milestone}

theorem nil : Truthful 0 [] := by
  refine ⟨rfl, List.forall_mem_nil _, fun pre m post heq => ?_⟩
  have hmem : Event.told m ∈ ([] : List Event) := by
    rw [heq]
    simp
  cases hmem

theorem number_le (h : Truthful n es) (hm : .told m ∈ es) : m.number ≤ n := by
  have hmem : m.number ∈ List.range' 1 n :=
    h.numbers ▸ List.mem_map_of_mem (mem_milestones.mpr hm)
  have hlt := (List.mem_range'_1.mp hmem).2
  omega

/-- More of what the next milestone covers. -/
theorem extend (h : Truthful n es) (hn : n < 4) (hnone : milestones es' = [])
    (hcovered : ∀ c ∈ attempted es', c.milestone = n + 1) : Truthful n (es ++ es') := by
  refine ⟨?_, ?_, fun pre m post heq => ?_⟩
  · rw [milestones_append, hnone, List.append_nil]
    exact h.numbers
  · rw [attempted_append]
    exact List.forall_mem_append.mpr ⟨h.covered, fun c hc => Nat.le_of_eq (hcovered c hc)⟩
  · rcases split_append heq with ⟨more, -, hmore⟩ | ⟨rest, hrest, rfl⟩
    · have hmem : m ∈ milestones es' := mem_milestones.mpr (by rw [hmore]; simp)
      rw [hnone] at hmem
      cases hmem
    · obtain ⟨hcleared, hbefore, hafter, -⟩ := h.between pre m rest hrest
      have hle : m.number ≤ n := h.number_le (by rw [hrest]; simp)
      refine ⟨hcleared, hbefore, ?_, fun hlast => by omega⟩
      rw [attempted_append]
      refine List.forall_mem_append.mpr ⟨hafter, fun c hc => ?_⟩
      have hc := hcovered c hc
      omega

/-- The next milestone, when all writes have succeeded. -/
theorem tell (h : Truthful n es) (hcleared : Cleared es) (hn : n < 4) (hm : m.number = n + 1) :
    Truthful (n + 1) (es ++ [.told m]) := by
  refine ⟨?_, ?_, fun pre m' post heq => ?_⟩
  · rw [milestones_append, List.map_append, h.numbers, List.range'_1_concat, Nat.add_comm 1 n, ← hm]
    rfl
  · rw [attempted_append]
    refine List.forall_mem_append.mpr ⟨fun c hc => ?_, List.forall_mem_nil _⟩
    exact Nat.le_succ_of_le (h.covered c hc)
  · rcases split_append heq with ⟨more, rfl, hmore⟩ | ⟨rest, hrest, rfl⟩
    · obtain ⟨rfl, hlast⟩ := List.append_eq_singleton_iff.mp hmore.symm |>.resolve_right (by simp)
      obtain ⟨hevent, rfl⟩ := List.cons.inj hlast
      cases hevent
      rw [List.append_nil, hm]
      exact ⟨hcleared, h.covered, List.forall_mem_nil _, fun _ => rfl⟩
    · obtain ⟨hbefore, hcovered, hafter, -⟩ := h.between pre m' rest hrest
      have hle : m'.number ≤ n := h.number_le (by rw [hrest]; simp)
      refine ⟨hbefore, hcovered, ?_, fun hlast => by omega⟩
      rw [attempted_append]
      exact List.forall_mem_append.mpr ⟨hafter, List.forall_mem_nil _⟩

end Truthful

/-! ## Parts of programs -/

/-- From a truthful trace with `n` milestones the part leads to one with `k`, if it has a result;
one that fails was not the last part. -/
def Program.Advances (p : Program α) (n k : Nat) : Prop :=
  ∀ (w : Weave) (pre es : List Event) (o : End α), Truthful n pre → Cleared pre → p.Trace w es o →
    ∃ j, Truthful j (pre ++ es) ∧ (o.IsValue → j = k ∧ Cleared (pre ++ es)) ∧
      ((∃ e, o = .error e) → j < 4)

namespace Program.Advances

variable {n m k : Nat} {p : Program α} {f : α → Program β}

theorem bind (hp : p.Advances n m) (hf : ∀ a, (f a).Advances m k) : (p >>= f).Advances n k := by
  intro w pre es o htruthful hcleared h
  rcases trace_bind h with ⟨a, es₁, es₂, h₁, h₂, rfl⟩ | ⟨e, h₁, rfl⟩ | ⟨h₁, rfl⟩
  · obtain ⟨j, htruthful₁, hvalue, -⟩ := hp w pre es₁ _ htruthful hcleared h₁
    obtain ⟨rfl, hcleared₁⟩ := hvalue (End.isValue_value a)
    rw [← List.append_assoc]
    exact hf a w _ es₂ o htruthful₁ hcleared₁ h₂
  · obtain ⟨j, htruthful₁, -, herror⟩ := hp w pre es _ htruthful hcleared h₁
    exact ⟨j, htruthful₁, fun hvalue => absurd hvalue (End.not_isValue_error e),
      fun _ => herror ⟨e, rfl⟩⟩
  · obtain ⟨j, htruthful₁, -, -⟩ := hp w pre es _ htruthful hcleared h₁
    refine ⟨j, htruthful₁, fun hvalue => absurd hvalue End.not_isValue_cut, ?_⟩
    rintro ⟨e, he⟩
    cases he

/-- What tells nothing and issues only writes that the next milestone covers.  With a result, they
have succeeded. -/
theorem of_untold (hn : n < 4)
    (h : ∀ (w : Weave) (es : List Event) (o : End α), p.Trace w es o → milestones es = [] ∧
      (∀ c ∈ attempted es, c.milestone = n + 1) ∧ (o.IsValue → Cleared es)) : p.Advances n n := by
  intro w pre es o htruthful hcleared htrace
  obtain ⟨hnone, hcovered, hvalue⟩ := h w es o htrace
  exact ⟨n, htruthful.extend hn hnone hcovered, fun ho => ⟨rfl, hcleared.append (hvalue ho)⟩,
    fun _ => hn⟩

theorem pure (n : Nat) (a : α) : (Pure.pure a : Program α).Advances n n := by
  intro w pre es o htruthful hcleared h
  obtain ⟨rfl, ho⟩ := trace_pure.mp h
  rw [List.append_nil]
  refine ⟨n, htruthful, fun _ => ⟨rfl, hcleared⟩, ?_⟩
  rintro ⟨e, rfl⟩
  rcases ho with ho | ho <;> cases ho

theorem failed (hn : n < 4) (e : CompileError) : (Program.failed e : Program α).Advances n k := by
  intro w pre es o htruthful hcleared h
  obtain ⟨rfl, ho⟩ := trace_failed.mp h
  rw [List.append_nil]
  refine ⟨n, htruthful, ?_, fun _ => hn⟩
  rintro ⟨a, rfl⟩
  rcases ho with ho | ho <;> cases ho

theorem ofExcept (hn : n < 4) (r : Except CompileError α) : (Program.ofExcept r).Advances n n := by
  cases r with
  | ok a => exact .pure n a
  | error e => exact .failed hn e

theorem resolved (hn : n < 4) (r : Except (List Issue) α) : (Program.resolved r).Advances n n :=
  .ofExcept hn _

/-- One call: a read, or a write that the next milestone covers. -/
theorem ask (hn : n < 4) {c : StoreCall} (hc : c.isWrite → c.milestone = n + 1) (phase : Phase) :
    (Program.ask phase c).Advances n n := by
  refine of_untold hn fun w es o h => ?_
  have hcovered {es : List Event} (hes : issued es = [c]) :
      ∀ d ∈ attempted es, d.milestone = n + 1 := by
    intro d hd
    obtain ⟨hmem, hwrite⟩ := List.mem_filter.mp hd
    rw [hes] at hmem
    obtain rfl := List.mem_singleton.mp hmem
    exact hc hwrite
  rcases trace_ask h with ⟨rfl, rfl⟩ | ⟨rfl, rfl⟩ | ⟨v, rfl, -⟩ | ⟨e, rfl, ho⟩
  · exact ⟨rfl, List.forall_mem_nil _, fun ho => absurd ho End.not_isValue_cut⟩
  · exact ⟨rfl, hcovered rfl, fun ho => absurd ho End.not_isValue_cut⟩
  · exact ⟨rfl, hcovered rfl, fun _ => cleared_replied c v⟩
  · refine ⟨rfl, hcovered rfl, ?_⟩
    rintro ⟨v, rfl⟩
    rcases ho with ho | ho <;> cases ho

theorem design (hn : n < 4) {r : SynthesisRequest} {k : Except AssistantError Json → Program α}
    (hk : ∀ a, (k a).Advances n m) : (Program.design r k).Advances n m := by
  intro w pre es o htruthful hcleared h
  rcases trace_design h with ⟨rfl, rfl⟩ | ⟨a, es', rfl, h'⟩
  · rw [List.append_nil]
    refine ⟨n, htruthful, fun ho => absurd ho End.not_isValue_cut, fun _ => hn⟩
  · rw [← List.singleton_append, ← List.append_assoc]
    exact hk a w _ es' o (htruthful.extend hn rfl (List.forall_mem_nil _))
      (hcleared.append (List.Perm.refl _)) h'

/-- The next milestone is told. -/
theorem tell (hn : n < 4) {m : Milestone} (hm : m.number = n + 1) :
    (Program.tell m).Advances n (n + 1) := by
  intro w pre es o htruthful hcleared h
  rcases trace_tell h with ⟨rfl, rfl⟩ | ⟨rfl, ho⟩
  · rw [List.append_nil]
    exact ⟨n, htruthful, fun ho => absurd ho End.not_isValue_cut, fun _ => hn⟩
  · refine ⟨n + 1, htruthful.tell hcleared hn hm, fun _ => ⟨rfl, hcleared.append (.refl _)⟩, ?_⟩
    rintro ⟨e, rfl⟩
    rcases ho with ho | ho <;> cases ho

/-- Strands of one phase, each of which issues its calls in turn. -/
theorem all (hn : n < 4) {phase : Phase} (hload : phase ≠ .load)
    (hphase : ∀ c : StoreCall, c.phase = phase → c.milestone = n + 1) {strands : List (Strand β)}
    (hwithin : ∀ s ∈ strands, s.Within phase)
    (hconfirmed : ∀ s ∈ strands, ∀ es o, s.Trace es o → o.IsValue → Confirmed es) :
    (Program.all strands).Advances n n := by
  refine of_untold hn fun w es o h => ?_
  have ht := trace_all h
  have hevents : ∀ x ∈ es, x.phase? = some phase := by
    intro x hx
    obtain ⟨s, hs, l, q, htr, hl, -⟩ := ht.exists_trace hx
    exact hwithin s hs l q htr x hl
  have hcalls : ∀ c ∈ issued es, c.phase = phase := fun c hc =>
    Option.some.inj (hevents _ (mem_issued.mp hc))
  refine ⟨?_, fun c hc => hphase c (hcalls c (List.mem_of_mem_filter hc)), fun ho => ?_⟩
  · refine List.filterMap_eq_nil_iff.mpr fun x hx => ?_
    cases x with
    | told m => cases hevents _ hx
    | _ => rfl
  · obtain ⟨parts, hparts, hi⟩ := ht.sideBySide
    have hside : SideBySide (fun _ l => Confirmed l) strands es := by
      refine ⟨parts, forall₂_imp_mem hparts fun s l hs _ hl => ?_, hi⟩
      obtain ⟨q, htr, hq⟩ := hl
      exact hconfirmed s hs l q htr (hq ho)
    have hwrites : attempted es = issued es := by
      refine List.filter_eq_self.mpr fun c hc => ?_
      have hc := hcalls c hc
      cases c with
      | loadGraph agentId => exact absurd hc.symm hload
      | _ => rfl
    rw [Cleared, hwrites]
    exact hside.succeeded_perm fun _ _ hl => hl

theorem stage (hn : n < 4) (phase : Phase) (hload : phase ≠ .load)
    (hphase : ∀ c : StoreCall, c.phase = phase → c.milestone = n + 1)
    {plan : Except (List Issue) γ} {strands : γ → List (Strand β)} {milestone : List β → Milestone}
    {result : List β → δ} (hwithin : ∀ p, ∀ s ∈ strands p, s.Within phase)
    (hconfirmed : ∀ p, ∀ s ∈ strands p, ∀ es o, s.Trace es o → o.IsValue → Confirmed es)
    (hnumber : ∀ bs, (milestone bs).number = n + 1) :
    (Program.stage plan strands milestone result).Advances n (n + 1) :=
  (resolved hn plan).bind fun p => (all hn hload hphase (hwithin p) (hconfirmed p)).bind fun bs =>
    (tell hn (hnumber bs)).bind fun _ => .pure _ _

/-! ### Storing a graph -/

section Save

variable {agentId : String} {models : List Model} {additions : Additions} {actions : List Action}
  {schedules : List Schedule} {known : Known} {coding : Bool}

theorem saveModels : (saveModels agentId models additions known).Advances 0 1 := by
  rw [saveModels_eq]
  refine stage (by decide) .models (by decide) (fun c hc => ?_) modelStrands_within
    (fun appends s hs es o h ho => ?_) fun _ => rfl
  · cases c <;> cases hc <;> rfl
  · obtain ⟨c, -, hcarries⟩ := forall₂_mem_right (modelStrands_carries agentId models appends) hs
    exact ((hcarries es o h).whole ho).2

theorem saveActions : (saveActions coding agentId actions known).Advances 1 2 := by
  rw [saveActions_eq]
  refine stage (by decide) .actions (by decide) (fun c hc => ?_)
    (fun targets s hs => ?_) (fun targets s hs es o h ho => ?_) fun _ => rfl
  · cases c <;> cases hc <;> rfl
  · obtain ⟨t, -, rfl⟩ := List.mem_map.mp hs
    exact Strand.saveAction_within
  · obtain ⟨t, -, rfl⟩ := List.mem_map.mp hs
    obtain ⟨id, ts, -, -, hcarries⟩ := Strand.saveAction_carries h
    exact (hcarries.whole ho).2

theorem saveSchedules : (saveSchedules agentId schedules known).Advances 2 3 := by
  rw [saveSchedules_eq]
  refine stage (by decide) .schedules (by decide) (fun c hc => ?_)
    (fun plans s hs => ?_) (fun plans s hs es o h ho => ?_) fun _ => rfl
  · cases c <;> cases hc <;> rfl
  · obtain ⟨t, -, rfl⟩ := List.mem_map.mp hs
    exact Strand.saveSchedule_within
  · obtain ⟨t, -, rfl⟩ := List.mem_map.mp hs
    obtain ⟨id, -, hcarries⟩ := Strand.saveSchedule_carries h
    exact (hcarries.whole ho).2

theorem save {g : Graph} : (save coding agentId g additions known).Advances 0 3 :=
  saveModels.bind fun _ => saveActions.bind fun _ => saveSchedules.bind fun _ => .pure _ _

end Save

end Program.Advances

/-! ## Compilations and updates -/

namespace Compiler

open Program (Advances)

theorem graphOf_advances (c : Compiler) (r : CompileRequest) : (c.graphOf r).Advances 0 0 := by
  unfold graphOf
  cases r.source with
  | graph g => exact .pure _ _
  | features wanted connections =>
    simp only
    split
    · exact .failed (by decide) _
    · refine .design (by decide) fun answer => ?_
      cases answer with
      | error fault => exact .failed (by decide) _
      | ok answer => exact .ofExcept (by decide) _

theorem stored_advances {n : Nat} (hn : n < 4) (agentId : String) :
    (stored agentId).Advances n n := by
  have hread : (StoreCall.loadGraph agentId).isWrite →
      (StoreCall.loadGraph agentId).milestone = n + 1 := fun h => absurd h Bool.false_ne_true
  refine .bind (.ask hn hread _) fun found => ?_
  cases found with
  | none => exact .failed hn _
  | some g => exact .pure _ _

theorem finish_advances (verb : Verb) (graph : StoredGraph) (counts : Counts)
    (warnings : List Warning) : (finish verb graph counts warnings).Advances 3 4 :=
  .bind (.tell (by decide) rfl) fun _ => .pure _ _

theorem compile_advances (c : Compiler) (r : CompileRequest) : (c.compile r).Advances 0 4 := by
  refine .bind (.ofExcept (by decide) _) fun _ => ?_
  refine .bind (c.graphOf_advances r) fun (g, permitted) => ?_
  refine .bind (.resolved (by decide) _) fun e => ?_
  refine .bind (.ask (by decide) (fun _ => rfl) _) fun agent => ?_
  exact .bind .save fun saved => finish_advances _ _ _ _

theorem extend_advances (c : Compiler) (r : UpdateRequest) : (c.extend r).Advances 0 4 := by
  refine .bind (.ofExcept (by decide) _) fun _ =>
    .bind (stored_advances (by decide) _) fun existing => ?_
  by_cases howner : existing.agent.ownerId ≠ r.ownerId
  · rw [if_pos howner]
    exact .failed (by decide) _
  · rw [if_neg howner]
    refine .bind (.resolved (by decide) _) fun e => .bind .save fun saved => ?_
    refine .bind (.ask (by decide) (fun _ => rfl) _) fun agent => ?_
    exact .bind (stored_advances (by decide) _) fun graph => finish_advances _ _ _ _

end Compiler

/-! ## Whole runs -/

/-- What a whole run shows, in order: the part that has ended and how much is done. -/
def Milestone.course : List (String × Nat) :=
  [("models", 25), ("actions", 50), ("schedules", 75), ("complete", 100)]

def Milestone.shown (m : Milestone) : String × Nat := (m.stage, m.percent)

/-- What waits for a run is told the truth.  The milestones come in order and show the part of the
run that is done, all of them in a run that ends with a result and in no other that ends.  When one
is told, each write up to then has succeeded and belongs to this part or an earlier one, and each
later write belongs to a later part.  Behind the last one nothing happens. -/
structure ProgressTruthful (es : List Event) (o : End Outcome) : Prop where
  inOrder : (milestones es).map (·.shown) <+: Milestone.course
  all_iff : o ≠ .cut → ((milestones es).length = 4 ↔ o.IsValue)
  between : ∀ pre m post, es = pre ++ .told m :: post →
    (succeeded pre).Perm ((issued pre).filter (·.isWrite)) ∧
    (∀ c ∈ issued pre, c.isWrite → c.milestone ≤ m.number) ∧
    ∀ c ∈ issued post, c.isWrite → m.number < c.milestone
  last : ∀ pre verb agent post, es = pre ++ .told (.complete verb agent) :: post → post = []

theorem Milestone.number_le (m : Milestone) : m.number ≤ 4 := by
  cases m <;> simp [number]

/-- A milestone is told by its number. -/
theorem Milestone.shown_eq (m : Milestone) :
    m.shown = (course[m.number - 1]?).getD ("", 0) := by
  cases m <;> rfl

theorem Truthful.le_four {n : Nat} {es : List Event} (h : Truthful n es) : n ≤ 4 := by
  by_contra hn
  have hmem : n ∈ (milestones es).map (·.number) := by
    rw [h.numbers]
    exact List.mem_range'_1.mpr ⟨by omega, by omega⟩
  obtain ⟨m, -, hm⟩ := List.mem_map.mp hmem
  have hle := m.number_le
  omega

theorem Truthful.length_eq {n : Nat} {es : List Event} (h : Truthful n es) :
    (milestones es).length = n := by
  rw [← List.length_map (f := Milestone.number), h.numbers, List.length_range']

theorem Truthful.inOrder {n : Nat} {es : List Event} (h : Truthful n es) :
    (milestones es).map (·.shown) <+: Milestone.course := by
  have hshown : (milestones es).map (·.shown) =
      ((milestones es).map (·.number)).map fun i => (Milestone.course[i - 1]?).getD ("", 0) := by
    rw [List.map_map]
    exact List.map_congr_left fun m _ => m.shown_eq
  have hfirst : List.range' 1 n <+: List.range' 1 4 := by
    have hn := h.le_four
    refine ⟨List.range' (1 + n) (4 - n), ?_⟩
    rw [List.range'_append_1, Nat.add_sub_cancel' hn]
  rw [hshown, h.numbers]
  exact hfirst.map _

theorem Program.Advances.progressTruthful {p : Program Outcome} (h : p.Advances 0 4) {w : Weave}
    {es : List Event} {o : End Outcome} (htrace : p.Trace w es o) : ProgressTruthful es o := by
  obtain ⟨j, htruthful, hvalue, herror⟩ := h w [] es o .nil (.refl _) htrace
  rw [List.nil_append] at htruthful hvalue
  refine ⟨htruthful.inOrder, fun hcut => ?_, fun pre m post heq => ?_,
    fun pre verb agent post heq => ?_⟩
  · rw [htruthful.length_eq]
    refine ⟨fun hall => ?_, fun ho => (hvalue ho).1⟩
    cases o with
    | value a => exact End.isValue_value a
    | error e =>
      have hlt := herror ⟨e, rfl⟩
      omega
    | cut => exact absurd rfl hcut
  · obtain ⟨hcleared, hbefore, hafter, -⟩ := htruthful.between pre m post heq
    exact ⟨hcleared, fun c hc hwrite => hbefore c (List.mem_filter.mpr ⟨hc, hwrite⟩),
      fun c hc hwrite => hafter c (List.mem_filter.mpr ⟨hc, hwrite⟩)⟩
  · exact (htruthful.between pre _ post heq).2.2.2 rfl

namespace Compiler

/-- Whatever the store and the assistant reply, in whatever order strands take their turns and
wherever the run stops: compilations and updates tell the truth of their progress. -/
theorem progress_truthful (c : Compiler) :
    (∀ r es o, (c.compile r).Trace .any es o → ProgressTruthful es o) ∧
    ∀ r es o, (c.extend r).Trace .any es o → ProgressTruthful es o :=
  ⟨fun r _ _ h => (c.compile_advances r).progressTruthful h,
    fun r _ _ h => (c.extend_advances r).progressTruthful h⟩

section Witness

def locked : StoreError := .database "database is locked"

def refusedModel : List Event :=
  [.called (.createModel "agent-01" { name := "Lead" }),
    .replied (.createModel "agent-01" { name := "Lead" }) (.error locked)]

/-- The agent is stored and its model is not. -/
def refusedEvents : List Event :=
  let agent : NewAgent :=
    { name := "Sales", description := "", ownerId := "ada", rootModel := "Lead", connections := [] }
  [.called (.createAgent agent), .replied (.createAgent agent) (.ok salesGraph.agent)] ++
    refusedModel

/-- All that is added is stored and the agent cannot be changed. -/
def unchangedEvents : List Event :=
  let change : AgentChange := { connections := some [] }
  stoppedEvents ++ [.told (.models 1), .told (.actions 0 0), .told (.schedules 0),
    .called (.updateAgent "agent-01" change),
    .replied (.updateAgent "agent-01" change) (.error locked)]

def weeklySchedule : Schedule := { Program.callSchedule with intervalHours := some 168 }

/-- Two models, an action with a step and a schedule with a turn. -/
def weeklyRequest : CompileRequest where
  name := "Sales"
  ownerId := "ada"
  source := .graph { Program.callGraph with schedules := [weeklySchedule] }

/-- Everything is stored, the models at once. -/
def weeklyEvents : List Event :=
  let agent : NewAgent :=
    { name := "Sales", description := "", ownerId := "ada", rootModel := "Lead", connections := [] }
  [.called (.createAgent agent), .replied (.createAgent agent) (.ok salesGraph.agent)] ++
    ((Program.modelEvents ++ .told (.models 2) :: (Program.actionEvents ++ .told (.actions 1 1) ::
      (Program.callsBy weeklySchedule ++ [.told (.schedules 1)]))) ++
        [.told (.complete .compiled "Sales")])

theorem weeklyEvents_trace :
    ∃ o, (({} : Compiler).compile weeklyRequest).Trace .any weeklyEvents (.value o) := by
  have he : (Graph.withRoot { Program.callGraph with schedules := [weeklySchedule] }).enrich {}
      none = .ok
        { graph :=
            { Program.callGraph with rootModel := some "Lead", schedules := [weeklySchedule] }
          additions := [], connections := [], warnings := [] } := by
    decide +kernel
  have hrequest : weeklyRequest.violations = [] := by decide +kernel
  rw [compile_eq_storing hrequest rfl he]
  have hsave := Program.callGraph_trace_by (c := weeklySchedule) (List.mergeSort_singleton _)
  exact ⟨_, .store _ (hsave.bind (.announce (.done _)))⟩

/-- One run that tells nothing, one that tells all but the end, and one with a result that writes in
every stage. -/
theorem progress_truthful_for_runs :
    ((({} : Compiler).compile leadRequest).Trace .any refusedEvents
        (.error (.persistence .models locked)) ∧
      milestones refusedEvents = [] ∧
      ProgressTruthful refusedEvents (.error (.persistence .models locked))) ∧
    ((({} : Compiler).extend dealAddition).Trace .any unchangedEvents
        (.error (.persistence .agent locked)) ∧
      milestones unchangedEvents = [.models 1, .actions 0 0, .schedules 0] ∧
      ProgressTruthful unchangedEvents (.error (.persistence .agent locked))) ∧
    ∃ o, (({} : Compiler).compile weeklyRequest).Trace .any weeklyEvents (.value o) ∧
      (succeeded weeklyEvents).map (·.phase) =
        [.agent, .models, .models, .actions, .actions, .schedules, .schedules] ∧
      milestones weeklyEvents =
        [.models 2, .actions 1 1, .schedules 1, .complete .compiled "Sales"] ∧
      ProgressTruthful weeklyEvents (.value o) := by
  have hcompile : (({} : Compiler).compile leadRequest).Trace .any refusedEvents
      (.error (.persistence .models locked)) := by
    refine .store _ (.togetherFailed
      ⟨[(refusedModel, .error (.persistence .models locked))], ?_, .single refusedModel, ?_⟩)
    · exact .cons (.store _ (.failed _)) .nil
    · exact .error (List.mem_singleton_self _)
  have hextend : (({} : Compiler).extend dealAddition).Trace .any unchangedEvents
      (.error (.persistence .agent locked)) := by
    refine .store _ ?_
    refine .together (Program.together_alone (.store _ (.done _))) (.announce ?_)
    refine .together (Program.together_none) (.announce ?_)
    refine .together (Program.together_none) (.announce ?_)
    exact .store _ (.failed _)
  obtain ⟨o, hweekly⟩ := weeklyEvents_trace
  exact ⟨⟨hcompile, rfl, (progress_truthful {}).1 _ _ _ hcompile⟩,
    ⟨hextend, rfl, (progress_truthful {}).2 _ _ _ hextend⟩,
    o, hweekly, rfl, rfl, (progress_truthful {}).1 _ _ _ hweekly⟩

end Witness

end Compiler
end AgentSpec
