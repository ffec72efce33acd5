import AgentSpec.Proofs.Persist.Order
import AgentSpec.Proofs.Store.Admitted

/-!
The keys that the strands of a stage want.

A strand begins with the row of an entity and goes on with rows that are numbered under it.  So it
wants the key of its first row and keys under an entity that it made itself (`Branch`).  Strands
that run side by side have first rows of different names, and what they make is different; so no two
of their calls want one key, whatever turns they take.

Main statement: `Together.unrefused`.
-/
namespace AgentSpec

/-! ## Keys and what they belong to -/

namespace UniqueKey

/-- What a key is unique within. -/
def owner : UniqueKey → Entity
  | .named _ agentId _ => .agent agentId
  | .numbered .actions actionId _ => .action actionId
  | .numbered _ scheduleId _ => .schedule scheduleId

def phase : UniqueKey → Phase
  | .named phase _ _ | .numbered phase _ _ => phase

end UniqueKey

theorem StoreCall.key?_phase {c : StoreCall} {k : UniqueKey} (h : c.key? = some k) :
    k.phase = c.phase := by
  cases c <;> cases h <;> rfl

/-- Rows stand under what is there. -/
theorem Store.Lawful.has_owner {s : Store} (hs : s.Lawful) {k : UniqueKey} (hk : k ∈ s.keys) :
    s.Has k.owner := by
  unfold Store.keys at hk
  simp only [List.mem_append, List.mem_map] at hk
  rcases hk with (((⟨r, hr, rfl⟩ | ⟨r, hr, rfl⟩) | ⟨r, hr, rfl⟩) | ⟨r, hr, rfl⟩) | ⟨r, hr, rfl⟩
  · exact hs.modelParents r hr
  · exact (hs.actionParents r hr).1
  · exact hs.stepParents r hr
  · exact hs.scheduleParents r hr
  · exact (hs.turnParents r hr).1

/-! ## Calls that find what they point to -/

/-- What is in front of a member in its part is in front of it in the interleaving. -/
theorem Interleaved.split {ls : List (List ε)} {es pre post : List ε} {x : ε}
    (hi : Interleaved ls es) (h : es = pre ++ x :: post) :
    ∃ l ∈ ls, ∃ pre' post', l = pre' ++ x :: post' ∧ pre'.Sublist pre := by
  induction hi generalizing pre with
  | nil => simp at h
  | @cons before after l y ys _ ih =>
    cases pre with
    | nil =>
      obtain ⟨rfl, -⟩ := List.cons.inj h
      exact ⟨y :: l, by simp, [], l, rfl, .slnil⟩
    | cons z pre =>
      obtain ⟨rfl, hys⟩ := List.cons.inj h
      obtain ⟨m, hm, pre', post', hsplit, hsub⟩ := ih hys
      rcases List.mem_append.mp hm with hm | hm
      · exact ⟨m, List.mem_append_left _ hm, pre', post', hsplit, hsub.cons y⟩
      · rcases List.mem_cons.mp hm with rfl | hm
        · refine ⟨y :: m, by simp, y :: pre', post', ?_, hsub.cons_cons y⟩
          rw [hsplit, List.cons_append]
        · exact ⟨m, by simp [hm], pre', post', hsplit, hsub.cons y⟩

theorem mem_made_cons {x : Event} {es : List Event} {y : Entity} :
    y ∈ made (x :: es) ↔ x.made? = some y ∨ y ∈ made es := by
  simp [made]

namespace Rooted

variable {there there' : Entity → Prop} {es : List Event} {x : Event}

theorem mono (h : Rooted there es) (himp : ∀ y, there y → there' y) : Rooted there' es := by
  intro pre c r post heq
  exact (h pre c r post heq).mono fun y hy => hy.imp_left (himp y)

theorem nil : Rooted there [] := by
  intro pre c r post heq
  simp at heq

/-- What an event makes is there for those that follow. -/
theorem cons (hx : ∀ c r, x = .replied c r → c.Supported there)
    (h : Rooted (fun y => there y ∨ x.made? = some y) es) : Rooted there (x :: es) := by
  intro pre c r post heq
  cases pre with
  | nil => exact (hx c r (List.cons.inj heq).1).mono fun y hy => Or.inl hy
  | cons z pre =>
    obtain ⟨rfl, hrest⟩ := List.cons.inj heq
    apply (h pre c r post hrest).mono
    intro y hy
    rw [mem_made_cons]
    tauto

theorem interleaved {parts : List (List Event)} (hi : Interleaved parts es)
    (h : ∀ l ∈ parts, Rooted there l) : Rooted there es := by
  intro pre c r post heq
  obtain ⟨l, hl, pre', post', hsplit, hsub⟩ := hi.split heq
  apply (h l hl pre' c r post' hsplit).mono
  intro y hy
  exact hy.imp_right fun hmade => (hsub.filterMap Event.made?).subset hmade

end Rooted

/-! ## Rows one after the other -/

/-- The calls of a trace find what they point to, and want some of these keys, each at most once and
in this order. -/
structure Rows (there : Entity → Prop) (ks : List UniqueKey) (es : List Event) : Prop where
  rooted : Rooted there es
  wanted : (wanted es).Sublist ks

namespace Rows

variable {there there' : Entity → Prop} {ks : List UniqueKey} {es es' : List Event} {c : StoreCall}

theorem mono (h : Rows there ks es) (himp : ∀ y, there y → there' y) : Rows there' ks es :=
  ⟨h.rooted.mono himp, h.wanted⟩

theorem nil : Rows there ks [] := ⟨.nil, List.nil_sublist ks⟩

theorem replied {r : c.Reply} (hc : c.Supported there)
    (h : Rows (fun y => there y ∨ (Event.replied c r).made? = some y) ks es) :
    Rows there (c.key?.toList ++ ks) (.replied c r :: es) where
  rooted := by
    refine .cons (fun d q heq => ?_) h.rooted
    injection heq with hd
    subst hd
    exact hc
  wanted := by
    rw [wanted_replied_cons]
    exact h.wanted.append_left _

theorem silent {x : Event} (hx : ∀ c r, x ≠ .replied c r) (h : Rows there ks es) :
    Rows there ks (x :: es) where
  rooted := .cons (fun c r heq => absurd heq (hx c r)) (h.rooted.mono fun _ hy => Or.inl hy)
  wanted := by
    rw [wanted_silent_cons hx]
    exact h.wanted

theorem silent_append (hes : ∀ x ∈ es, ∀ c r, x ≠ .replied c r) (h : Rows there ks es') :
    Rows there ks (es ++ es') := by
  induction es with
  | nil => exact h
  | cons x rest ih =>
    obtain ⟨hx, hrest⟩ := List.forall_mem_cons.mp hes
    exact (ih hrest).silent hx

theorem of_silent (hes : ∀ x ∈ es, ∀ c r, x ≠ .replied c r) : Rows there ks es := by
  have h := silent_append hes (nil : Rows there ks [])
  rwa [List.append_nil] at h

end Rows

namespace Strand

/-- What may become of a call that must succeed, and what follows it if it does. -/
theorem trace_ask_bind {phase : Phase} {c : StoreCall} {f : c.Value → Strand α} {es : List Event}
    {o : End α} (h : (ask phase c >>= f).Trace es o) :
    (∀ x ∈ es, ∀ d r, x ≠ .replied d r) ∨ (∃ e, es = [.called c, .replied c (.error e)]) ∨
      ∃ v es', es = .called c :: .replied c (.ok v) :: es' ∧ (f v).Trace es' o := by
  cases h with
  | cut => exact Or.inl (List.forall_mem_nil _)
  | unanswered => exact Or.inl (by simp)
  | @store _ _ r es' _ h =>
    cases r with
    | ok v => exact Or.inr (Or.inr ⟨v, es', rfl, h⟩)
    | error e =>
      obtain ⟨rfl, -⟩ := trace_failed.mp h
      exact Or.inr (Or.inl ⟨e, rfl⟩)

variable {agentId modelId id : String} {a : Action} {s : Step} {c : Schedule} {coding : Bool}
  {es : List Event} {there : Entity → Prop}

/-- A call that must succeed, with the rows that follow it. -/
theorem rows_ask_bind {phase : Phase} {c : StoreCall} {f : c.Value → Strand α} {o : End α}
    {ks : List UniqueKey} (h : (ask phase c >>= f).Trace es o) (hc : c.Supported there)
    (hrest : ∀ v es', (f v).Trace es' o → Rows there ks es') :
    Rows there (c.key?.toList ++ ks) es := by
  have hcalled : ∀ d r, Event.called c ≠ .replied d r := by simp
  rcases trace_ask_bind h with hsilent | ⟨e, rfl⟩ | ⟨v, es', rfl, hv⟩
  · exact .of_silent hsilent
  · exact (Rows.replied hc .nil).silent hcalled
  · exact (Rows.replied hc ((hrest v es' hv).mono fun _ hy => Or.inl hy)).silent hcalled

theorem prepare_silent {o : End (Step × Option Warning)} (h : (prepare coding a s).Trace es o) :
    ∀ x ∈ es, ∀ c r, x ≠ .replied c r := by
  by_cases hs : s.asksCode coding
  · rw [prepare_of_asksCode hs] at h
    cases h with
    | cut => exact List.forall_mem_nil _
    | code answer h =>
      rw [(trace_done.mp h).1]
      simp
  · rw [prepare_of_not_asksCode hs (.ok ⟨"", [], []⟩)] at h
    rw [(trace_done.mp h).1]
    exact List.forall_mem_nil _

/-- The keys of steps; positions count from `first`. -/
def stepKeys (actionId : String) (first n : Nat) : List UniqueKey :=
  (List.range' first n).map fun i => .numbered .actions actionId (.ofNat32 (.ofNat i))

theorem saveSteps_rows {i : Nat} {steps : List Step} {o : End (List StoredStep × List Warning)}
    (hthere : there (.action id)) (h : (saveSteps coding a id i steps).Trace es o) :
    Rows there (stepKeys id i steps.length) es := by
  induction steps generalizing i es o with
  | nil =>
    obtain ⟨rfl, -⟩ := trace_pure.mp h
    exact .nil
  | cons s rest ih =>
    rcases trace_bind_events h with ⟨p, es₁, es₂, h₁, h₂, rfl⟩ | ⟨o', h₁⟩
    · have hstep : Rows there (stepKeys id i (rest.length + 1)) es₂ := by
        have hc : (StoreCall.createStep id (.ofNat i) p.1 p.1.isReady).Supported there :=
          ⟨rfl, List.forall_mem_singleton.mpr hthere, fun _ h => StoreCall.noConfusion h⟩
        refine rows_ask_bind h₂ hc fun v es' hv => ?_
        obtain ⟨o', h₃⟩ := trace_bind_pure_events hv
        exact ih h₃
      exact hstep.silent_append (prepare_silent h₁)
    · exact .of_silent (prepare_silent h₁)

/-- The keys of turns. -/
def turnKeys (scheduleId : String) (turns : List (ScheduleStep × String × String)) :
    List UniqueKey :=
  turns.map fun t => .numbered .schedules scheduleId (.ofNat32 t.1.order)

theorem saveTurns_rows {turns : List (ScheduleStep × String × String)} {o : End (List StoredTurn)}
    (hthere : there (.schedule id))
    (hturns : ∀ t ∈ turns, there (.model t.2.1) ∧ there (.action t.2.2))
    (h : (saveTurns id turns).Trace es o) : Rows there (turnKeys id turns) es := by
  induction turns generalizing es o with
  | nil =>
    obtain ⟨rfl, -⟩ := trace_pure.mp h
    exact .nil
  | cons t rest ih =>
    obtain ⟨⟨hmodel, haction⟩, hrest⟩ := List.forall_mem_cons.mp hturns
    have hparents : ∀ x ∈ (StoreCall.createTurn id t.2.1 t.2.2 t.1).parents, there x := by
      simp [StoreCall.parents, hthere, hmodel, haction]
    refine rows_ask_bind h ⟨rfl, hparents, fun _ h => StoreCall.noConfusion h⟩ fun v es' hv => ?_
    obtain ⟨o', h₁⟩ := trace_bind_pure_events hv
    exact ih hrest h₁

theorem ofNat32_inj {m n : UInt32} (h : Cell.ofNat32 m = .ofNat32 n) : m = n := by
  have hint : (m.toNat : Int) = n.toNat := by
    unfold Cell.ofNat32 at h
    exact Cell.int.inj h
  exact UInt32.toNat_inj.mp (by omega)

/-- Positions of 32 bits are all different as long as they suffice. -/
theorem stepKeys_nodup {n : Nat} (hn : n ≤ UInt32.size) : (stepKeys id 0 n).Nodup := by
  refine List.Nodup.map_on (fun i hi j hj heq => ?_) List.nodup_range'
  have hi' : i < n := by simpa using hi
  have hj' : j < n := by simpa using hj
  injection heq with _ _ hcell
  have hmod : i % UInt32.size = j % UInt32.size := congrArg UInt32.toNat (ofNat32_inj hcell)
  rwa [Nat.mod_eq_of_lt (by omega), Nat.mod_eq_of_lt (by omega)] at hmod

theorem turnKeys_nodup {turns : List (ScheduleStep × String × String)}
    (h : (turns.map (·.1.order)).Nodup) : (turnKeys id turns).Nodup := by
  have hmap : turnKeys id turns = (turns.map (·.1.order)).map
      fun n => .numbered .schedules id (.ofNat32 n) := by
    rw [turnKeys, List.map_map]
    rfl
  rw [hmap]
  refine h.map fun m n heq => ?_
  injection heq with _ _ hcell
  exact ofNat32_inj hcell

end Strand

/-! ## Strands -/

/-- A trace of a strand that begins with a call: it wants the key of this call, and keys under what
it made. -/
structure Branch (there : Entity → Prop) (c : StoreCall) (es : List Event) : Prop where
  rooted : Rooted there es
  once : (wanted es).Nodup
  keys : ∀ k ∈ wanted es, c.key? = some k ∨ k.owner ∈ made es

namespace Strand

variable {agentId modelId : String} {m : Model} {fields : List Field} {a : Action} {p : Schedule}
  {coding : Bool} {es : List Event} {there : Entity → Prop} {c : StoreCall}

theorem branch_of_rows {ks : List UniqueKey} (h : Rows there (c.key?.toList ++ ks) es)
    (honce : ks.Nodup) (hkeys : ∀ k ∈ ks, k.owner ∈ made es ∧ c.key? ≠ some k) :
    Branch there c es where
  rooted := h.rooted
  once := by
    refine h.wanted.nodup ?_
    cases hk : c.key? with
    | none => exact honce
    | some k => exact List.nodup_cons.mpr ⟨fun hmem => (hkeys k hmem).2 hk, honce⟩
  keys := by
    intro k hk
    have hmem := h.wanted.subset hk
    rw [List.mem_append, Option.mem_toList] at hmem
    exact hmem.imp_right fun hks => (hkeys k hks).1

/-- A call that must succeed, and then rows under what it made. -/
theorem branch_ask_bind {phase : Phase} {f : c.Value → Strand α} {o : End α}
    (ks : c.Value → List UniqueKey) (h : (ask phase c >>= f).Trace es o) (hc : c.Supported there)
    (hrest : ∀ v es', (f v).Trace es' o →
      Rows (fun y => there y ∨ c.made? v = some y) (ks v) es')
    (honce : .called c ∈ es → ∀ v, (ks v).Nodup)
    (hkeys : ∀ v, ∀ k ∈ ks v, c.made? v = some k.owner ∧ c.key? ≠ some k) :
    Branch there c es := by
  have hcalled : ∀ d r, Event.called c ≠ .replied d r := by simp
  rcases trace_ask_bind h with hsilent | ⟨e, rfl⟩ | ⟨v, es', rfl, hv⟩
  · exact branch_of_rows (.of_silent hsilent) List.nodup_nil (List.forall_mem_nil _)
  · exact branch_of_rows ((Rows.replied hc .nil).silent hcalled) List.nodup_nil
      (List.forall_mem_nil _)
  · have hrows : Rows (fun y => there y ∨ (Event.replied c (.ok v)).made? = some y) (ks v) es' :=
      hrest v es' hv
    refine branch_of_rows ((Rows.replied hc hrows).silent hcalled)
      (honce List.mem_cons_self v) fun k hk => ?_
    rw [mem_made_cons, mem_made_cons]
    exact ⟨Or.inr (Or.inl (hkeys v k hk).1), (hkeys v k hk).2⟩

/-- A call that must succeed, and no other. -/
theorem branch_ask {phase : Phase} {f : c.Value → α} {o : End α}
    (h : (ask phase c >>= fun v => pure (f v)).Trace es o) (hc : c.Supported there) :
    Branch there c es := by
  refine branch_ask_bind (fun _ => []) h hc (fun v es' hv => ?_) (fun _ _ => List.nodup_nil)
    fun _ => List.forall_mem_nil _
  obtain ⟨rfl, -⟩ := trace_pure.mp hv
  exact .nil

theorem saveModel_branch {o : End (Option StoredModel)} (hagent : there (.agent agentId))
    (h : (saveModel agentId m).Trace es o) : Branch there (.createModel agentId m) es :=
  branch_ask h ⟨rfl, List.forall_mem_singleton.mpr hagent, fun _ h => StoreCall.noConfusion h⟩

theorem appendFields_branch {o : End (Option StoredModel)} (hmodel : there (.model modelId))
    (h : (appendFields modelId fields).Trace es o) :
    Branch there (.appendFields modelId fields) es :=
  branch_ask h ⟨rfl, List.forall_mem_singleton.mpr hmodel, fun _ h => StoreCall.noConfusion h⟩

theorem saveAction_branch {o : End (StoredAction × List Warning)} (hagent : there (.agent agentId))
    (hmodel : there (.model modelId))
    (hsteps : .called (.createAction agentId modelId a) ∈ es → a.steps.length ≤ UInt32.size)
    (h : (saveAction coding agentId a modelId).Trace es o) :
    Branch there (.createAction agentId modelId a) es := by
  have hparents : ∀ x ∈ (StoreCall.createAction agentId modelId a).parents, there x := by
    simp [StoreCall.parents, hagent, hmodel]
  refine branch_ask_bind (fun id => stepKeys id 0 a.steps.length) h
    ⟨rfl, hparents, fun _ h => StoreCall.noConfusion h⟩ (fun id es' hid => ?_)
    (fun hcalled id => stepKeys_nodup (hsteps hcalled)) fun id k hk => ?_
  · obtain ⟨o', h₁⟩ := trace_bind_pure_events hid
    exact saveSteps_rows (Or.inr rfl) h₁
  · obtain ⟨i, -, rfl⟩ := List.mem_map.mp hk
    exact ⟨rfl, by simp [StoreCall.key?]⟩

theorem saveSchedule_branch {turns : List (ScheduleStep × String × String)} {o : End StoredSchedule}
    (hagent : there (.agent agentId))
    (hturns : ∀ t ∈ turns, there (.model t.2.1) ∧ there (.action t.2.2))
    (horders : (turns.map (·.1.order)).Nodup) (h : (saveSchedule agentId p turns).Trace es o) :
    Branch there (.createSchedule agentId p) es := by
  refine branch_ask_bind (fun id => turnKeys id turns) h
    ⟨rfl, List.forall_mem_singleton.mpr hagent, fun _ h => StoreCall.noConfusion h⟩
    (fun id es' hid => ?_) (fun _ id => turnKeys_nodup horders) fun id k hk => ?_
  · obtain ⟨o', h₁⟩ := trace_bind_pure_events hid
    exact saveTurns_rows (Or.inr rfl) (fun t ht => (hturns t ht).imp Or.inl Or.inl) h₁
  · obtain ⟨t, -, rfl⟩ := List.mem_map.mp hk
    exact ⟨rfl, by simp [StoreCall.key?]⟩

end Strand

/-! ## Strands side by side -/

section Branches

variable {heads : List StoreCall} {parts : List (List Event)} {s s' : Store} {es : List Event}

/-- The first calls of some strands can all be admitted: their keys are different, free, and within
what is there. -/
structure Store.Free (s : Store) (heads : List StoreCall) : Prop where
  once : (heads.filterMap StoreCall.key?).Nodup
  free : ∀ k ∈ heads.filterMap StoreCall.key?, k ∉ s.keys ∧ s.Has k.owner

theorem wanted_flatten_cases {there : Entity → Prop} (hb : List.Forall₂ (Branch there) heads parts)
    {k : UniqueKey} (hk : k ∈ wanted parts.flatten) :
    k ∈ heads.filterMap StoreCall.key? ∨ k.owner ∈ made parts.flatten := by
  obtain ⟨x, hx, hkey⟩ := List.mem_filterMap.mp hk
  obtain ⟨l, hl, hxl⟩ := List.mem_flatten.mp hx
  obtain ⟨c, hc, hbranch⟩ := forall₂_mem_right hb hl
  rcases hbranch.keys k (List.mem_filterMap.mpr ⟨x, hxl, hkey⟩) with hhead | hmade
  · exact Or.inl (List.mem_filterMap.mpr ⟨c, hc, hhead⟩)
  · exact Or.inr ((List.sublist_flatten_of_mem hl).filterMap Event.made? |>.subset hmade)

/-- No two calls of strands want one key. -/
theorem wanted_flatten_nodup {there : Entity → Prop} (hb : List.Forall₂ (Branch there) heads parts)
    (honce : (heads.filterMap StoreCall.key?).Nodup)
    (hthere : ∀ k ∈ heads.filterMap StoreCall.key?, there k.owner)
    (hmade : (made parts.flatten).Nodup) (hnew : ∀ x ∈ made parts.flatten, ¬there x) :
    (wanted parts.flatten).Nodup := by
  induction hb with
  | nil => exact List.nodup_nil
  | @cons c l heads parts hbranch hrest ih =>
    have hsub : (heads.filterMap StoreCall.key?).Sublist ((c :: heads).filterMap StoreCall.key?) :=
      (List.sublist_cons_self c heads).filterMap _
    rw [List.flatten_cons, made_append] at hmade hnew
    rw [List.flatten_cons, wanted_append]
    have htail : (wanted parts.flatten).Nodup := by
      apply ih (honce.sublist hsub)
      · intro k hk
        exact hthere k (hsub.subset hk)
      · exact (List.nodup_append.mp hmade).2.1
      · intro x hx
        exact hnew x (List.mem_append_right _ hx)
    refine List.nodup_append'.mpr ⟨hbranch.once, htail, ?_⟩
    intro k hk hk'
    rcases hbranch.keys k hk with hhead | hunder
    · rcases wanted_flatten_cases hrest hk' with hhead' | hunder'
      · -- both are keys of first calls
        rw [List.filterMap_cons_some hhead] at honce
        exact (List.nodup_cons.mp honce).1 hhead'
      · have hmem : k ∈ (c :: heads).filterMap StoreCall.key? :=
          List.mem_filterMap.mpr ⟨c, List.mem_cons_self, hhead⟩
        exact hnew k.owner (List.mem_append_right _ hunder') (hthere k hmem)
    · rcases wanted_flatten_cases hrest hk' with hhead' | hunder'
      · exact hnew k.owner (List.mem_append_left _ hunder) (hthere k (hsub.subset hhead'))
      · exact List.disjoint_of_nodup_append hmade hunder hunder'

/-- None of the calls of strands that run together is refused, if their first calls can all be
admitted. -/
theorem Together.unrefused {w : Weave} {strands : List (Strand β)} {o : End (List β)}
    (ht : Together w strands es o) (hserves : s.Serves es s') (hs : s.Lawful) (hr : s.Readable)
    (hfree : s.Free heads)
    (hb : List.Forall₂ (fun c strand => ∀ l o, strand.Trace l o → l ⊆ es → Branch s.Has c l)
      heads strands) : Unrefused es := by
  obtain ⟨ps, hps, hallows, -⟩ := ht.parts
  have hi := w.interleaved hallows
  have hparts : List.Forall₂ (fun strand p => strand.Trace p.1 p.2 ∧ p.1 ⊆ es) strands ps :=
    forall₂_imp_mem hps fun strand p _ hp htr =>
      ⟨htr, (hi.sublist (List.mem_map_of_mem hp)).subset⟩
  have hbranches : List.Forall₂ (Branch s.Has) heads (ps.map (·.1)) := by
    rw [List.forall₂_map_right_iff]
    exact forall₂_trans hb hparts fun c strand p hbranch hp => hbranch p.1 p.2 hp.1 hp.2
  have hwanted : (wanted es).Perm (wanted (ps.map (·.1)).flatten) := hi.perm.filterMap _
  have hmade : (made es).Perm (made (ps.map (·.1)).flatten) := hi.perm.filterMap _
  have hnew : ∀ x ∈ made (ps.map (·.1)).flatten, ¬s.Has x := by
    intro x hx
    exact hserves.made_new (hmade.mem_iff.mpr hx)
  apply hserves.unrefused hr
  · apply Rooted.interleaved hi
    intro l hl
    obtain ⟨c, -, hbranch⟩ := forall₂_mem_right hbranches hl
    exact hbranch.rooted
  · rw [hwanted.nodup_iff]
    apply wanted_flatten_nodup hbranches hfree.once
    · intro k hk
      exact (hfree.free k hk).2
    · exact hmade.nodup_iff.mp hserves.made_nodup
    · exact hnew
  · intro k hk htaken
    rcases wanted_flatten_cases hbranches (hwanted.mem_iff.mp hk) with hhead | hunder
    · exact (hfree.free k hhead).1 htaken
    · exact hnew k.owner hunder (hs.has_owner htaken)

end Branches

end AgentSpec
