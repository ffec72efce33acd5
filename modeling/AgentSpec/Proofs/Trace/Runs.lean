import AgentSpec.Program.Run
import AgentSpec.Proofs.Store.Grown
import AgentSpec.Proofs.Time.Written
import AgentSpec.Proofs.Trace.Interleaving

/-!
Runs leave traces.

A run that gives a result leaves a trace with this result, and the tables follow the trace at the
times of the run (`Program.run_trace`).  Strands that run together make their first calls in the
order in which they were started.
-/
namespace AgentSpec

/-- The first replies come in the order of the strands, and before all other replies. -/
def Weave.inOrder : Weave where
  Allows ls es := Interleaved ls es ∧ ls.flatMap opening <+: writes es
  allows_nil h := by
    refine ⟨.nil h, ?_⟩
    have hnil : ∀ l ∈ _, opening l = [] := fun l hl => by rw [h l hl]; rfl
    rw [List.flatMap_eq_nil_iff.mpr hnil]
    exact List.nil_prefix
  interleaved h := h.1

theorem Together.any {w : Weave} {strands : List (Strand β)} {es : List Event} {o : End (List β)}
    (h : Together w strands es o) : Together .any strands es o := by
  obtain ⟨ps, hps, hi, ho⟩ := h.parts
  exact ⟨ps, hps, w.interleaved hi, ho⟩

/-- What is done in turns of one kind is done in turns of some kind. -/
theorem Program.Trace.any {w : Weave} {p : Program α} {es : List Event} {o : End α}
    (h : p.Trace w es o) : p.Trace .any es o := by
  induction h with
  | cut p => exact .cut p
  | done a => exact .done a
  | failed e => exact .failed e
  | unanswered c k => exact .unanswered c k
  | store r _ ih => exact .store r ih
  | design a _ ih => exact .design a ih
  | announce _ ih => exact .announce ih
  | together ht _ ih => exact .together ht.any ih
  | togetherFailed ht => exact .togetherFailed ht.any
  | togetherCut ht => exact .togetherCut ht.any

/-! ## One thing after the other -/

namespace Run

variable {w w' : World}

theorem bind_run (x : Run α) (f : α → Run β) (w : World) :
    (x >>= f).run w =
      match x.run w with
      | (.ok a, mid) => (f a).run mid
      | (.error stop, mid) => (.error stop, mid) := by
  have hstate {γ δ : Type} (y : StateM World γ) (g : γ → StateM World δ) :
      (y >>= g) w = g (y w).1 (y w).2 := rfl
  rw [ExceptT.run_bind, hstate]
  cases x.run w with
  | mk r mid => cases r <;> rfl

theorem bind_ok {x : Run α} {f : α → Run β} {a : α} {mid : World} (h : x.run w = (.ok a, mid)) :
    (x >>= f).run w = (f a).run mid := by
  rw [bind_run, h]

theorem bind_cases {x : Run α} {f : α → Run β} {res : Except Stop β}
    (h : (x >>= f).run w = (res, w')) :
    (∃ a mid, x.run w = (.ok a, mid) ∧ (f a).run mid = (res, w')) ∨
      ∃ stop, x.run w = (.error stop, w') ∧ res = .error stop := by
  rw [bind_run] at h
  cases hx : x.run w with
  | mk r mid =>
    rw [hx] at h
    cases r with
    | ok a => exact Or.inl ⟨a, mid, rfl, h⟩
    | error stop =>
      cases h
      exact Or.inr ⟨stop, rfl, rfl⟩

theorem bind_eq_ok {x : Run α} {f : α → Run β} {b : β} (h : (x >>= f).run w = (.ok b, w')) :
    ∃ a mid, x.run w = (.ok a, mid) ∧ (f a).run mid = (.ok b, w') := by
  rcases bind_cases h with hok | ⟨stop, -, hstop⟩
  · exact hok
  · cases hstop

theorem pure_eq_ok {a b : α} (h : (pure a : Run α).run w = (.ok b, w')) : a = b ∧ w = w' := by
  cases h
  exact ⟨rfl, rfl⟩

end Run

/-- What a run has done to the world when these events are over. -/
structure Ran (env : Surroundings) (w : World) (es : List Event) (w' : World) : Prop where
  follows : ∃ clock, w.store.Follows es clock w'.store ∧ ∀ t ∈ clock, ∃ n, t = env.time n
  designed : ∀ r a, .designed r a ∈ es → a = env.design r
  coded : ∀ r a, .coded r a ∈ es → a = env.code r

namespace Ran

variable {env : Surroundings} {w mid w' : World} {es es' : List Event}

theorem nil (h : w'.store = w.store) : Ran env w [] w' :=
  ⟨⟨[], h ▸ .nil _, List.forall_mem_nil _⟩, fun _ _ => nofun, fun _ _ => nofun⟩

theorem append (h : Ran env w es mid) (h' : Ran env mid es' w') : Ran env w (es ++ es') w' := by
  obtain ⟨clock, hf, hclock⟩ := h.follows
  obtain ⟨clock', hf', hclock'⟩ := h'.follows
  refine ⟨⟨clock ++ clock', Store.Follows.append_iff.mpr ⟨_, _, _, rfl, hf, hf'⟩,
    List.forall_mem_append.mpr ⟨hclock, hclock'⟩⟩, fun r a hmem => ?_, fun r a hmem => ?_⟩
  · rcases List.mem_append.mp hmem with hmem | hmem
    · exact h.designed r a hmem
    · exact h'.designed r a hmem
  · rcases List.mem_append.mp hmem with hmem | hmem
    · exact h.coded r a hmem
    · exact h'.coded r a hmem

theorem wrote (r : CodeRequest) (h : w'.store = w.store) :
    Ran env w [.coded r (env.code r)] w' := by
  refine ⟨⟨[], .silent (by simp) (h ▸ .nil _), List.forall_mem_nil _⟩, fun r a hmem => ?_,
    fun r a hmem => ?_⟩
  · cases List.mem_singleton.mp hmem
  · cases List.mem_singleton.mp hmem
    rfl

theorem drew (r : SynthesisRequest) (h : w'.store = w.store) :
    Ran env w [.designed r (env.design r)] w' := by
  refine ⟨⟨[], .silent (by simp) (h ▸ .nil _), List.forall_mem_nil _⟩, fun r a hmem => ?_,
    fun r a hmem => ?_⟩
  · cases List.mem_singleton.mp hmem
    rfl
  · cases List.mem_singleton.mp hmem

theorem told (m : Milestone) (h : w'.store = w.store) : Ran env w [.told m] w' := by
  refine ⟨⟨[], .silent (by simp) (h ▸ .nil _), List.forall_mem_nil _⟩, fun r a hmem => ?_,
    fun r a hmem => ?_⟩
  · cases List.mem_singleton.mp hmem
  · cases List.mem_singleton.mp hmem

theorem follows_ordinary (h : Ran env w es w') (htime : ∀ n, (env.time n).Ordinary) :
    ∃ clock, w.store.Follows es clock w'.store ∧ ∀ t ∈ clock, t.Ordinary := by
  obtain ⟨clock, hf, hclock⟩ := h.follows
  refine ⟨clock, hf, fun t ht => ?_⟩
  obtain ⟨n, rfl⟩ := hclock t ht
  exact htime n

/-- A call that gets a reply. -/
theorem called {c : StoreCall} {r : c.Reply} (h : (env.callStore c).run w = (.ok r, w')) :
    Ran env w [.called c, .replied c r] w' := by
  obtain ⟨u, w₁, h₁, h⟩ := Run.bind_eq_ok h
  obtain rfl : { w with calls := w.calls ++ [c] } = w₁ := congrArg Prod.snd h₁
  have hfollows : ∃ clock, w.store.Follows [.called c, .replied c r] clock w'.store ∧
      ∀ t ∈ clock, ∃ n, t = env.time n := by
    cases hcue : env.cue c with
    | none =>
      rw [hcue] at h
      let stamp : Stamp := ⟨env.name w.store c, env.time w.journal.length⟩
      obtain rfl : (c.answer stamp w.store).1 = r :=
        Except.ok.inj (congrArg Prod.fst h)
      have hstore : (c.answer stamp w.store).2 = w'.store := congrArg (·.2.store) h
      refine ⟨[stamp.now], .silent (by simp) (.answered stamp c (hstore ▸ .nil _)), ?_⟩
      exact List.forall_mem_singleton.mpr ⟨_, rfl⟩
    | some cue =>
      rw [hcue] at h
      cases cue with
      | fail e =>
        obtain ⟨rfl, rfl⟩ := Run.pure_eq_ok h
        exact ⟨[], .silent (by simp) (.refused c e (.nil _)), List.forall_mem_nil _⟩
      | hang => cases h
  refine ⟨hfollows, fun r a hmem => ?_, fun r a hmem => ?_⟩
  · simp at hmem
  · simp at hmem

end Ran

/-! ## Turns of strands -/

theorem opening_append {es es' : List Event} (h : ∀ x ∈ es, ∀ c r, x ≠ .replied c r) :
    opening (es ++ es') = opening es' := by
  induction es with
  | nil => rfl
  | cons x rest ih =>
    obtain ⟨hx, hrest⟩ := List.forall_mem_cons.mp h
    rw [List.cons_append, opening_silent_cons hx, ih hrest]

theorem writes_eq_nil {es : List Event} (h : ∀ x ∈ es, ∀ c r, x ≠ .replied c r) : writes es = [] := by
  induction es with
  | nil => rfl
  | cons x rest ih =>
    obtain ⟨hx, hrest⟩ := List.forall_mem_cons.mp h
    rw [writes_silent_cons hx, ih hrest]

namespace Strand

variable {env : Surroundings} {w w' : World}

/-- The strand may go on as another one when these events are over. -/
def Steps (s : Strand α) (es : List Event) (s' : Strand α) : Prop :=
  ∀ es' o, s'.Trace es' o → s.Trace (es ++ es') o

/-- A turn of a strand: at most one reply, and what follows has none before it. -/
structure Turned (s : Strand α) (es : List Event) (s' : Strand α) : Prop where
  steps : s.Steps es s'
  opens : ∀ es' o, s'.Trace es' o → opening (es ++ es') = writes es

/-- A strand goes on to its next call or to its result. -/
theorem advance_steps {s s' : Strand α} (h : (s.advance env).run w = (.ok s', w')) :
    ∃ es, s.Steps es s' ∧ Ran env w es w' ∧ (∀ x ∈ es, ∀ c r, x ≠ .replied c r) ∧
      ((∃ a, s' = .done a) ∨ ∃ c k, s' = .store c k) := by
  induction s generalizing w with
  | done a =>
    obtain ⟨rfl, rfl⟩ := Run.pure_eq_ok h
    exact ⟨[], fun _ _ ht => ht, .nil rfl, List.forall_mem_nil _, Or.inl ⟨a, rfl⟩⟩
  | failed e => cases h
  | store c k =>
    obtain ⟨rfl, rfl⟩ := Run.pure_eq_ok h
    exact ⟨[], fun _ _ ht => ht, .nil rfl, List.forall_mem_nil _, Or.inr ⟨c, k, rfl⟩⟩
  | code r k ih =>
    obtain ⟨a, mid, hcode, h⟩ := Run.bind_eq_ok h
    obtain rfl : env.code r = a := Except.ok.inj (congrArg Prod.fst hcode)
    have hstore : mid.store = w.store := (congrArg (·.2.store) hcode).symm
    obtain ⟨es, hsteps, hran, hsilent, hs'⟩ := ih _ h
    refine ⟨.coded r (env.code r) :: es, fun es' o ht => .code _ (hsteps es' o ht),
      (Ran.wrote r hstore).append hran, List.forall_mem_cons.mpr ⟨by simp, hsilent⟩, hs'⟩

theorem turn_turned {s s' : Strand α} (h : (s.turn env).run w = (.ok s', w')) :
    ∃ es, s.Turned es s' ∧ Ran env w es w' := by
  obtain ⟨s₁, w₁, h₁, h⟩ := Run.bind_eq_ok h
  obtain ⟨es₁, hsteps, hran, hsilent, ⟨a, rfl⟩ | ⟨c, k, rfl⟩⟩ := advance_steps h₁
  · obtain ⟨rfl, rfl⟩ := Run.pure_eq_ok h
    refine ⟨es₁, ⟨hsteps, fun es' o ht => ?_⟩, hran⟩
    obtain ⟨rfl, -⟩ := trace_done.mp ht
    rw [opening_append hsilent, writes_eq_nil hsilent]
    rfl
  · obtain ⟨r, w₂, h₂, h⟩ := Run.bind_eq_ok h
    obtain ⟨es₃, hsteps', hran', hsilent', -⟩ := advance_steps h
    refine ⟨es₁ ++ ([.called c, .replied c r] ++ es₃), ⟨fun es' o ht => ?_, fun es' o ht => ?_⟩,
      hran.append ((Ran.called h₂).append hran')⟩
    · rw [List.append_assoc, List.append_assoc]
      exact hsteps _ o (.store r (hsteps' es' o ht))
    · rw [List.append_assoc, List.append_assoc, opening_append hsilent, writes_append, writes_append,
        writes_eq_nil hsilent, writes_eq_nil hsilent', writes_replied, List.append_nil]
      rfl

theorem mapM_turned {ss ss' : List (Strand α)}
    (h : (ss.mapM (turn env)).run w = (.ok ss', w')) :
    ∃ ps : List (List Event × Strand α), List.Forall₂ (fun s p => s.Turned p.1 p.2) ss ps ∧
      ps.map (·.2) = ss' ∧ Ran env w (ps.map (·.1)).flatten w' := by
  induction ss generalizing w ss' with
  | nil =>
    rw [List.mapM_nil] at h
    obtain ⟨rfl, rfl⟩ := Run.pure_eq_ok h
    exact ⟨[], .nil, rfl, .nil rfl⟩
  | cons s rest ih =>
    rw [List.mapM_cons] at h
    obtain ⟨s', w₁, h₁, h⟩ := Run.bind_eq_ok h
    obtain ⟨rest', w₂, h₂, h⟩ := Run.bind_eq_ok h
    obtain ⟨rfl, rfl⟩ := Run.pure_eq_ok h
    obtain ⟨es, hturned, hran⟩ := turn_turned h₁
    obtain ⟨ps, hps, rfl, hran'⟩ := ih h₂
    exact ⟨(es, s') :: ps, .cons hturned hps, rfl, hran.append hran'⟩

/-- Strands that have taken a turn, and then go on to their results. -/
theorem traces_of_turned {ss : List (Strand α)} {ps : List (List Event × Strand α)}
    {qs : List (List Event × α)} (h : List.Forall₂ (fun s p => s.Turned p.1 p.2) ss ps)
    (h' : List.Forall₂ (fun s q => s.Trace q.1 (.value q.2)) (ps.map (·.2)) qs) :
    ∃ rs : List (List Event × α), List.Forall₂ (fun s r => s.Trace r.1 (.value r.2)) ss rs ∧
      rs.map (·.1) = List.zipWith (· ++ ·) (ps.map (·.1)) (qs.map (·.1)) ∧
      rs.map (·.2) = qs.map (·.2) ∧
      (rs.map (·.1)).flatMap opening = writes (ps.map (·.1)).flatten := by
  induction h generalizing qs with
  | nil =>
    cases h'
    exact ⟨[], .nil, rfl, rfl, rfl⟩
  | @cons s p ss ps hp _ ih =>
    rw [List.map_cons] at h'
    cases h' with
    | @cons _ q _ qs hq h' =>
      obtain ⟨rs, hrs, hevents, hvalues, hopening⟩ := ih h'
      refine ⟨(p.1 ++ q.1, q.2) :: rs, .cons (hp.steps _ _ hq) hrs, ?_, ?_, ?_⟩
      · rw [List.map_cons, hevents]
        rfl
      · rw [List.map_cons, hvalues]
        rfl
      · rw [List.map_cons, List.flatMap_cons, hopening, hp.opens _ _ hq, List.map_cons,
          List.flatten_cons, writes_append]

/-! ## Strands that run together -/

theorem together_of_values {ss : List (Strand α)} (qs : List (List Event × α)) {es : List Event}
    (h : List.Forall₂ (fun s q => s.Trace q.1 (.value q.2)) ss qs)
    (hi : Interleaved (qs.map (·.1)) es) (hp : (qs.map (·.1)).flatMap opening <+: writes es) :
    Together .inOrder ss es (.value (qs.map (·.2))) := by
  refine ⟨qs.map fun q => (q.1, .value q.2), ?_, ?_, ?_⟩
  · rw [List.forall₂_map_right_iff]
    exact h
  · rw [List.map_map]
    exact ⟨hi, hp⟩
  · have hends : (qs.map fun q => (q.1, End.value q.2)).map (·.2) = (qs.map (·.2)).map .value := by
      rw [List.map_map, List.map_map]
      rfl
    rw [hends]
    exact .values _

/-- The strands that follow run together and leave a trace. -/
def Leaves (env : Surroundings) (next : List (Strand α) → Run (List α)) (n : Nat) : Prop :=
  ∀ ss bs w w', ss.length = n → (next ss).run w = (.ok bs, w') →
    ∃ es, Together .inOrder ss es (.value bs) ∧ Ran env w es w'

variable {next : List (Strand α) → Run (List α)}

/-- A strand that has made its first call goes on.  All others make theirs before its next one. -/
theorem lead_waiting {s : Strand α} {others : List (Strand α)} {bs : List α}
    (hnext : Leaves env next others.length)
    (h : (s.lead env next true others).run w = (.ok bs, w')) :
    ∃ (l : List Event) (a : α) (qs : List (List Event × α)) (es : List Event),
      s.Trace l (.value a) ∧ List.Forall₂ (fun s q => s.Trace q.1 (.value q.2)) others qs ∧
      bs = a :: qs.map (·.2) ∧ Interleaved (l :: qs.map (·.1)) es ∧
      (qs.map (·.1)).flatMap opening <+: writes es ∧ Ran env w es w' := by
  induction s generalizing w others bs with
  | failed e => cases h
  | code r k ih =>
    obtain ⟨a, mid, hcode, h⟩ := Run.bind_eq_ok h
    obtain rfl : env.code r = a := Except.ok.inj (congrArg Prod.fst hcode)
    have hstore : mid.store = w.store := (congrArg (·.2.store) hcode).symm
    obtain ⟨l, a, qs, es, hl, hqs, hbs, hi, hp, hran⟩ := ih _ hnext h
    exact ⟨.coded r (env.code r) :: l, a, qs, .coded r (env.code r) :: es, .code _ hl, hqs, hbs,
      @Interleaved.cons _ [] _ _ _ _ hi, hp, (Ran.wrote r hstore).append hran⟩
  | done a =>
    rw [lead] at h
    obtain ⟨others', mid, h₁, h⟩ := Run.bind_eq_ok h
    obtain ⟨rest, mid', h₂, h⟩ := Run.bind_eq_ok h
    obtain ⟨rfl, rfl⟩ := Run.pure_eq_ok h
    obtain ⟨ps, hps, rfl, hran⟩ := mapM_turned h₁
    obtain ⟨es, ht, hran'⟩ := hnext _ _ _ _ (by rw [List.length_map, hps.length_eq]) h₂
    obtain ⟨qs, hqs, ⟨hi, -⟩, rfl⟩ := ht.value_parts
    obtain ⟨rs, hrs, hevents, hvalues, hopening⟩ := traces_of_turned hps hqs
    refine ⟨[], a, rs, (ps.map (·.1)).flatten ++ es, .done a, hrs, by rw [hvalues], ?_, ?_,
      hran.append hran'⟩
    · rw [hevents]
      exact (Interleaved.prependEach [] hi (by simpa using hqs.length_eq)).cons_nil
    · rw [hopening, writes_append]
      exact List.prefix_append _ _
  | store c k ih =>
    rw [lead] at h
    obtain ⟨others', mid, h₁, h⟩ := Run.bind_eq_ok h
    obtain ⟨r, mid', h₂, h⟩ := Run.bind_eq_ok h
    obtain ⟨ps, hps, rfl, hran⟩ := mapM_turned h₁
    have hlen : (ps.map (·.2)).length = others.length := by rw [List.length_map, hps.length_eq]
    obtain ⟨l, a, qs, es, hl, hqs, rfl, hi, -, hran'⟩ := ih r (hlen ▸ hnext) h
    obtain ⟨rs, hrs, hevents, hvalues, hopening⟩ := traces_of_turned hps hqs
    refine ⟨.called c :: .replied c r :: l, a, rs,
      (ps.map (·.1)).flatten ++ ([.called c, .replied c r] ++ es), .store r hl, hrs, by rw [hvalues],
      ?_, ?_, hran.append ((Ran.called h₂).append hran')⟩
    · rw [hevents]
      have hcall := Interleaved.prepend [] hi [.called c, .replied c r]
      exact Interleaved.prependEach [_] hcall (by simpa using hqs.length_eq)
    · rw [hopening, writes_append]
      exact List.prefix_append _ _

/-- The first of some strands, none of which has made a call. -/
theorem lead_together {s : Strand α} {others : List (Strand α)} {bs : List α}
    (hnext : Leaves env next others.length)
    (h : (s.lead env next false others).run w = (.ok bs, w')) :
    ∃ es, Together .inOrder (s :: others) es (.value bs) ∧ Ran env w es w' := by
  induction s generalizing w bs with
  | failed e => cases h
  | code r k ih =>
    obtain ⟨a, mid, hcode, h⟩ := Run.bind_eq_ok h
    obtain rfl : env.code r = a := Except.ok.inj (congrArg Prod.fst hcode)
    have hstore : mid.store = w.store := (congrArg (·.2.store) hcode).symm
    obtain ⟨es, ht, hran⟩ := ih _ h
    obtain ⟨qs, hqs, ⟨hi, hp⟩, rfl⟩ := ht.value_parts
    cases hqs with
    | @cons _ q _ qs hq hqs =>
      refine ⟨.coded r (env.code r) :: es, ?_, (Ran.wrote r hstore).append hran⟩
      refine together_of_values ((.coded r (env.code r) :: q.1, q.2) :: qs)
        (.cons (.code _ hq) hqs) (@Interleaved.cons _ [] _ _ _ _ hi) ?_
      rw [writes_silent_cons (by simp)]
      exact hp
  | done a =>
    rw [lead] at h
    obtain ⟨others', w₀, h₀, h⟩ := Run.bind_eq_ok h
    obtain ⟨rfl, rfl⟩ := Run.pure_eq_ok h₀
    obtain ⟨rest, mid, h₁, h⟩ := Run.bind_eq_ok h
    obtain ⟨rfl, rfl⟩ := Run.pure_eq_ok h
    obtain ⟨es, ht, hran⟩ := hnext _ _ _ _ rfl h₁
    obtain ⟨qs, hqs, ⟨hi, hp⟩, rfl⟩ := ht.value_parts
    exact ⟨es, together_of_values (([], a) :: qs) (.cons (.done a) hqs) hi.cons_nil hp, hran⟩
  | store c k ih =>
    rw [lead] at h
    obtain ⟨others', w₀, h₀, h⟩ := Run.bind_eq_ok h
    obtain ⟨rfl, rfl⟩ := Run.pure_eq_ok h₀
    obtain ⟨r, mid, h₁, h⟩ := Run.bind_eq_ok h
    obtain ⟨l, a, qs, es, hl, hqs, rfl, hi, hp, hran⟩ := lead_waiting hnext h
    refine ⟨[.called c, .replied c r] ++ es, ?_, (Ran.called h₁).append hran⟩
    refine together_of_values ((.called c :: .replied c r :: l, a) :: qs)
      (.cons (.store r hl) hqs) (Interleaved.prepend [] hi [.called c, .replied c r]) ?_
    rw [List.map_cons, List.flatMap_cons, writes_append, writes_replied]
    exact List.prefix_append_right_inj _ |>.mpr hp

theorem rounds_together (n : Nat) : Leaves env (fun ss : List (Strand α) => rounds env n ss) n := by
  induction n with
  | zero =>
    intro ss bs w w' hlen h
    obtain rfl := List.length_eq_zero_iff.mp hlen
    obtain ⟨rfl, rfl⟩ := Run.pure_eq_ok h
    exact ⟨[], together_of_values [] .nil (.nil (List.forall_mem_nil _)) List.nil_prefix,
      .nil rfl⟩
  | succ n ih =>
    intro ss bs w w' hlen h
    cases ss with
    | nil => cases hlen
    | cons s others =>
      obtain rfl : others.length = n := by simpa using hlen
      exact lead_together ih h

end Strand

namespace Program

variable {env : Surroundings} {w w' : World}

/-! ## Runs of programs -/

theorem run_bind (p : Program α) (f : α → Program β) :
    (p >>= f).run env = p.run env >>= fun a => (f a).run env := by
  show (p.bind f).run env = _
  induction p with
  | done a => exact (pure_bind (m := Run) a fun a => (f a).run env).symm
  | failed e => rfl
  | store c k ih => simp only [bind, run, bind_assoc, ih]
  | design r k ih => simp only [bind, run, bind_assoc, ih]
  | announce m k ih => simp only [bind, run, bind_assoc, ih]
  | together ss k ih => simp only [bind, run, bind_assoc, ih]

theorem run_bind_eq_ok {p : Program α} {f : α → Program β} {b : β}
    (h : ((p >>= f).run env).run w = (.ok b, w')) :
    ∃ a mid, (p.run env).run w = (.ok a, mid) ∧ ((f a).run env).run mid = (.ok b, w') := by
  rw [run_bind] at h
  exact Run.bind_eq_ok h

theorem run_ofExcept {x : Except CompileError α} {a : α}
    (h : ((ofExcept x).run env).run w = (.ok a, w')) : x = .ok a ∧ w' = w := by
  cases x with
  | ok b =>
    obtain ⟨rfl, rfl⟩ := Run.pure_eq_ok h
    exact ⟨rfl, rfl⟩
  | error e => cases h

/-- A run with a result leaves a trace with this result. -/
theorem run_trace {p : Program α} {a : α}
    (h : (p.run env).run w = (.ok a, w')) :
    ∃ es, p.Trace .inOrder es (.value a) ∧ Ran env w es w' := by
  induction p generalizing w with
  | done b =>
    obtain ⟨rfl, rfl⟩ := Run.pure_eq_ok h
    exact ⟨[], .done b, .nil rfl⟩
  | failed e => cases h
  | store c k ih =>
    obtain ⟨r, mid, h₁, h⟩ := Run.bind_eq_ok h
    obtain ⟨es, ht, hran⟩ := ih r h
    exact ⟨[.called c, .replied c r] ++ es, .store r ht, (Ran.called h₁).append hran⟩
  | design r k ih =>
    obtain ⟨u, mid, h₁, h⟩ := Run.bind_eq_ok h
    have hstore : mid.store = w.store := (congrArg (·.2.store) h₁).symm
    obtain ⟨es, ht, hran⟩ := ih _ h
    exact ⟨.designed r (env.design r) :: es, .design _ ht, (Ran.drew r hstore).append hran⟩
  | announce m k ih =>
    obtain ⟨u, mid, h₁, h⟩ := Run.bind_eq_ok h
    have hstore : mid.store = w.store := (congrArg (·.2.store) h₁).symm
    obtain ⟨es, ht, hran⟩ := ih h
    exact ⟨.told m :: es, .announce ht, (Ran.told m hstore).append hran⟩
  | together ss k ih =>
    obtain ⟨bs, mid, h₁, h⟩ := Run.bind_eq_ok h
    obtain ⟨es, ht, hran⟩ := Strand.rounds_together _ _ _ _ _ rfl h₁
    obtain ⟨es', ht', hran'⟩ := ih bs h
    exact ⟨es ++ es', .together ht ht', hran.append hran'⟩

end Program
end AgentSpec
