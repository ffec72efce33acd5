import AgentSpec.Proofs.Store.Admitted
import AgentSpec.Proofs.Trace.Runs

/-!
Runs that end, with a result or with an error.

If every call to the store reaches the tables, no run waits for ever: each ends, and leaves a trace
that ends in the same way (`Program.run_ends`).  A strand that fails ends the run in the middle of a
round, when the others have made some of their calls and not the rest; so what is said of a turn is
that it takes each strand on to another one, which may be one that has failed.
-/
namespace AgentSpec

/-- Every call reaches the tables, at times that are read back, and identifiers are always new. -/
structure Surroundings.Attentive (env : Surroundings) : Prop where
  answers : ∀ c, env.cue c = none
  long : ∀ s c, 8 ≤ (env.name s c).length
  unused : ∀ s c, env.name s c ∉ s.ids
  ordinary : ∀ n, (env.time n).Ordinary

/-- A run stops as a trace ends. -/
inductive Ends : Except Stop α → End α → Prop
  | value (a : α) : Ends (.ok a) (.value a)
  | error (e : CompileError) : Ends (.error (.failed e)) (.error e)

/-- A call is always answered, and from the tables. -/
theorem Surroundings.Attentive.callStore {env : Surroundings} (henv : env.Attentive)
    {c : StoreCall} {w w' : World} {res : Except Stop c.Reply}
    (h : (env.callStore c).run w = (res, w')) :
    ∃ r, res = .ok r ∧ w.store.Serves [.called c, .replied c r] w'.store := by
  let stamp : Stamp := ⟨env.name w.store c, env.time w.journal.length⟩
  have hfresh : stamp.Fresh w.store :=
    ⟨henv.long w.store c, henv.unused w.store c, henv.ordinary _⟩
  unfold Surroundings.callStore at h
  simp only [henv.answers c] at h
  have hres : Except.ok (c.answer stamp w.store).1 = res := congrArg Prod.fst h
  have hstore : (c.answer stamp w.store).2 = w'.store := congrArg (·.2.store) h
  refine ⟨_, hres.symm, .silent (by simp) (.answered stamp c hfresh ?_)⟩
  rw [hstore]
  exact .nil _

namespace Strand

variable {env : Surroundings} {w w' : World}

/-! ## Strands that are taken on -/

theorem Steps.refl (s : Strand α) : s.Steps [] s := fun _ _ ht => ht

theorem Steps.trans {s mid s' : Strand α} {es es' : List Event} (h : s.Steps es mid)
    (h' : mid.Steps es' s') : s.Steps (es ++ es') s' := by
  intro rest o ht
  rw [List.append_assoc]
  exact h _ o (h' rest o ht)

theorem steps_store {c : StoreCall} {k : c.Reply → Strand α} (r : c.Reply) :
    (Strand.store c k).Steps [.called c, .replied c r] (k r) := fun _ _ ht => .store r ht

theorem steps_code {r : CodeRequest} {k : Except AssistantError GeneratedCode → Strand α}
    (a : Except AssistantError GeneratedCode) : (Strand.code r k).Steps [.coded r a] (k a) :=
  fun _ _ ht => .code a ht

/-- The first of some strands is taken on. -/
theorem together_head {s s' : Strand α} {others : List (Strand α)} {l es : List Event}
    {o : End (List α)} (hs : s.Steps l s') (ht : Together .any (s' :: others) es o) :
    Together .any (s :: others) (l ++ es) o := by
  obtain ⟨ps, hps, hi, ho⟩ := ht.parts
  cases hps with
  | @cons _ p _ ps hp hps =>
    exact ⟨(l ++ p.1, p.2) :: ps, .cons (hs p.1 p.2 hp) hps, Interleaved.prepend [] hi l, ho⟩

/-- Strands that are taken on, and then end. -/
theorem traces_of_steps {ss : List (Strand α)} {ps : List (List Event × Strand α)}
    {qs : List (List Event × End α)} (h : List.Forall₂ (fun s p => s.Steps p.1 p.2) ss ps)
    (h' : List.Forall₂ (fun s q => s.Trace q.1 q.2) (ps.map (·.2)) qs) :
    ∃ rs : List (List Event × End α), List.Forall₂ (fun s r => s.Trace r.1 r.2) ss rs ∧
      rs.map (·.1) = List.zipWith (· ++ ·) (ps.map (·.1)) (qs.map (·.1)) ∧
      rs.map (·.2) = qs.map (·.2) := by
  induction h generalizing qs with
  | nil =>
    cases h'
    exact ⟨[], .nil, rfl, rfl⟩
  | @cons s p ss ps hp _ ih =>
    rw [List.map_cons] at h'
    cases h' with
    | @cons _ q _ qs hq h' =>
      obtain ⟨rs, hrs, hevents, hends⟩ := ih h'
      refine ⟨(p.1 ++ q.1, q.2) :: rs, .cons (hp q.1 q.2 hq) hrs, ?_, ?_⟩
      · rw [List.map_cons, hevents]
        rfl
      · rw [List.map_cons, hends]
        rfl

/-- All but the first of some strands are taken on. -/
theorem together_tail {s : Strand α} {others : List (Strand α)} {ps : List (List Event × Strand α)}
    {es : List Event} {o : End (List α)}
    (hs : List.Forall₂ (fun s p => s.Steps p.1 p.2) others ps)
    (ht : Together .any (s :: ps.map (·.2)) es o) :
    Together .any (s :: others) ((ps.map (·.1)).flatten ++ es) o := by
  obtain ⟨qs, hqs, hi, ho⟩ := ht.parts
  cases hqs with
  | @cons _ q _ qs hq hqs =>
    obtain ⟨rs, hrs, hevents, hends⟩ := traces_of_steps hs hqs
    have hlen : (ps.map (·.1)).length = (qs.map (·.1)).length := by
      rw [List.length_map, List.length_map, ← hqs.length_eq, List.length_map]
    refine ⟨q :: rs, .cons hq hrs, ?_, ?_⟩
    · rw [List.map_cons, hevents]
      exact Interleaved.prependEach [q.1] hi hlen
    · rw [List.map_cons, hends]
      exact ho

/-- One of the strands has failed, and the others go no further. -/
theorem together_failed {ss : List (Strand α)} {e : CompileError} (h : .failed e ∈ ss) :
    Together .any ss [] (.error e) := by
  let part : Strand α → List Event × End α := fun
    | .failed e => ([], .error e)
    | _ => ([], .cut)
  have htrace : ∀ s : Strand α, s.Trace (part s).1 (part s).2 := by
    intro s
    cases s with
    | failed e => exact .failed e
    | _ => exact .cut _
  have hnil : ∀ l ∈ (ss.map part).map (·.1), l = [] := by
    intro l hl
    obtain ⟨p, hp, rfl⟩ := List.mem_map.mp hl
    obtain ⟨s, -, rfl⟩ := List.mem_map.mp hp
    cases s <;> rfl
  refine ⟨ss.map part, ?_, .nil hnil, .error ?_⟩
  · rw [List.forall₂_map_right_iff, List.forall₂_same]
    exact fun s _ => htrace s
  · exact List.mem_map.mpr ⟨part (.failed e), List.mem_map_of_mem h, rfl⟩

/-- The first strand is done, and the others end. -/
theorem together_done {a : α} {others : List (Strand α)} {es : List Event} {res : Except Stop (List α)}
    {o : End (List α)} (ht : Together .any others es o) (ho : Ends res o) :
    ∃ o', Together .any (.done a :: others) es o' ∧ Ends (res.map (a :: ·)) o' := by
  obtain ⟨ps, hps, hi, hj⟩ := ht.parts
  have hparts : List.Forall₂ (fun s p => s.Trace p.1 p.2) (.done a :: others)
      (([], .value a) :: ps) := .cons (.done a) hps
  cases ho with
  | value bs =>
    refine ⟨.value (a :: bs), ⟨_, hparts, hi.cons_nil, ?_⟩, .value _⟩
    generalize hends : ps.map (·.2) = ends at hj
    cases hj
    rw [List.map_cons, hends]
    exact .values (a :: bs)
  | error e =>
    refine ⟨.error e, ⟨_, hparts, hi.cons_nil, ?_⟩, .error e⟩
    generalize hends : ps.map (·.2) = ends at hj
    cases hj with
    | error he =>
      rw [List.map_cons, hends]
      exact .error (List.mem_cons_of_mem _ he)

/-! ## Turns -/

/-- A strand is taken on to another one.  If that one has failed, so has the run. -/
structure Taken (s : Strand α) (es : List Event) (s' : Strand α) (res : Except Stop (Strand α)) :
    Prop where
  steps : s.Steps es s'
  result : res = .ok s' ∨ ∃ e, s' = .failed e ∧ res = .error (.failed e)

theorem Taken.of_ok {s s' s₁ : Strand α} {es : List Event} (h : s.Taken es s' (.ok s₁)) :
    s' = s₁ := by
  rcases h.result with hres | ⟨e, -, hres⟩
  · exact (Except.ok.inj hres).symm
  · cases hres

theorem Taken.of_error {s s' : Strand α} {es : List Event} {stop : Stop}
    (h : s.Taken es s' (.error stop)) : ∃ e, s' = .failed e ∧ stop = .failed e := by
  rcases h.result with hres | ⟨e, hs, hres⟩
  · cases hres
  · exact ⟨e, hs, Except.error.inj hres⟩

theorem advance_taken {s : Strand α} {res : Except Stop (Strand α)}
    (h : (s.advance env).run w = (res, w')) :
    ∃ es s', s.Taken es s' res ∧ w.store.Serves es w'.store := by
  induction s generalizing w with
  | done a =>
    cases h
    exact ⟨[], .done a, ⟨.refl _, Or.inl rfl⟩, .nil _⟩
  | failed e =>
    cases h
    exact ⟨[], .failed e, ⟨.refl _, Or.inr ⟨e, rfl, rfl⟩⟩, .nil _⟩
  | store c k =>
    cases h
    exact ⟨[], .store c k, ⟨.refl _, Or.inl rfl⟩, .nil _⟩
  | code r k ih =>
    obtain ⟨a, mid, hcode, h⟩ | ⟨stop, hcode, -⟩ := Run.bind_cases h
    · obtain rfl : env.code r = a := Except.ok.inj (congrArg Prod.fst hcode)
      have hstore : w.store = mid.store := congrArg (·.2.store) hcode
      obtain ⟨es, s', ⟨hsteps, hres⟩, hserves⟩ := ih _ h
      rw [← hstore] at hserves
      exact ⟨.coded r (env.code r) :: es, s', ⟨(steps_code _).trans hsteps, hres⟩,
        .silent (by simp) hserves⟩
    · cases hcode

theorem turn_taken (henv : env.Attentive) {s : Strand α} {res : Except Stop (Strand α)}
    (h : (s.turn env).run w = (res, w')) :
    ∃ es s', s.Taken es s' res ∧ w.store.Serves es w'.store := by
  rcases Run.bind_cases h with ⟨s₁, mid, h₁, h⟩ | ⟨stop, h₁, rfl⟩
  · obtain ⟨es₁, s', htaken, hserves⟩ := advance_taken h₁
    obtain rfl := htaken.of_ok
    cases s' with
    | store c k =>
      rcases Run.bind_cases h with ⟨r, mid', h₂, h⟩ | ⟨stop, h₂, -⟩
      · obtain ⟨r', hr, hserves'⟩ := henv.callStore h₂
        obtain rfl := Except.ok.inj hr
        obtain ⟨es₃, s₃, htaken', hserves''⟩ := advance_taken h
        exact ⟨_, s₃, ⟨htaken.steps.trans ((steps_store r).trans htaken'.steps), htaken'.result⟩,
          hserves.trans (hserves'.trans hserves'')⟩
      · obtain ⟨r, hr, -⟩ := henv.callStore h₂
        cases hr
    | _ =>
      cases h
      exact ⟨es₁, _, ⟨htaken.steps, Or.inl rfl⟩, hserves⟩
  · exact advance_taken h₁

/-- Strands are taken on, each by events of its own.  If one of them has failed, so has the run. -/
structure TakenAll (ss : List (Strand α)) (ps : List (List Event × Strand α))
    (res : Except Stop (List (Strand α))) : Prop where
  steps : List.Forall₂ (fun s p => s.Steps p.1 p.2) ss ps
  result : res = .ok (ps.map (·.2)) ∨ ∃ e, .failed e ∈ ps.map (·.2) ∧ res = .error (.failed e)

theorem TakenAll.of_ok {ss ss' : List (Strand α)} {ps : List (List Event × Strand α)}
    (h : TakenAll ss ps (.ok ss')) : ss' = ps.map (·.2) := by
  rcases h.result with hres | ⟨e, -, hres⟩
  · exact Except.ok.inj hres
  · cases hres

theorem TakenAll.of_error {ss : List (Strand α)} {ps : List (List Event × Strand α)} {stop : Stop}
    (h : TakenAll ss ps (.error stop)) : ∃ e, .failed e ∈ ps.map (·.2) ∧ stop = .failed e := by
  rcases h.result with hres | ⟨e, hmem, hres⟩
  · cases hres
  · exact ⟨e, hmem, Except.error.inj hres⟩

/-- Strands that stay where they are. -/
def stay (ss : List (Strand α)) : List (List Event × Strand α) := ss.map fun s => ([], s)

theorem stay_steps (ss : List (Strand α)) :
    List.Forall₂ (fun s p => s.Steps p.1 p.2) ss (stay ss) := by
  rw [stay, List.forall₂_map_right_iff, List.forall₂_same]
  exact fun s _ => .refl s

theorem stay_flatten (ss : List (Strand α)) : ((stay ss).map (·.1)).flatten = [] := by
  simp [stay]

theorem stay_strands (ss : List (Strand α)) : (stay ss).map (·.2) = ss := by
  simp [stay, Function.comp_def]

/-- Strands take a turn each.  Behind one that fails there are no more turns. -/
theorem mapM_taken (henv : env.Attentive) {ss : List (Strand α)}
    {res : Except Stop (List (Strand α))} (h : (ss.mapM (turn env)).run w = (res, w')) :
    ∃ ps, TakenAll ss ps res ∧ w.store.Serves (ps.map (·.1)).flatten w'.store := by
  induction ss generalizing w res with
  | nil =>
    rw [List.mapM_nil] at h
    cases h
    exact ⟨[], ⟨.nil, Or.inl rfl⟩, .nil _⟩
  | cons s rest ih =>
    rw [List.mapM_cons] at h
    rcases Run.bind_cases h with ⟨s₁, mid, h₁, h⟩ | ⟨stop, h₁, rfl⟩
    · obtain ⟨es, s', htaken, hserves⟩ := turn_taken henv h₁
      obtain rfl := htaken.of_ok
      rcases Run.bind_cases h with ⟨rest', mid', h₂, h⟩ | ⟨stop, h₂, rfl⟩
      · cases h
        obtain ⟨ps, hps, hserves'⟩ := ih h₂
        obtain rfl := hps.of_ok
        exact ⟨(es, s') :: ps, ⟨.cons htaken.steps hps.steps, Or.inl rfl⟩, hserves.trans hserves'⟩
      · obtain ⟨ps, hps, hserves'⟩ := ih h₂
        obtain ⟨e, hmem, rfl⟩ := hps.of_error
        exact ⟨(es, s') :: ps, ⟨.cons htaken.steps hps.steps,
          Or.inr ⟨e, List.mem_cons_of_mem _ hmem, rfl⟩⟩, hserves.trans hserves'⟩
    · obtain ⟨es, s', htaken, hserves⟩ := turn_taken henv h₁
      obtain ⟨e, rfl, rfl⟩ := htaken.of_error
      refine ⟨(es, .failed e) :: stay rest, ⟨.cons htaken.steps (stay_steps rest), Or.inr ?_⟩, ?_⟩
      · exact ⟨e, List.mem_cons_self, rfl⟩
      · rw [List.map_cons, List.flatten_cons, stay_flatten, List.append_nil]
        exact hserves

/-- The others take a turn, or they need not yet. -/
def turns (env : Surroundings) (waiting : Bool) (others : List (Strand α)) : Run (List (Strand α)) :=
  if waiting then others.mapM (turn env) else pure others

theorem turns_taken (henv : env.Attentive) {waiting : Bool} {others : List (Strand α)}
    {res : Except Stop (List (Strand α))} (h : (turns env waiting others).run w = (res, w')) :
    ∃ ps, TakenAll others ps res ∧ w.store.Serves (ps.map (·.1)).flatten w'.store := by
  cases waiting with
  | true => exact mapM_taken henv h
  | false =>
    cases h
    refine ⟨stay others, ⟨stay_steps others, Or.inl ?_⟩, ?_⟩
    · rw [stay_strands]
    · rw [stay_flatten]
      exact .nil _

section Lead

variable {next : List (Strand α) → Run (List α)} {waiting : Bool} {others : List (Strand α)}

theorem lead_done (a : α) : lead env next waiting others (.done a) =
    turns env waiting others >>= fun others => next others >>= fun bs => pure (a :: bs) := by
  cases waiting <;> rfl

theorem lead_store (c : StoreCall) (k : c.Reply → Strand α) :
    lead env next waiting others (.store c k) =
      turns env waiting others >>= fun others =>
        env.callStore c >>= fun r => lead env next true others (k r) := by
  cases waiting <;> rfl

end Lead

/-! ## Strands that run together -/

/-- The run ends, and leaves a trace of the strands that ends so. -/
def EndsTogether (x : Run (List α)) (ss : List (Strand α)) : Prop :=
  ∀ res w w', x.run w = (res, w') →
    ∃ es o, Together .any ss es o ∧ Ends res o ∧ w.store.Serves es w'.store

/-- The others take their turns, and what follows ends with them. -/
theorem turns_end (henv : env.Attentive) {s : Strand α} {rest : List (Strand α) → Run (List α)}
    {waiting : Bool} {others : List (Strand α)}
    (hrest : ∀ others', others'.length = others.length →
      EndsTogether (rest others') (s :: others')) :
    EndsTogether (turns env waiting others >>= rest) (s :: others) := by
  intro res w w' h
  rcases Run.bind_cases h with ⟨others', mid, h₁, h⟩ | ⟨stop, h₁, rfl⟩
  · obtain ⟨ps, hps, hserves⟩ := turns_taken henv h₁
    obtain rfl := hps.of_ok
    have hlen : (ps.map (·.2)).length = others.length := by
      rw [List.length_map, ← hps.steps.length_eq]
    obtain ⟨es, o, ht, ho, hserves'⟩ := hrest _ hlen res mid w' h
    exact ⟨_, o, together_tail hps.steps ht, ho, hserves.trans hserves'⟩
  · obtain ⟨ps, hps, hserves⟩ := turns_taken henv h₁
    obtain ⟨e, hmem, rfl⟩ := hps.of_error
    have ht := together_tail (s := s) hps.steps (together_failed (List.mem_cons_of_mem _ hmem))
    rw [List.append_nil] at ht
    exact ⟨_, .error e, ht, .error e, hserves⟩

theorem lead_ends (henv : env.Attentive) {next : List (Strand α) → Run (List α)} {n : Nat}
    (hnext : ∀ ss, ss.length = n → EndsTogether (next ss) ss) {s : Strand α} {waiting : Bool}
    {others : List (Strand α)} (hlen : others.length = n) :
    EndsTogether (s.lead env next waiting others) (s :: others) := by
  induction s generalizing waiting others with
  | failed e =>
    intro res w w' h
    cases h
    exact ⟨[], .error e, together_failed List.mem_cons_self, .error e, .nil _⟩
  | code r k ih =>
    intro res w w' h
    rcases Run.bind_cases h with ⟨a, mid, hcode, h⟩ | ⟨stop, hcode, -⟩
    · obtain rfl : env.code r = a := Except.ok.inj (congrArg Prod.fst hcode)
      have hstore : w.store = mid.store := congrArg (·.2.store) hcode
      obtain ⟨es, o, ht, ho, hserves⟩ := ih _ hlen res mid w' h
      rw [← hstore] at hserves
      exact ⟨_, o, together_head (steps_code (env.code r)) ht, ho, .silent (by simp) hserves⟩
    · cases hcode
  | done a =>
    rw [lead_done]
    refine turns_end henv fun others' hlen' res w w' h => ?_
    rcases Run.bind_cases h with ⟨bs, mid, h₁, h⟩ | ⟨stop, h₁, rfl⟩
    · obtain ⟨es, o, ht, ho, hserves⟩ := hnext _ (hlen'.trans hlen) _ _ _ h₁
      obtain ⟨o', ht', ho'⟩ := together_done (a := a) ht ho
      cases h
      exact ⟨es, o', ht', ho', hserves⟩
    · obtain ⟨es, o, ht, ho, hserves⟩ := hnext _ (hlen'.trans hlen) _ _ _ h₁
      obtain ⟨o', ht', ho'⟩ := together_done (a := a) ht ho
      exact ⟨es, o', ht', ho', hserves⟩
  | store c k ih =>
    rw [lead_store]
    refine turns_end henv fun others' hlen' res w w' h => ?_
    rcases Run.bind_cases h with ⟨r, mid, h₁, h⟩ | ⟨stop, h₁, -⟩
    · obtain ⟨r', hr, hserves⟩ := henv.callStore h₁
      obtain rfl := Except.ok.inj hr
      obtain ⟨es, o, ht, ho, hserves'⟩ := ih r (hlen'.trans hlen) res mid w' h
      exact ⟨_, o, together_head (steps_store r) ht, ho, hserves.trans hserves'⟩
    · obtain ⟨r, hr, -⟩ := henv.callStore h₁
      cases hr

theorem rounds_end (henv : env.Attentive) (n : Nat) :
    ∀ ss : List (Strand α), ss.length = n → EndsTogether (rounds env n ss) ss := by
  induction n with
  | zero =>
    intro ss hlen res w w' h
    obtain rfl := List.length_eq_zero_iff.mp hlen
    cases h
    refine ⟨[], .value [], ⟨[], .nil, .nil (List.forall_mem_nil _), .values []⟩, .value [], .nil _⟩
  | succ n ih =>
    intro ss hlen
    cases ss with
    | nil => cases hlen
    | cons s others =>
      have hothers : others.length = n := by simpa using hlen
      exact lead_ends henv ih hothers

end Strand

/-! ## Runs of programs -/

/-- Every run ends, and leaves a trace with its end. -/
theorem Program.run_ends {env : Surroundings} (henv : env.Attentive) {p : Program α} {w w' : World}
    {res : Except Stop α} (h : (p.run env).run w = (res, w')) :
    ∃ es o, p.Trace .any es o ∧ Ends res o ∧ w.store.Serves es w'.store := by
  induction p generalizing w with
  | done a =>
    cases h
    exact ⟨[], .value a, .done a, .value a, .nil _⟩
  | failed e =>
    cases h
    exact ⟨[], .error e, .failed e, .error e, .nil _⟩
  | store c k ih =>
    rcases Run.bind_cases h with ⟨r, mid, h₁, h⟩ | ⟨stop, h₁, -⟩
    · obtain ⟨r', hr, hserves⟩ := henv.callStore h₁
      obtain rfl := Except.ok.inj hr
      obtain ⟨es, o, ht, ho, hserves'⟩ := ih r h
      exact ⟨_, o, .store r ht, ho, hserves.trans hserves'⟩
    · obtain ⟨r, hr, -⟩ := henv.callStore h₁
      cases hr
  | design r k ih =>
    rcases Run.bind_cases h with ⟨u, mid, h₁, h⟩ | ⟨stop, h₁, -⟩
    · have hstore : w.store = mid.store := congrArg (·.2.store) h₁
      obtain ⟨es, o, ht, ho, hserves⟩ := ih _ h
      rw [← hstore] at hserves
      exact ⟨_, o, .design _ ht, ho, .silent (by simp) hserves⟩
    · cases h₁
  | announce m k ih =>
    rcases Run.bind_cases h with ⟨u, mid, h₁, h⟩ | ⟨stop, h₁, -⟩
    · have hstore : w.store = mid.store := congrArg (·.2.store) h₁
      obtain ⟨es, o, ht, ho, hserves⟩ := ih h
      rw [← hstore] at hserves
      exact ⟨_, o, .announce ht, ho, .silent (by simp) hserves⟩
    · cases h₁
  | together ss k ih =>
    rcases Run.bind_cases h with ⟨bs, mid, h₁, h⟩ | ⟨stop, h₁, rfl⟩
    · obtain ⟨es, o, ht, ho, hserves⟩ := Strand.rounds_end henv _ ss rfl _ _ _ h₁
      cases ho
      obtain ⟨es', o', ht', ho', hserves'⟩ := ih bs h
      exact ⟨_, o', .together ht ht', ho', hserves.trans hserves'⟩
    · obtain ⟨es, o, ht, ho, hserves⟩ := Strand.rounds_end henv _ ss rfl _ _ _ h₁
      cases ho with
      | error e => exact ⟨es, .error e, .togetherFailed ht, .error e, hserves⟩

end AgentSpec
