import AgentSpec.Proofs.Persist.Stages
import AgentSpec.Proofs.Store.Listing

/-!
The writes of a run that stored everything.

The writes of a stage are interleaved from those of its strands.  A strand writes one row and then
rows that point to it, so the latter can be told from those of other strands, and they stand in the
strand's order.  Where turns are taken in order, the first rows of the strands stand in the order in
which the strands were started.
-/
namespace AgentSpec

/-! ## Rows with rows that point to them -/

section Bundles

variable {head : κ → Write} {key : κ → String} {tail : String → τ → Write}
  {first? : Write → Option κ} {rest? : String → Write → Option τ} {bundles : List (κ × List τ)}
  {ws : List Write}

/-- The writes of a strand: a row and those that point to it. -/
def bundle (head : κ → Write) (key : κ → String) (tail : String → τ → Write) (b : κ × List τ) :
    List Write := head b.1 :: b.2.map (tail (key b.1))

theorem filterMap_bundle (hhead : ∀ id p, rest? id (head p) = none)
    (htail : ∀ id id' t, rest? id (tail id' t) = if id' = id then some t else none) (id : String)
    (b : κ × List τ) :
    (bundle head key tail b).filterMap (rest? id) = if key b.1 = id then b.2 else [] := by
  rw [bundle, List.filterMap_cons_none (hhead id b.1), List.filterMap_map]
  by_cases h : key b.1 = id
  · rw [if_pos h]
    refine (List.filterMap_congr fun t _ => ?_).trans List.filterMap_some
    rw [Function.comp_apply, htail, if_pos h]
  · rw [if_neg h, List.filterMap_eq_nil_iff]
    intro t _
    rw [Function.comp_apply, htail, if_neg h]

/-- What points to a row is what its strand wrote, in the strand's order. -/
theorem Interleaved.rest_of_bundle (hi : Interleaved (bundles.map (bundle head key tail)) ws)
    (hhead : ∀ id p, rest? id (head p) = none)
    (htail : ∀ id id' t, rest? id (tail id' t) = if id' = id then some t else none)
    (hkeys : (bundles.map (key ·.1)).Nodup) {b : κ × List τ} (hb : b ∈ bundles) :
    ws.filterMap (rest? (key b.1)) = b.2 := by
  obtain ⟨before, after, rfl⟩ := List.append_of_mem hb
  have hpick := hi.filterMap (rest? (key b.1))
  rw [List.map_map, List.map_append, List.map_cons] at hpick
  have hself : (List.filterMap (rest? (key b.1)) ∘ bundle head key tail) b = b.2 := by
    rw [Function.comp_apply, filterMap_bundle hhead htail, if_pos rfl]
  rw [List.map_append, List.map_cons, List.nodup_append] at hkeys
  obtain ⟨-, hafter, hbefore⟩ := hkeys
  rw [hself] at hpick
  refine hpick.eq_of_others_nil ?_ ?_
  · intro l hl
    obtain ⟨x, hx, rfl⟩ := List.mem_map.mp hl
    rw [Function.comp_apply, filterMap_bundle hhead htail, if_neg]
    exact hbefore _ (List.mem_map_of_mem hx) _ List.mem_cons_self
  · intro l hl
    obtain ⟨x, hx, rfl⟩ := List.mem_map.mp hl
    rw [Function.comp_apply, filterMap_bundle hhead htail, if_neg]
    exact fun heq => (List.nodup_cons.mp hafter).1 (heq ▸ List.mem_map_of_mem hx)

theorem filterMap_first (hhead : ∀ p, first? (head p) = some p)
    (htail : ∀ id t, first? (tail id t) = none) :
    (bundles.map (bundle head key tail)).flatten.filterMap first? = bundles.map (·.1) := by
  induction bundles with
  | nil => rfl
  | cons b rest ih =>
    have htails : (b.2.map (tail (key b.1))).filterMap first? = [] := by
      rw [List.filterMap_eq_nil_iff]
      intro w hw
      obtain ⟨t, -, rfl⟩ := List.mem_map.mp hw
      exact htail _ t
    rw [List.map_cons, List.flatten_cons, List.filterMap_append, ih, bundle,
      List.filterMap_cons_some (hhead b.1), htails]
    rfl

theorem Interleaved.firsts (hi : Interleaved (bundles.map (bundle head key tail)) ws)
    (hhead : ∀ p, first? (head p) = some p) (htail : ∀ id t, first? (tail id t) = none) :
    (ws.filterMap first?).Perm (bundles.map (·.1)) := by
  rw [← filterMap_first hhead htail]
  exact hi.perm.filterMap first?

/-- First rows that stand in front of all others stand in order. -/
theorem Interleaved.firsts_eq (hi : Interleaved (bundles.map (bundle head key tail)) ws)
    (hhead : ∀ p, first? (head p) = some p) (htail : ∀ id t, first? (tail id t) = none)
    (hp : bundles.map (head ·.1) <+: ws) : ws.filterMap first? = bundles.map (·.1) := by
  have hlen := (hi.firsts hhead htail).length_eq
  obtain ⟨rest, rfl⟩ := hp
  have hfirst : (bundles.map (head ·.1)).filterMap first? = bundles.map (·.1) := by
    rw [List.filterMap_map, ← List.filterMap_eq_map]
    exact List.filterMap_congr fun b _ => hhead b.1
  rw [List.filterMap_append, hfirst] at hlen ⊢
  rw [List.length_append, Nat.add_eq_left] at hlen
  rw [List.length_eq_zero_iff.mp hlen, List.append_nil]

end Bundles

/-- The first writes of the parts stand in the order of the parts. -/
def Weave.Orders (w : Weave) : Prop :=
  ∀ ls es, w.Allows ls es → ls.flatMap opening <+: writes es

namespace Weave

variable {w : Weave} {firsts : List Write} {rests : List (List Write)} {parts : List (List Event)}
  {es : List Event}

/-- The writes of parts that each open with a write. -/
theorem interleaved_writes {bs : List β} (first : β → Write) (rest : β → List Write)
    (h : List.Forall₂ (fun b l => Opens l (first b) (rest b)) bs parts) (ha : w.Allows parts es) :
    Interleaved (bs.map fun b => first b :: rest b) (writes es) := by
  have hi := (w.interleaved ha).filterMap Event.write?
  rw [forall₂_map_eq (h.imp fun b l ho => ho.writes_eq.symm)]
  exact hi

theorem prefix_writes {bs : List β} (first : β → Write) (rest : β → List Write)
    (h : List.Forall₂ (fun b l => Opens l (first b) (rest b)) bs parts) (ho : w.Orders)
    (ha : w.Allows parts es) : bs.map first <+: writes es := by
  have hfirst : parts.flatMap opening = bs.map first := by
    clear ha
    induction h with
    | nil => rfl
    | cons hopens _ ih =>
      rw [List.flatMap_cons, hopens.head, ih, List.map_cons]
      rfl
  rw [← hfirst]
  exact ho _ _ ha

end Weave

/-! ## The writes of each stage -/

/-- The part of a run that a write belongs to. -/
def Write.phase : Write → Phase
  | .agent _ _ | .change _ _ _ => .agent
  | .model _ _ | .fields _ _ => .models
  | .action _ _ _ _ | .step _ _ => .actions
  | .schedule _ _ _ | .turn _ _ => .schedules

/-- What is picked out of one stage is not found in another. -/
theorem filterMap_eq_nil_of_phase {ws : List Write} {phase other : Phase} {f : Write → Option α}
    (hws : ∀ v ∈ ws, v.phase = phase) (hne : phase ≠ other)
    (hf : ∀ v, v.phase ≠ other → f v = none) : ws.filterMap f = [] :=
  List.filterMap_eq_nil_iff.mpr fun v hv => hf v (hws v hv ▸ hne)

theorem Write.model?_of_phase {v : Write} (h : v.phase ≠ .models) : v.model? = none := by
  cases v with
  | model => exact absurd rfl h
  | _ => rfl

theorem Write.appended?_of_phase {id : String} {v : Write} (h : v.phase ≠ .models) :
    v.appended? id = none := by
  cases v with
  | fields => exact absurd rfl h
  | _ => rfl

theorem Write.action?_of_phase {v : Write} (h : v.phase ≠ .actions) : v.action? = none := by
  cases v with
  | action => exact absurd rfl h
  | _ => rfl

theorem Write.step?_of_phase {id : String} {v : Write} (h : v.phase ≠ .actions) :
    v.step? id = none := by
  cases v with
  | step => exact absurd rfl h
  | _ => rfl

theorem Write.schedule?_of_phase {v : Write} (h : v.phase ≠ .schedules) : v.schedule? = none := by
  cases v with
  | schedule => exact absurd rfl h
  | _ => rfl

theorem Write.turn?_of_phase {id : String} {v : Write} (h : v.phase ≠ .schedules) :
    v.turn? id = none := by
  cases v with
  | turn => exact absurd rfl h
  | _ => rfl

namespace Program

variable {w : Weave} {es : List Event} {agentId : String} {known : Known} {coding : Bool}

theorem phase_of_interleaved {bundles : List (List Write)} {ws : List Write} {phase : Phase}
    (hi : Interleaved bundles ws) (h : ∀ b ∈ bundles, ∀ v ∈ b, v.phase = phase) :
    ∀ v ∈ ws, v.phase = phase := by
  intro v hv
  obtain ⟨b, hb, hvb⟩ := hi.mem_iff.mp hv
  exact h b hb v hvb

theorem saveModels_writes {models : List Model} {additions : Additions} {saved : List StoredModel}
    (h : (saveModels agentId models additions known).Trace w es (.value saved)) :
    ∃ appends, known.resolveAdditions additions = .ok appends ∧ saved.map (·.model) = models ∧
      (∀ v ∈ writes es, v.phase = .models) ∧ ((writes es).filterMap Write.model?).Perm saved ∧
      (∀ id, (appendedTo id (writes es)).Perm
        (appends.filterMap fun p => if p.1 = id then some p.2 else none)) ∧
      (w.Orders → (writes es).filterMap Write.model? = saved) := by
  obtain ⟨appends, parts, es', hplan, hmodels, hparts, hallows, hws⟩ := saveModels_value h
  have hi := w.interleaved_writes id (fun _ => []) hparts hallows
  have hperm : (writes es).Perm
      (saved.map (.model agentId) ++ appends.map fun p => .fields p.1 p.2) := by
    rw [hws]
    refine hi.perm.trans ?_
    rw [← List.flatMap_def]
    exact List.Perm.of_eq (List.flatMap_singleton' _)
  have hmodel : (saved.map (Write.model agentId) ++
      appends.map fun p => Write.fields p.1 p.2).filterMap Write.model? = saved := by
    have hnone : (Write.model? ∘ fun p : String × List Field => Write.fields p.1 p.2) =
        fun _ => none := rfl
    have hsome : Write.model? ∘ Write.model agentId = some := rfl
    rw [List.filterMap_append, List.filterMap_map, List.filterMap_map, hnone, hsome,
      List.filterMap_some, List.filterMap_none, List.append_nil]
  refine ⟨appends, hplan, hmodels, fun v hv => ?_, hmodel ▸ hperm.filterMap _, fun id => ?_,
    fun ho => ?_⟩
  · rcases List.mem_append.mp (hperm.mem_iff.mp hv) with hv | hv
    · obtain ⟨m, -, rfl⟩ := List.mem_map.mp hv
      rfl
    · obtain ⟨p, -, rfl⟩ := List.mem_map.mp hv
      rfl
  · refine (hperm.filterMap _).trans ?_
    have hnone : Write.appended? id ∘ Write.model agentId = fun _ => none := rfl
    rw [List.filterMap_append, List.filterMap_map, List.filterMap_map, hnone, List.filterMap_none,
      List.nil_append]
    exact List.Perm.refl _
  · have hp := w.prefix_writes id (fun _ => []) hparts ho hallows
    rw [List.map_id, ← hws] at hp
    rw [← hp.eq_of_length hperm.length_eq.symm]
    exact hmodel

theorem saveActions_writes {actions : List Action} {saved : List StoredAction × List Warning}
    (h : (saveActions coding agentId actions known).Trace w es (.value saved)) :
    ∃ entries : List ActionEntry,
      saved.1 = entries.map (fun x => .ofAction x.1.1 x.1.2.1 x.1.2.2 x.2) ∧
      List.Forall₂ (fun a x => x.1.2.2 = a ∧ known.models.lookup a.targetModel = some x.1.2.1)
        actions entries ∧
      (∀ x ∈ entries, StepsStored coding x.1.2.2 es 0 x.1.2.2.steps x.2) ∧
      (∀ v ∈ writes es, v.phase = .actions) ∧
      ((writes es).filterMap Write.action?).Perm (entries.map (·.1)) ∧
      ((entries.map (·.1.1)).Nodup →
        ∀ x ∈ entries, (writes es).filterMap (Write.step? x.1.1) = x.2) ∧
      (w.Orders → (writes es).filterMap Write.action? = entries.map (·.1)) := by
  obtain ⟨entries, parts, es', hsaved, hactions, hsteps, hparts, hallows, hws⟩ := saveActions_value h
  have hi : Interleaved (entries.map (bundle (fun p => .action agentId p.1 p.2.1 p.2.2) (·.1)
      .step)) (writes es) := hws ▸ w.interleaved_writes _ _ hparts hallows
  refine ⟨entries, hsaved, hactions, hsteps, phase_of_interleaved hi fun b hb v hv => ?_,
    hi.firsts (fun _ => rfl) (fun _ _ => rfl), fun hids x hx => ?_, fun ho => ?_⟩
  · obtain ⟨x, -, rfl⟩ := List.mem_map.mp hb
    rcases List.mem_cons.mp hv with rfl | hv
    · rfl
    · obtain ⟨t, -, rfl⟩ := List.mem_map.mp hv
      rfl
  · exact hi.rest_of_bundle (fun _ _ => rfl) (fun _ _ _ => rfl) hids hx
  · refine hi.firsts_eq (fun _ => rfl) (fun _ _ => rfl) ?_
    rw [hws]
    exact w.prefix_writes _ _ hparts ho hallows

theorem saveSchedules_writes {schedules : List Schedule} {saved : List StoredSchedule}
    (h : (saveSchedules agentId schedules known).Trace w es (.value saved)) :
    ∃ entries : List ScheduleEntry,
      saved = entries.map (fun x => .ofSchedule x.1.1 x.1.2 x.2) ∧
      List.Forall₂ (fun c x => x.1.2 = c ∧ List.Forall₂ (fun t u => u.step = t.1 ∧
        known.models.lookup t.1.modelName = some u.modelId ∧
        known.actions.lookup t.1.actionName = some u.actionId) c.turns x.2) schedules entries ∧
      (∀ v ∈ writes es, v.phase = .schedules) ∧
      ((writes es).filterMap Write.schedule?).Perm (entries.map (·.1)) ∧
      ((entries.map (·.1.1)).Nodup →
        ∀ x ∈ entries, (writes es).filterMap (Write.turn? x.1.1) = x.2) ∧
      (w.Orders → (writes es).filterMap Write.schedule? = entries.map (·.1)) := by
  obtain ⟨entries, parts, es', hsaved, hschedules, hparts, hallows, hws⟩ := saveSchedules_value h
  have hi : Interleaved (entries.map (bundle (fun p => .schedule agentId p.1 p.2) (·.1) .turn))
      (writes es) := hws ▸ w.interleaved_writes _ _ hparts hallows
  refine ⟨entries, hsaved, hschedules, phase_of_interleaved hi fun b hb v hv => ?_,
    hi.firsts (fun _ => rfl) (fun _ _ => rfl), fun hids x hx => ?_, fun ho => ?_⟩
  · obtain ⟨x, -, rfl⟩ := List.mem_map.mp hb
    rcases List.mem_cons.mp hv with rfl | hv
    · rfl
    · obtain ⟨t, -, rfl⟩ := List.mem_map.mp hv
      rfl
  · exact hi.rest_of_bundle (fun _ _ => rfl) (fun _ _ _ => rfl) hids hx
  · refine hi.firsts_eq (fun _ => rfl) (fun _ _ => rfl) ?_
    rw [hws]
    exact w.prefix_writes _ _ hparts ho hallows

/-! ## All stages -/

/-- What a run that stored everything has written, entity by entity. -/
structure Completed (w : Weave) (coding : Bool) (g : Graph) (additions : Additions) (known : Known)
    (es : List Event) (saved : Saved) (appends : List (String × List Field))
    (actions : List ActionEntry) (schedules : List ScheduleEntry) : Prop where
  plan : known.resolveAdditions additions = .ok appends
  savedModels : saved.models.map (·.model) = g.models
  savedActions : saved.actions = actions.map fun x => .ofAction x.1.1 x.1.2.1 x.1.2.2 x.2
  targets : List.Forall₂ (fun a x => x.1.2.2 = a ∧
    (saved.models.foldl Known.addModel known).models.lookup a.targetModel = some x.1.2.1)
    g.actions actions
  steps : ∀ x ∈ actions, StepsStored coding x.1.2.2 es 0 x.1.2.2.steps x.2
  savedSchedules : saved.schedules = schedules.map fun x => .ofSchedule x.1.1 x.1.2 x.2
  turns : List.Forall₂ (fun c x => x.1.2 = c ∧ List.Forall₂ (fun t u => u.step = t.1 ∧
    (saved.models.foldl Known.addModel known).models.lookup t.1.modelName = some u.modelId ∧
    (saved.actions.foldl Known.addAction known).actions.lookup t.1.actionName = some u.actionId)
    c.turns x.2) g.schedules schedules
  modelWrites : ((writes es).filterMap Write.model?).Perm saved.models
  fieldWrites : ∀ id, (appendedTo id (writes es)).Perm
    (appends.filterMap fun p => if p.1 = id then some p.2 else none)
  actionWrites : ((writes es).filterMap Write.action?).Perm (actions.map (·.1))
  stepWrites : (actions.map (·.1.1)).Nodup →
    ∀ x ∈ actions, (writes es).filterMap (Write.step? x.1.1) = x.2
  scheduleWrites : ((writes es).filterMap Write.schedule?).Perm (schedules.map (·.1))
  turnWrites : (schedules.map (·.1.1)).Nodup →
    ∀ x ∈ schedules, (writes es).filterMap (Write.turn? x.1.1) = x.2
  ordered : w.Orders → (writes es).filterMap Write.model? = saved.models ∧
    (writes es).filterMap Write.action? = actions.map (·.1) ∧
    (writes es).filterMap Write.schedule? = schedules.map (·.1)

theorem save_completed {g : Graph} {additions : Additions} {saved : Saved}
    (h : (save coding agentId g additions known).Trace w es (.value saved)) :
    ∃ appends actions schedules,
      Completed w coding g additions known es saved appends actions schedules := by
  obtain ⟨es₁, es₂, es₃, rfl, h₁, h₂, h₃⟩ := save_value h
  obtain ⟨appends, happends, hmodels, hp₁, hm, hf, hom⟩ := saveModels_writes h₁
  obtain ⟨actions, hactions, htargets, hsteps, hp₂, ha, hst, hoa⟩ := saveActions_writes h₂
  obtain ⟨schedules, hschedules, hturns, hp₃, hc, ht, hoc⟩ := saveSchedules_writes h₃
  have hmodels_of {α : Type} {f : Write → Option α} (hnone : ∀ v, v.phase ≠ .models → f v = none) :
      (writes (es₁ ++ (es₂ ++ es₃))).filterMap f = (writes es₁).filterMap f := by
    rw [writes_append, writes_append, List.filterMap_append, List.filterMap_append,
      filterMap_eq_nil_of_phase hp₂ (by decide) hnone,
      filterMap_eq_nil_of_phase hp₃ (by decide) hnone, List.append_nil, List.append_nil]
  have hactions_of {α : Type} {f : Write → Option α} (hnone : ∀ v, v.phase ≠ .actions → f v = none) :
      (writes (es₁ ++ (es₂ ++ es₃))).filterMap f = (writes es₂).filterMap f := by
    rw [writes_append, writes_append, List.filterMap_append, List.filterMap_append,
      filterMap_eq_nil_of_phase hp₁ (by decide) hnone,
      filterMap_eq_nil_of_phase hp₃ (by decide) hnone, List.nil_append, List.append_nil]
  have hschedules_of {α : Type} {f : Write → Option α}
      (hnone : ∀ v, v.phase ≠ .schedules → f v = none) :
      (writes (es₁ ++ (es₂ ++ es₃))).filterMap f = (writes es₃).filterMap f := by
    rw [writes_append, writes_append, List.filterMap_append, List.filterMap_append,
      filterMap_eq_nil_of_phase hp₁ (by decide) hnone,
      filterMap_eq_nil_of_phase hp₂ (by decide) hnone, List.nil_append, List.nil_append]
  refine ⟨appends, actions, schedules, happends, hmodels, hactions, htargets, fun x hx => ?_,
    hschedules, ?_, ?_, fun id => ?_, ?_, fun hids x hx => ?_, ?_, fun hids x hx => ?_, fun ho => ?_⟩
  · exact (hsteps x hx).mono fun y hy => List.mem_append_right _ (List.mem_append_left _ hy)
  · refine hturns.imp fun c x hcx => ⟨hcx.1, hcx.2.imp fun t u htu => ?_⟩
    rw [Known.addActions_models, Known.addActions_actions, Known.addModels_actions,
      ← Known.addActions_actions] at htu
    exact htu
  · rw [hmodels_of fun v => Write.model?_of_phase]
    exact hm
  · rw [appendedTo, hmodels_of fun v => Write.appended?_of_phase]
    exact hf id
  · rw [hactions_of fun v => Write.action?_of_phase]
    exact ha
  · rw [hactions_of fun v => Write.step?_of_phase]
    exact hst hids x hx
  · rw [hschedules_of fun v => Write.schedule?_of_phase]
    exact hc
  · rw [hschedules_of fun v => Write.turn?_of_phase]
    exact ht hids x hx
  · rw [hmodels_of fun v => Write.model?_of_phase, hactions_of fun v => Write.action?_of_phase,
      hschedules_of fun v => Write.schedule?_of_phase]
    exact ⟨hom ho, hoa ho, hoc ho⟩

end Program
end AgentSpec
