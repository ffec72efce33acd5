import AgentSpec.Proofs.Store.Agents
import AgentSpec.Proofs.Store.Readable

/-!
When the tables admit a call.

A constraint can refuse a row for three reasons: its identifier is taken or too short, it points to
a row that is not there, or its key is taken, which is a name within an agent or a number within an
action or a schedule.  Identifiers are drawn afresh.  Rows never vanish, so what a call points to may
be there from the beginning or be made by a reply in front of it; and a key that is free in the
beginning is taken only by a call that wants it.

So a trace whose replies all come from the tables has no error in it, if every call finds what it
points to and no two calls want one key (`Serves.unrefused`).
-/
namespace AgentSpec

/-- What a row may point to. -/
inductive Entity
  | agent (id : String)
  | model (id : String)
  | action (id : String)
  | schedule (id : String)
deriving DecidableEq

/-- What no two rows of a table share: a name within an agent, or a number within an action or a
schedule. -/
inductive UniqueKey
  | named (phase : Phase) (agentId name : String)
  | numbered (phase : Phase) (parentId : String) (number : Cell)
deriving DecidableEq

namespace StoreCall

/-- What a call points to. -/
def parents : StoreCall → List Entity
  | .updateAgent agentId _ | .createModel agentId _ | .createSchedule agentId _ => [.agent agentId]
  | .appendFields modelId _ => [.model modelId]
  | .createAction agentId modelId _ => [.agent agentId, .model modelId]
  | .createStep actionId _ _ _ => [.action actionId]
  | .createTurn scheduleId modelId actionId _ =>
    [.schedule scheduleId, .model modelId, .action actionId]
  | .createAgent _ | .loadGraph _ => []

/-- The key of the row that a call writes. -/
def key? : StoreCall → Option UniqueKey
  | .createModel agentId m => some (.named .models agentId m.name)
  | .createAction agentId _ a => some (.named .actions agentId a.name)
  | .createStep actionId position _ _ => some (.numbered .actions actionId (.ofNat32 position))
  | .createSchedule agentId c => some (.named .schedules agentId c.name)
  | .createTurn scheduleId _ _ turn => some (.numbered .schedules scheduleId (.ofNat32 turn.order))
  | _ => none

/-- What a call makes that others may point to. -/
def made? : (c : StoreCall) → c.Value → Option Entity
  | .createAgent _, record => some (.agent record.id)
  | .createModel _ _, id => some (.model id)
  | .createAction _ _ _, id => some (.action id)
  | .createSchedule _ _, id => some (.schedule id)
  | _, _ => none

/-- What a call that writes points to is there.  Only agents are turned down for their names. -/
structure Supported (there : Entity → Prop) (c : StoreCall) : Prop where
  writes : c.isWrite
  parents : ∀ x ∈ c.parents, there x
  named : ∀ a, c = .createAgent a → ¬Text.isBlank a.name

theorem Supported.mono {there there' : Entity → Prop} {c : StoreCall} (h : c.Supported there)
    (himp : ∀ x, there x → there' x) : c.Supported there' :=
  ⟨h.writes, fun x hx => himp x (h.parents x hx), h.named⟩

end StoreCall

namespace Event

def key? : Event → Option UniqueKey
  | .replied c _ => c.key?
  | _ => none

def made? : Event → Option Entity
  | .replied c (.ok v) => c.made? v
  | _ => none

end Event

/-- The keys that the answered calls of a trace want. -/
def wanted (es : List Event) : List UniqueKey := es.filterMap Event.key?

/-- What the answered calls of a trace have made. -/
def made (es : List Event) : List Entity := es.filterMap Event.made?

theorem wanted_append (es es' : List Event) : wanted (es ++ es') = wanted es ++ wanted es' :=
  List.filterMap_append

theorem made_append (es es' : List Event) : made (es ++ es') = made es ++ made es' :=
  List.filterMap_append

section Cons

variable {x : Event} {es : List Event} {c : StoreCall} {r : c.Reply}

theorem wanted_replied_cons : wanted (.replied c r :: es) = c.key?.toList ++ wanted es := by
  cases hk : c.key? with
  | none => exact List.filterMap_cons_none hk
  | some k => exact List.filterMap_cons_some hk

theorem wanted_silent_cons (hx : ∀ c r, x ≠ .replied c r) : wanted (x :: es) = wanted es := by
  refine List.filterMap_cons_none ?_
  cases x with
  | replied c r => exact absurd rfl (hx c r)
  | _ => rfl

theorem made_replied_cons {v : c.Value} :
    made (.replied c (.ok v) :: es) = (c.made? v).toList ++ made es := by
  cases hm : c.made? v with
  | none => exact List.filterMap_cons_none hm
  | some x => exact List.filterMap_cons_some hm

theorem made_refused_cons {e : StoreError} : made (.replied c (.error e) :: es) = made es := rfl

theorem made_silent_cons (hx : ∀ c r, x ≠ .replied c r) : made (x :: es) = made es := by
  refine List.filterMap_cons_none ?_
  cases x with
  | replied c r => exact absurd rfl (hx c r)
  | _ => rfl

end Cons

/-- Every answered call points to what was there or to what was made in front of it. -/
def Rooted (there : Entity → Prop) (es : List Event) : Prop :=
  ∀ pre c r post, es = pre ++ .replied c r :: post →
    c.Supported fun x => there x ∨ x ∈ made pre

/-- No reply is an error. -/
def Unrefused (es : List Event) : Prop := ∀ c e, .replied c (.error e) ∉ es

theorem Unrefused.append {es es' : List Event} (h : Unrefused es) (h' : Unrefused es') :
    Unrefused (es ++ es') := by
  intro c e hmem
  rcases List.mem_append.mp hmem with hmem | hmem
  · exact h c e hmem
  · exact h' c e hmem

namespace Store

/-- The identifiers of all rows. -/
def ids (s : Store) : List String :=
  s.agents.map (·.id) ++ s.models.map (·.id) ++ s.actions.map (·.id) ++ s.steps.map (·.id) ++
    s.schedules.map (·.id) ++ s.turns.map (·.id)

def Has (s : Store) : Entity → Prop
  | .agent id => s.hasAgent id
  | .model id => s.hasModel id
  | .action id => s.hasAction id
  | .schedule id => s.hasSchedule id

/-- The keys that are taken. -/
def keys (s : Store) : List UniqueKey :=
  s.models.map (fun r => .named .models r.agentId r.name) ++
    s.actions.map (fun r => .named .actions r.agentId r.name) ++
    s.steps.map (fun r => .numbered .actions r.actionId r.position) ++
    s.schedules.map (fun r => .named .schedules r.agentId r.name) ++
    s.turns.map (fun r => .numbered .schedules r.scheduleId r.order)

end Store

/-- A new identifier of eight characters or more, at a time that is read back. -/
structure Stamp.Fresh (t : Stamp) (s : Store) : Prop where
  long : 8 ≤ t.id.length
  unused : t.id ∉ s.ids
  ordinary : t.now.Ordinary

namespace Store

variable {s s' mid : Store} {t : Stamp} {es es' : List Event}

/-! ## One call -/

theorem ids_subset (s : Store) : s.agents.map (·.id) ⊆ s.ids ∧ s.models.map (·.id) ⊆ s.ids ∧
    s.actions.map (·.id) ⊆ s.ids ∧ s.steps.map (·.id) ⊆ s.ids ∧
    s.schedules.map (·.id) ⊆ s.ids ∧ s.turns.map (·.id) ⊆ s.ids := by
  refine ⟨?_, ?_, ?_, ?_, ?_, ?_⟩ <;>
    · intro id hid
      simp only [ids, List.mem_append]
      tauto

theorem unlessBroken_of_kept {broken : List (Bool × Constraint)} (a : α)
    (h : ∀ p ∈ broken, p.1 = false) : unlessBroken broken a = .ok a := by
  have hnone : broken.find? (·.1) = none := by
    rw [List.find?_eq_none]
    intro p hp
    rw [h p hp]
    exact Bool.false_ne_true
  rw [unlessBroken, hnone]

theorem idConstraints_kept {table : String} {rowIds : List String} (ht : t.Fresh s)
    (hids : rowIds ⊆ s.ids) : ∀ p ∈ idConstraints table t.id rowIds, p.1 = false := by
  have hshort : decide (t.id.length < 8) = false := by
    have hlong := ht.long
    simpa using hlong
  have hnew : rowIds.contains t.id = false := by
    have hid : t.id ∉ rowIds := fun hmem => ht.unused (hids hmem)
    simpa using hid
  unfold idConstraints
  simp only [List.forall_mem_cons, List.not_mem_nil, false_imp_iff, implies_true, and_true]
  exact ⟨hshort, hnew⟩

/-- With a fresh identifier, all that it points to and a free key, a row is written. -/
theorem unlessBroken_fresh {table : String} {rowIds : List String} {taken lost : Bool}
    {unique foreign : Constraint} (a : α) (ht : t.Fresh s) (hids : rowIds ⊆ s.ids)
    (htaken : taken = false) (hlost : lost = false) :
    unlessBroken (idConstraints table t.id rowIds ++ [(taken, unique), (lost, foreign)]) a =
      .ok a := by
  refine unlessBroken_of_kept a (List.forall_mem_append.mpr ⟨idConstraints_kept ht hids, ?_⟩)
  simp only [List.forall_mem_cons, List.not_mem_nil, false_imp_iff, implies_true, and_true]
  exact ⟨htaken, hlost⟩

theorem settle_ok {r : Except StoreError (α × Store)} (h : ∃ p, r = .ok p) :
    ∃ v, (StoreCall.answer.settle s r).1 = .ok v := by
  obtain ⟨p, rfl⟩ := h
  exact ⟨p.1, rfl⟩

theorem settle_map_ok {r : Except StoreError Store} {a : α} (h : ∃ s', r = .ok s') :
    ∃ v, (StoreCall.answer.settle s (r.map (a, ·))).1 = .ok v := by
  obtain ⟨s', rfl⟩ := h
  exact ⟨a, rfl⟩

/-- A write with a fresh stamp is admitted where it finds what it points to and its key is free. -/
theorem exists_answer (hr : s.Readable) (ht : t.Fresh s) {c : StoreCall}
    (hc : c.Supported s.Has) (hkey : ∀ k, c.key? = some k → k ∉ s.keys) :
    ∃ v, (c.answer t s).1 = .ok v := by
  obtain ⟨hwrites, hparents, hnamed⟩ := hc
  cases c with
  | createAgent a =>
    refine settle_ok ?_
    rw [createAgent, if_neg (hnamed a rfl)]
    exact ⟨_, unlessBroken_of_kept _ (idConstraints_kept ht s.ids_subset.1)⟩
  | updateAgent agentId change =>
    obtain ⟨old, hold⟩ := hr.exists_agent? (hparents _ List.mem_cons_self)
    refine settle_ok ?_
    rw [updateAgent, hold]
    exact ⟨_, rfl⟩
  | createModel agentId m =>
    have hnew := hkey _ rfl
    have hagent : s.hasAgent agentId := hparents (.agent agentId) List.mem_cons_self
    refine settle_map_ok ⟨_, unlessBroken_fresh _ ht s.ids_subset.2.1 ?_ ?_⟩
    · simpa [keys] using hnew
    · rw [hagent]
      rfl
  | appendFields modelId fields =>
    obtain ⟨row, old, hrow, hold⟩ := hr.exists_fields (hparents _ List.mem_cons_self)
    refine settle_map_ok ?_
    unfold appendFields
    simp only [hrow]
    by_cases hlen : (appendNew old fields).length = old.length
    · exact ⟨s, bind_eq_ok.mpr ⟨old, hold, if_pos hlen⟩⟩
    · exact ⟨_, bind_eq_ok.mpr ⟨old, hold, if_neg hlen⟩⟩
  | createAction agentId modelId a =>
    have hnew := hkey _ rfl
    have hagent : s.hasAgent agentId := hparents (.agent agentId) List.mem_cons_self
    have hmodel : s.hasModel modelId := hparents (.model modelId) (by simp [StoreCall.parents])
    refine settle_map_ok ⟨_, unlessBroken_fresh _ ht s.ids_subset.2.2.1 ?_ ?_⟩
    · simpa [keys] using hnew
    · rw [hagent, hmodel]
      rfl
  | createStep actionId position step ready =>
    have hnew := hkey _ rfl
    have haction : s.hasAction actionId := hparents (.action actionId) List.mem_cons_self
    refine settle_map_ok ⟨_, unlessBroken_fresh _ ht s.ids_subset.2.2.2.1 ?_ ?_⟩
    · simpa [keys] using hnew
    · rw [haction]
      rfl
  | createSchedule agentId c =>
    have hnew := hkey _ rfl
    have hagent : s.hasAgent agentId := hparents (.agent agentId) List.mem_cons_self
    refine settle_map_ok ⟨_, unlessBroken_fresh _ ht s.ids_subset.2.2.2.2.1 ?_ ?_⟩
    · simpa [keys] using hnew
    · rw [hagent]
      rfl
  | createTurn scheduleId modelId actionId turn =>
    have hnew := hkey _ rfl
    have hschedule : s.hasSchedule scheduleId := hparents (.schedule scheduleId) List.mem_cons_self
    have hmodel : s.hasModel modelId := hparents (.model modelId) (by simp [StoreCall.parents])
    have haction : s.hasAction actionId := hparents (.action actionId) (by simp [StoreCall.parents])
    refine settle_map_ok ⟨_, unlessBroken_fresh _ ht s.ids_subset.2.2.2.2.2 ?_ ?_⟩
    · simpa [keys] using hnew
    · rw [hschedule, hmodel, haction]
      rfl
  | loadGraph agentId => exact absurd hwrites Bool.false_ne_true

namespace Written

variable {c : StoreCall} {v : c.Value}

/-- What is there stays. -/
theorem has (h : Written t s c v s') {x : Entity} (hx : s.Has x) : s'.Has x := by
  cases h with
  | createAgent =>
    cases x with
    | agent id => exact Lawful.any_concat hx
    | _ => exact hx
  | @updateAgent agentId change old record =>
    cases x with
    | agent id =>
      have hids : (s.agents.map (AgentRow.setRecord agentId record)).map (·.id) =
          s.agents.map (·.id) := Lawful.map_key (AgentRow.setRecord_id agentId record)
      have hold : id ∈ s.agents.map (·.id) := hasAgent_iff.mp hx
      exact hasAgent_iff.mpr (hids ▸ hold)
    | _ => exact hx
  | createModel =>
    cases x with
    | model id => exact Lawful.any_concat hx
    | _ => exact hx
  | @appendFields modelId fields new =>
    cases x with
    | model id =>
      have hids : (s.models.map (ModelRow.setFields modelId new)).map (·.id) =
          s.models.map (·.id) := Lawful.map_key fun r => r.setFields_id modelId new
      have hold : id ∈ s.models.map (·.id) := hasModel_iff.mp hx
      exact hasModel_iff.mpr (hids ▸ hold)
    | _ => exact hx
  | createAction =>
    cases x with
    | action id => exact Lawful.any_concat hx
    | _ => exact hx
  | createSchedule =>
    cases x with
    | schedule id => exact Lawful.any_concat hx
    | _ => exact hx
  | appendNothing | createStep | createTurn | loadGraph => cases x <;> exact hx

/-- What a call has made is there, and it was not there before. -/
theorem made (h : Written t s c v s') {x : Entity} (hx : c.made? v = some x) :
    s'.Has x ∧ ¬s.Has x := by
  cases h with
  | createAgent hid =>
    cases hx
    refine ⟨hasAgent_iff.mpr ?_, fun hold => hid (hasAgent_iff.mp hold)⟩
    simp [AgentRow.ofRecord]
  | createModel hid =>
    cases hx
    refine ⟨hasModel_iff.mpr ?_, fun hold => hid (hasModel_iff.mp hold)⟩
    simp [ModelRow.ofModel]
  | createAction hid =>
    cases hx
    refine ⟨hasAction_iff.mpr ?_, fun hold => hid (hasAction_iff.mp hold)⟩
    simp [ActionRow.ofAction]
  | createSchedule hid =>
    cases hx
    refine ⟨hasSchedule_iff.mpr ?_, fun hold => hid (hasSchedule_iff.mp hold)⟩
    simp [ScheduleRow.ofSchedule]
  | updateAgent | appendNothing | appendFields | createStep | createTurn | loadGraph => cases hx

/-- A key that is taken was taken before, or it is that of the call. -/
theorem keys (h : Written t s c v s') {k : UniqueKey} (hk : k ∈ s'.keys) :
    k ∈ s.keys ∨ c.key? = some k := by
  cases h with
  | @createModel agentId m hid =>
    have hall : k ∈ s.keys ∨ k = .named .models agentId m.name := by
      simp only [Store.keys, List.map_append, List.map_cons, List.map_nil, List.mem_append,
        List.mem_singleton, ModelRow.ofModel] at hk ⊢
      tauto
    exact hall.imp_right fun heq => congrArg some heq.symm
  | @appendFields modelId fields new =>
    have hkeys : (s.models.map (ModelRow.setFields modelId new)).map
        (fun r => UniqueKey.named .models r.agentId r.name) =
        s.models.map (fun r => UniqueKey.named .models r.agentId r.name) := by
      refine Lawful.map_key fun r => ?_
      rw [r.setFields_agentId, r.setFields_name]
    unfold Store.keys at hk ⊢
    rw [hkeys] at hk
    exact Or.inl hk
  | @createAction agentId modelId a hid =>
    have hall : k ∈ s.keys ∨ k = .named .actions agentId a.name := by
      simp only [Store.keys, List.map_append, List.map_cons, List.map_nil, List.mem_append,
        List.mem_singleton, ActionRow.ofAction] at hk ⊢
      tauto
    exact hall.imp_right fun heq => congrArg some heq.symm
  | @createStep actionId position step ready =>
    have hall : k ∈ s.keys ∨ k = .numbered .actions actionId (.ofNat32 position) := by
      simp only [Store.keys, List.map_append, List.map_cons, List.map_nil, List.mem_append,
        List.mem_singleton, StepRow.ofStep] at hk ⊢
      tauto
    exact hall.imp_right fun heq => congrArg some heq.symm
  | @createSchedule agentId c hid =>
    have hall : k ∈ s.keys ∨ k = .named .schedules agentId c.name := by
      simp only [Store.keys, List.map_append, List.map_cons, List.map_nil, List.mem_append,
        List.mem_singleton, ScheduleRow.ofSchedule] at hk ⊢
      tauto
    exact hall.imp_right fun heq => congrArg some heq.symm
  | @createTurn scheduleId modelId actionId turn =>
    have hall : k ∈ s.keys ∨ k = .numbered .schedules scheduleId (.ofNat32 turn.order) := by
      simp only [Store.keys, List.map_append, List.map_cons, List.map_nil, List.mem_append,
        List.mem_singleton, TurnRow.ofTurn] at hk ⊢
      tauto
    exact hall.imp_right fun heq => congrArg some heq.symm
  | createAgent | updateAgent | appendNothing | loadGraph => exact Or.inl hk

end Written

/-! ## Traces -/

/-- The tables answer every call of a trace, one after the other, each with a fresh stamp. -/
inductive Serves : Store → List Event → Store → Prop
  | nil (s : Store) : Serves s [] s
  | answered {s s' : Store} {es : List Event} (t : Stamp) (c : StoreCall) : t.Fresh s →
    Serves (c.answer t s).2 es s' → Serves s (.replied c (c.answer t s).1 :: es) s'
  | silent {s s' : Store} {x : Event} {es : List Event} : (∀ c r, x ≠ .replied c r) →
    Serves s es s' → Serves s (x :: es) s'

namespace Serves

theorem follows (h : Serves s es s') :
    ∃ clock, s.Follows es clock s' ∧ ∀ t ∈ clock, t.Ordinary := by
  induction h with
  | nil s => exact ⟨[], .nil s, List.forall_mem_nil _⟩
  | answered t c ht _ ih =>
    obtain ⟨clock, hf, hclock⟩ := ih
    exact ⟨t.now :: clock, .answered t c hf, List.forall_mem_cons.mpr ⟨ht.ordinary, hclock⟩⟩
  | silent hx _ ih =>
    obtain ⟨clock, hf, hclock⟩ := ih
    exact ⟨clock, .silent hx hf, hclock⟩

theorem lawful (h : Serves s es s') (hs : s.Lawful) : s'.Lawful := by
  obtain ⟨clock, hf, -⟩ := h.follows
  exact hf.lawful hs

theorem readable (h : Serves s es s') (hr : s.Readable) : s'.Readable := by
  induction h with
  | nil s => exact hr
  | answered t c ht _ ih => exact ih (hr.answer ht.ordinary c)
  | silent _ _ ih => exact ih hr

theorem trans (h : Serves s es mid) (h' : Serves mid es' s') : Serves s (es ++ es') s' := by
  induction h with
  | nil s => exact h'
  | answered t c ht _ ih => exact .answered t c ht (ih h')
  | silent hx _ ih => exact .silent hx (ih h')

theorem split (h : Serves s (es ++ es') s') : ∃ mid, Serves s es mid ∧ Serves mid es' s' := by
  induction es generalizing s with
  | nil => exact ⟨s, .nil s, h⟩
  | cons x rest ih =>
    rw [List.cons_append] at h
    cases h with
    | answered t c ht h =>
      obtain ⟨mid, h₁, h₂⟩ := ih h
      exact ⟨mid, .answered t c ht h₁, h₂⟩
    | silent hx h =>
      obtain ⟨mid, h₁, h₂⟩ := ih h
      exact ⟨mid, .silent hx h₁, h₂⟩

theorem of_silent {x : Event} (hx : ∀ c r, x ≠ .replied c r) (h : Serves s (x :: es) s') :
    Serves s es s' := by
  generalize hall : x :: es = all at h
  cases h with
  | nil => cases hall
  | answered t c _ _ => exact absurd (List.cons.inj hall).1 (hx c _)
  | silent _ h =>
    obtain ⟨-, rfl⟩ := List.cons.inj hall
    exact h

/-- A reply was given by the tables, and they answer what follows. -/
theorem of_replied {c : StoreCall} {r : c.Reply} (h : Serves s (.replied c r :: es) s') :
    ∃ t, t.Fresh s ∧ (c.answer t s).1 = r ∧ Serves (c.answer t s).2 es s' := by
  generalize hall : Event.replied c r :: es = all at h
  cases h with
  | nil => cases hall
  | answered t c' ht hrest =>
    injection hall with hx hes
    injection hx with hc hr
    subst hc hes
    exact ⟨t, ht, (eq_of_heq hr).symm, hrest⟩
  | silent hx _ =>
    injection hall with hx' hes
    exact absurd hx'.symm (hx _ _)

theorem of_asked {c : StoreCall} {r : c.Reply}
    (h : Serves s ([.called c, .replied c r] ++ es) s') :
    ∃ t, t.Fresh s ∧ (c.answer t s).1 = r ∧ Serves (c.answer t s).2 es s' :=
  (h.of_silent (by simp)).of_replied

/-- One call and its reply. -/
theorem asked {c : StoreCall} {r : c.Reply} (h : Serves s [.called c, .replied c r] s') :
    ∃ t, t.Fresh s ∧ c.answer t s = (r, s') := by
  obtain ⟨t, ht, hreply, hrest⟩ := (h : Serves s (_ ++ []) s').of_asked
  cases hrest
  exact ⟨t, ht, Prod.ext hreply rfl⟩

/-- What is loaded is in the tables, which stay as they are. -/
theorem loaded {agentId : String} {found : Option StoredGraph}
    (h : Serves s [.called (.loadGraph agentId), .replied (.loadGraph agentId) (.ok found)] s') :
    s' = s ∧ s.load agentId = .ok found := by
  obtain ⟨t, -, hanswer⟩ := h.asked
  exact ⟨(congrArg Prod.snd hanswer).symm, congrArg Prod.fst hanswer⟩

/-! ### What a trace leaves -/

theorem answer_has {c : StoreCall} {x : Entity} (hx : s.Has x) : (c.answer t s).2.Has x := by
  rcases answer_cases t s c with ⟨v, -, h⟩ | ⟨e, -, h⟩
  · exact h.has hx
  · rw [h]
    exact hx

theorem has (h : Serves s es s') {x : Entity} (hx : s.Has x) : s'.Has x := by
  induction h with
  | nil s => exact hx
  | answered t c _ _ ih => exact ih (answer_has hx)
  | silent _ _ ih => exact ih hx

theorem has_made (h : Serves s es s') {x : Entity} (hx : x ∈ made es) : s'.Has x := by
  induction h with
  | nil s => cases hx
  | @answered s s' es t c ht hrest ih =>
    cases hr : (c.answer t s).1 with
    | error e =>
      rw [hr, made_refused_cons] at hx
      exact ih hx
    | ok v =>
      rw [hr, made_replied_cons, List.mem_append, Option.mem_toList] at hx
      rcases hx with hx | hx
      · exact hrest.has ((written_of_answer (Prod.ext hr rfl)).made hx).1
      · exact ih hx
  | silent hne _ ih =>
    rw [made_silent_cons hne] at hx
    exact ih hx

theorem shallowFor (h : Serves s es s') {id : String} (hq : s'.ShallowFor id) :
    s.ShallowFor id := by
  obtain ⟨clock, hf, -⟩ := h.follows
  exact hf.shallowFor hq

/-- What a trace makes was not there before. -/
theorem made_new (h : Serves s es s') {x : Entity} (hx : x ∈ made es) : ¬s.Has x := by
  induction h with
  | nil s => cases hx
  | @answered s s' es t c ht hrest ih =>
    cases hr : (c.answer t s).1 with
    | error e =>
      rw [hr, made_refused_cons] at hx
      exact fun hold => ih hx (answer_has hold)
    | ok v =>
      rw [hr, made_replied_cons, List.mem_append, Option.mem_toList] at hx
      rcases hx with hx | hx
      · exact ((written_of_answer (Prod.ext hr rfl)).made hx).2
      · exact fun hold => ih hx (answer_has hold)
  | silent hne _ ih =>
    rw [made_silent_cons hne] at hx
    exact ih hx

/-- Nothing is made twice. -/
theorem made_nodup (h : Serves s es s') : (made es).Nodup := by
  induction h with
  | nil s => exact List.nodup_nil
  | @answered s s' es t c ht hrest ih =>
    cases hr : (c.answer t s).1 with
    | error e => exact ih
    | ok v =>
      rw [made_replied_cons]
      cases hm : c.made? v with
      | none => exact ih
      | some x =>
        have hthere := ((written_of_answer (Prod.ext hr rfl)).made hm).1
        exact List.nodup_cons.mpr ⟨fun hx => hrest.made_new hx hthere, ih⟩
  | silent hne _ ih =>
    rw [made_silent_cons hne]
    exact ih

/-- A key that is taken was taken before, or an answered call wants it. -/
theorem mem_keys (h : Serves s es s') {k : UniqueKey} (hk : k ∈ s'.keys) :
    k ∈ s.keys ∨ k ∈ wanted es := by
  induction h with
  | nil s => exact Or.inl hk
  | @answered s s' es t c ht hrest ih =>
    rw [wanted_replied_cons, List.mem_append, Option.mem_toList]
    rcases ih hk with hk | hk
    · rcases answer_cases t s c with ⟨v, -, hw⟩ | ⟨e, -, hsame⟩
      · exact (hw.keys hk).imp_right Or.inl
      · rw [hsame] at hk
        exact Or.inl hk
    · exact Or.inr (Or.inr hk)
  | silent hne _ ih =>
    rw [wanted_silent_cons hne]
    exact ih hk

/-- No call is refused if each finds what it points to and each key is wanted once and free. -/
theorem unrefused (h : Serves s es s') (hr : s.Readable) (hrooted : Rooted s.Has es)
    (honce : (wanted es).Nodup) (hfree : ∀ k ∈ wanted es, k ∉ s.keys) : Unrefused es := by
  intro c e hmem
  obtain ⟨pre, post, rfl⟩ := List.append_of_mem hmem
  obtain ⟨mid, hpre, hpost⟩ := h.split
  obtain ⟨t, ht, hreply, -⟩ := hpost.of_replied
  have hsupported : c.Supported mid.Has := by
    refine (hrooted pre c _ post rfl).mono fun x hx => ?_
    rcases hx with hx | hx
    · exact hpre.has hx
    · exact hpre.has_made hx
  have hkey : ∀ k, c.key? = some k → k ∉ mid.keys := by
    intro k hk htaken
    have hwanted : wanted (pre ++ .replied c (.error e) :: post) =
        wanted pre ++ k :: wanted post := by
      rw [wanted_append, wanted_replied_cons, hk]
      rfl
    rw [hwanted] at honce hfree
    rcases hpre.mem_keys htaken with hold | hearlier
    · exact hfree k (List.mem_append_right _ List.mem_cons_self) hold
    · exact List.disjoint_of_nodup_append honce hearlier List.mem_cons_self
  obtain ⟨v, hv⟩ := exists_answer (hpre.readable hr) ht hsupported hkey
  rw [hreply] at hv
  cases hv

/-- Reading an agent is not refused if its queries can be read in the end. -/
theorem unrefused_of_loads (h : Serves s es s') (hr : s.Readable) {agentId : String}
    (hq : s'.ShallowFor agentId)
    (hloads : ∀ c r, .replied c r ∈ es → c = .loadGraph agentId) : Unrefused es := by
  intro c e hmem
  obtain rfl := hloads c _ hmem
  obtain ⟨pre, post, rfl⟩ := List.append_of_mem hmem
  obtain ⟨mid, hpre, hpost⟩ := h.split
  obtain ⟨t, ht, hreply, -⟩ := hpost.of_replied
  obtain ⟨g, hg⟩ := (hpre.readable hr).exists_load (hpost.shallowFor hq)
  have hanswer : (StoreCall.answer t mid (.loadGraph agentId)).1 = .ok g := hg
  rw [hreply] at hanswer
  cases hanswer

theorem eq_of_reads (h : Serves s es s') (hreads : ∀ c r, .replied c r ∈ es → ¬c.isWrite) :
    s' = s := by
  obtain ⟨clock, hf, -⟩ := h.follows
  exact hf.eq_of_reads hreads

end Serves
end Store
end AgentSpec
