import AgentSpec.Proofs.Trace.Interleaving

/-!
What the store confirmed to have written, read off a trace.
-/
namespace AgentSpec

inductive Write
  | agent (new : NewAgent) (record : AgentRecord)
  | change (agentId : String) (c : AgentChange) (record : AgentRecord)
  | model (agentId : String) (m : StoredModel)
  | fields (modelId : String) (fields : List Field)
  | action (agentId id modelId : String) (a : Action)
  | step (actionId : String) (s : StoredStep)
  | schedule (agentId id : String) (c : Schedule)
  | turn (scheduleId : String) (t : StoredTurn)

namespace StoreCall

/-- The write that a reply confirms. -/
def confirmed : (c : StoreCall) → c.Reply → Option Write
  | .createAgent new, .ok record => some (.agent new record)
  | .updateAgent agentId change, .ok record => some (.change agentId change record)
  | .createModel agentId m, .ok id => some (.model agentId ⟨id, m⟩)
  | .appendFields modelId fields, .ok () => some (.fields modelId fields)
  | .createAction agentId modelId a, .ok id => some (.action agentId id modelId a)
  | .createStep actionId position step ready, .ok id =>
    some (.step actionId ⟨id, position, ready, step⟩)
  | .createSchedule agentId c, .ok id => some (.schedule agentId id c)
  | .createTurn scheduleId modelId actionId turn, .ok id =>
    some (.turn scheduleId ⟨id, modelId, actionId, turn⟩)
  | _, _ => none

end StoreCall

namespace Event

def write? : Event → Option Write
  | .replied c r => c.confirmed r
  | _ => none

end Event

/-- The confirmed writes of a trace. -/
def writes (es : List Event) : List Write := es.filterMap Event.write?

theorem writes_nil : writes [] = [] := rfl

theorem writes_append (es es' : List Event) : writes (es ++ es') = writes es ++ writes es' :=
  List.filterMap_append

theorem writes_told (m : Milestone) : writes [.told m] = [] := rfl

/-- The writes of a call and its reply are those that the reply confirms. -/
theorem writes_replied (c : StoreCall) (r : c.Reply) :
    writes [.called c, .replied c r] = (c.confirmed r).toList := by
  simp only [writes, List.filterMap_cons, Event.write?, List.filterMap_nil]
  cases c.confirmed r <;> rfl

theorem writes_replied_cons (c : StoreCall) (r : c.Reply) (es : List Event) :
    writes (.replied c r :: es) = (c.confirmed r).toList ++ writes es := by
  rw [← writes_replied, ← writes_append]
  rfl

theorem writes_silent_cons {x : Event} {es : List Event} (hx : ∀ c r, x ≠ .replied c r) :
    writes (x :: es) = writes es := by
  refine List.filterMap_cons_none ?_
  cases x with
  | replied c r => exact absurd rfl (hx c r)
  | _ => rfl

theorem StoreCall.confirmed_error (c : StoreCall) (e : StoreError) :
    c.confirmed (.error e) = none := by
  cases c <;> rfl

/-- What the first reply of a trace confirms. -/
def opening : List Event → List Write
  | [] => []
  | .replied c r :: _ => (c.confirmed r).toList
  | _ :: es => opening es

theorem opening_silent_cons {x : Event} {es : List Event} (hx : ∀ c r, x ≠ .replied c r) :
    opening (x :: es) = opening es := by
  cases x with
  | replied c r => exact absurd rfl (hx c r)
  | _ => rfl

/-- The first reply of a trace confirms one write, the replies behind it confirm the rest. -/
structure Opens (es : List Event) (first : Write) (rest : List Write) : Prop where
  head : opening es = [first]
  writes_eq : writes es = first :: rest

theorem Opens.of_replied {es : List Event} {first : Write} {c : StoreCall} {r : c.Reply}
    (h : c.confirmed r = some first) : Opens (.called c :: .replied c r :: es) first (writes es) := by
  refine ⟨?_, ?_⟩
  · rw [opening_silent_cons (by simp), opening, h]
    rfl
  · rw [writes_silent_cons (by simp), writes_replied_cons, h]
    rfl

end AgentSpec
