import AgentSpec.Store.Write

/-!
Calls to the store, as data: what is asked, what a reply carries, and how the tables answer.
-/
namespace AgentSpec

inductive StoreCall
  | createAgent (a : NewAgent)
  | updateAgent (agentId : String) (c : AgentChange)
  | createModel (agentId : String) (m : Model)
  | appendFields (modelId : String) (fields : List Field)
  | createAction (agentId modelId : String) (a : Action)
  | createStep (actionId : String) (position : UInt32) (step : Step) (ready : Bool)
  | createSchedule (agentId : String) (c : Schedule)
  | createTurn (scheduleId modelId actionId : String) (turn : ScheduleStep)
  | loadGraph (agentId : String)
deriving DecidableEq, Repr

namespace StoreCall

/-- What a successful reply carries. -/
abbrev Value : StoreCall → Type
  | .createAgent _ | .updateAgent _ _ => AgentRecord
  | .appendFields _ _ => Unit
  | .loadGraph _ => Option StoredGraph
  | _ => String

abbrev Reply (c : StoreCall) : Type := Except StoreError c.Value

/-- Everything but loading may change the tables. -/
def isWrite : StoreCall → Bool
  | .loadGraph _ => false
  | _ => true

/-- The reply of the tables to a call, and the tables after it. -/
def answer (t : Stamp) (s : Store) : (c : StoreCall) → c.Reply × Store
  | .createAgent a => settle (s.createAgent t a)
  | .updateAgent agentId change => settle (s.updateAgent t.now agentId change)
  | .createModel agentId m => settle ((s.createModel t agentId m).map (t.id, ·))
  | .appendFields modelId fields => settle ((s.appendFields modelId fields).map ((), ·))
  | .createAction agentId modelId a => settle ((s.createAction t agentId modelId a).map (t.id, ·))
  | .createStep actionId position step ready =>
    settle ((s.createStep t actionId position step ready).map (t.id, ·))
  | .createSchedule agentId c => settle ((s.createSchedule t agentId c).map (t.id, ·))
  | .createTurn scheduleId modelId actionId turn =>
    settle ((s.createTurn t scheduleId modelId actionId turn).map (t.id, ·))
  | .loadGraph agentId => (s.load agentId, s)
where
  /-- The value and the new tables, or the error and the old ones. -/
  settle {α : Type} : Except StoreError (α × Store) → Except StoreError α × Store
    | .ok (a, s) => (.ok a, s)
    | .error e => (.error e, s)

end StoreCall
end AgentSpec
