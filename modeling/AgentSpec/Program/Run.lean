import AgentSpec.Program.Basic
import AgentSpec.Store.Journal

/-!
Running programs against the tables.

Store calls are answered one at a time.  Strands that run together take turns: each makes one call
to the store in every round, in the order in which they were started.
-/
namespace AgentSpec

/-- What a call to the store meets instead of an answer. -/
inductive Cue
  | fail (e : StoreError)
  /-- The reply never comes. -/
  | hang
deriving DecidableEq, Repr

/-- Who answers, and what is given from outside. -/
structure Surroundings where
  /-- The identifier of the row that a call writes. -/
  name : Store → StoreCall → String
  /-- The time of the calls, by their number. -/
  time : Nat → Instant
  cue : StoreCall → Option Cue := fun _ => none
  design : SynthesisRequest → Except AssistantError Json
  code : CodeRequest → Except AssistantError GeneratedCode

/-- The tables, and all that was asked and told so far. -/
structure World where
  store : Store := {}
  calls : List StoreCall := []
  /-- The calls that reached the tables. -/
  journal : Journal := []
  designs : List SynthesisRequest := []
  codes : List CodeRequest := []
  milestones : List Milestone := []

/-- Why a run has no result. -/
inductive Stop
  | failed (e : CompileError)
  /-- The run waits for a reply that never comes. -/
  | hung
deriving DecidableEq, Repr

abbrev Run (α : Type) := ExceptT Stop (StateM World) α

namespace Surroundings

/-- One call to the store. -/
def callStore (env : Surroundings) (c : StoreCall) : Run c.Reply := do
  modify fun w => { w with calls := w.calls ++ [c] }
  match env.cue c with
  | some .hang => throw .hung
  | some (.fail e) => return .error e
  | none =>
    let w ← get
    let stamp : Stamp := ⟨env.name w.store c, env.time w.journal.length⟩
    let (reply, store) := c.answer stamp w.store
    set { w with store, journal := w.journal ++ [JournalEntry.mk stamp c] }
    return reply

def writeCode (env : Surroundings) (r : CodeRequest) :
    Run (Except AssistantError GeneratedCode) := do
  modify fun w => { w with codes := w.codes ++ [r] }
  return env.code r

end Surroundings

namespace Strand

/-- A strand up to its next call to the store. -/
def advance (env : Surroundings) : Strand α → Run (Strand α)
  | .code r k => do advance env (k (← env.writeCode r))
  | .failed e => throw (.failed e)
  | s => return s

/-- One turn of a strand: a call to the store, and what follows before the next one. -/
def turn (env : Surroundings) (s : Strand α) : Run (Strand α) := do
  match ← s.advance env with
  | .store c k => (k (← env.callStore c)).advance env
  | s => return s

/-- All turns of a strand, each followed by a turn of the others, and then the rest of the others'
turns. -/
def lead (env : Surroundings) (next : List (Strand α) → Run (List α)) (waiting : Bool)
    (others : List (Strand α)) : Strand α → Run (List α)
  | .failed e => throw (.failed e)
  | .code r k => do lead env next waiting others (k (← env.writeCode r))
  | .done a => do
    let others ← if waiting then others.mapM (turn env) else pure others
    return a :: (← next others)
  | .store c k => do
    let others ← if waiting then others.mapM (turn env) else pure others
    lead env next true others (k (← env.callStore c))

/-- Up to `n` strands that run together. -/
def rounds (env : Surroundings) : Nat → List (Strand α) → Run (List α)
  | 0, _ => return []
  | _, [] => return []
  | n + 1, s :: others => s.lead env (rounds env n) false others

end Strand

namespace Program

def run (env : Surroundings) : Program α → Run α
  | .done a => return a
  | .failed e => throw (.failed e)
  | .store c k => do (k (← env.callStore c)).run env
  | .design r k => do
    modify fun w => { w with designs := w.designs ++ [r] }
    (k (env.design r)).run env
  | .announce m k => do
    modify fun w => { w with milestones := w.milestones ++ [m] }
    k.run env
  | .together strands k => do (k (← Strand.rounds env strands.length strands)).run env

end Program
end AgentSpec
