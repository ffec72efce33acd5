import AgentSpec.Assistant.Error
import AgentSpec.Enrich.Issue
import AgentSpec.Graph.Violation
import AgentSpec.Store.Error

/-!
Why a compilation or an update fails.
-/
namespace AgentSpec

/-- The part of a run in which the store failed. -/
inductive Phase
  | agent
  | load
  | models
  | actions
  | schedules
deriving DecidableEq, Repr

def Phase.toText : Phase → String
  | .agent => "agent"
  | .load => "load"
  | .models => "models"
  | .actions => "actions"
  | .schedules => "schedules"

inductive SynthesisFault
  | noAssistant
  | callFailed (e : AssistantError)
  | undecodable (r : Refusal)
  | badShape (vs : List Violation)
  | onlyWorkspace
  /-- A failure told in its own words. -/
  | reported (text : String)
deriving DecidableEq, Repr

def SynthesisFault.message : SynthesisFault → String
  | .noAssistant => "no synthesis collaborator is configured"
  | .callFailed e => "collaborator call failed: " ++ e.message
  | .undecodable r => "output does not match the entity schema: " ++ r.message
  | .badShape vs => "output violates the entity schema: " ++ Violation.summary vs
  | .onlyWorkspace => "output defines no models besides the Workspace"
  | .reported text => text

inductive CompileError
  | shape (vs : List Violation)
  | synthesis (fault : SynthesisFault)
  | references (issues : List Issue)
  | persistence (phase : Phase) (source : StoreError)
  | timeout (millis : Nat)
  | agentNotFound (agentId : String)
  | notOwner (agentId ownerId : String)
deriving DecidableEq, Repr

namespace CompileError

/-- The code of the error for programs. -/
def code : CompileError → String
  | .shape _ => "SCHEMA_VIOLATION"
  | .synthesis _ => "SYNTHESIS_FAILURE"
  | .references _ => "REFERENTIAL_INTEGRITY"
  | .persistence _ _ => "PERSISTENCE_FAILURE"
  | .timeout _ => "TIMEOUT"
  | .agentNotFound _ => "AGENT_NOT_FOUND"
  | .notOwner _ _ => "NOT_OWNER"

/-- The request itself is at fault. -/
def isValidation : CompileError → Bool
  | .shape _ | .synthesis _ | .references _ => true
  | _ => false

def message : CompileError → String
  | .shape vs => Violation.summary vs
  | .synthesis fault => "Synthesis failed: " ++ fault.message
  | .references issues => Issue.summary issues
  | .persistence phase source =>
    "Persistence failed during " ++ phase.toText ++ " stage: " ++ source.message
  | .timeout millis =>
    "Update timed out after " ++ (Binary64.ofThousandths millis).toPlainText ++ "s"
  | .agentNotFound agentId => "Agent not found: " ++ agentId
  | .notOwner agentId ownerId => s!"Agent {agentId} is not owned by {ownerId}"

end CompileError
end AgentSpec
