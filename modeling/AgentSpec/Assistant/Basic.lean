import AgentSpec.Text.Blank

/-!
The language model behind the assistant.
-/
namespace AgentSpec

structure Assistant where
  /-- The key to the model's service; without it nothing is asked. -/
  key : Option String
  model : String
  /-- Where the service is asked. -/
  address : String := "https://api.anthropic.com/v1/messages"
deriving DecidableEq, Repr

namespace Assistant

def defaultModel : String := "claude-sonnet-4-20250514"

def keyVariable : String := "ANTHROPIC_API_KEY"
def modelVariable : String := "ANTHROPIC_MODEL"

/-- Key and model named by variables; a blank key is none. -/
def ofVariables (lookup : String → Option String) : Assistant where
  key := (lookup keyVariable).filter (!Text.isBlank ·)
  model := (lookup modelVariable).getD defaultModel

end Assistant
end AgentSpec
