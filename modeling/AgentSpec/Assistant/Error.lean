/-!
Why the assistant that designs agents and writes code gives no answer.
-/
namespace AgentSpec

/-- A failed exchange with the language model's service. -/
inductive ServiceError
  | requestFailed (text : String)
  | api (text : String)
  | unreadable (text : String)
  | noKey
  | invalidResponse
deriving DecidableEq, Repr

def ServiceError.message : ServiceError → String
  | .requestFailed text => "HTTP request failed: " ++ text
  | .api text => "API error: " ++ text
  | .unreadable text => "Failed to parse response: " ++ text
  | .noKey => "No API key configured"
  | .invalidResponse => "Invalid response format"

inductive AssistantError
  | unavailable (text : String)
  | rejected (text : String)
  | service (e : ServiceError)
deriving DecidableEq, Repr

def AssistantError.message : AssistantError → String
  | .unavailable text => "Collaborator unavailable: " ++ text
  | .rejected text => "Collaborator rejected the request: " ++ text
  | .service e => e.message

end AgentSpec
