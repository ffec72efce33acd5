import AgentSpec.Json.Basic

/-!
What a caller should know although nothing failed.
-/
namespace AgentSpec

inductive Warning
  /-- A step was saved without its code. -/
  | uncoded (action step reason : String)
  /-- A service was mentioned but may not be used. -/
  | notPermitted (provider : String)
deriving DecidableEq, Repr

namespace Warning

def message : Warning → String
  | .uncoded action step reason =>
    s!"step '{step}' of action '{action}' saved without code ({reason})"
  | .notPermitted provider => s!"connection '{provider}' is not permitted and was skipped"

def toJson : Warning → Json
  | .uncoded action step reason =>
    .ofMembers
      [("kind", .string "CODE_GENERATION_DEGRADED"), ("action", .string action),
        ("step", .string step), ("reason", .string reason)]
  | .notPermitted provider =>
    .ofMembers [("kind", .string "CONNECTION_NOT_PERMITTED"), ("provider", .string provider)]

end Warning
end AgentSpec
