import AgentSpec.Decimal.Power
import AgentSpec.Text.Blank
import AgentSpec.Text.Casing
import AgentSpec.Text.Numeral

/-!
Settings of the compiler, read from named variables.
-/
namespace AgentSpec

structure Settings where
  /-- The time that an update may take. -/
  updateTimeoutMillis : Nat := 300000
  codegenEnabled : Bool := true
  /-- The services for requests that name none. -/
  permittedConnections : List String := []
deriving DecidableEq, Repr

inductive SettingsError
  | invalidTimeout (fault : Text.NumeralFault)
  | timeoutTooShort
  | invalidFlag (name value : String)
deriving DecidableEq, Repr

def SettingsError.message : SettingsError → String
  | .invalidTimeout fault => "Invalid update timeout: " ++ fault.message
  | .timeoutTooShort => "Update timeout must be at least 1 second"
  | .invalidFlag name value => s!"Invalid boolean for {name}: {value}"

namespace Settings

def timeoutVariable : String := "FOUNDRY_UPDATE_TIMEOUT_SECS"
def codegenVariable : String := "FOUNDRY_CODEGEN_ENABLED"
def connectionsVariable : String := "FOUNDRY_PERMITTED_CONNECTIONS"

def readTimeout : Option String → Except SettingsError Nat
  | none => .ok ({} : Settings).updateTimeoutMillis
  | some value =>
    match Text.readNatural (twoTo 64) (Text.trim value) with
    | .error fault => .error (.invalidTimeout fault)
    | .ok 0 => .error .timeoutTooShort
    | .ok seconds => .ok (1000 * seconds)

def readFlag (name : String) : Option String → Except SettingsError Bool
  | none => .ok true
  | some value =>
    let word := Text.toLower (Text.trim value)
    if ["1", "true", "yes", "on"].contains word then .ok true
    else if ["0", "false", "no", "off"].contains word then .ok false
    else .error (.invalidFlag name value)

/-- Names between commas, in lower case, the blank ones left out. -/
def readNames (value : String) : List String :=
  ((value.splitOn ",").map fun s => Text.toLower (Text.trim s)).filter (· ≠ "")

def ofVariables (lookup : String → Option String) : Except SettingsError Settings := do
  let updateTimeoutMillis ← readTimeout (lookup timeoutVariable)
  let codegenEnabled ← readFlag codegenVariable (lookup codegenVariable)
  let permittedConnections := readNames ((lookup connectionsVariable).getD "")
  return { updateTimeoutMillis, codegenEnabled, permittedConnections }

end Settings
end AgentSpec
