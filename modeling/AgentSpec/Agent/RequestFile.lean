import AgentSpec.Agent.Request
import AgentSpec.Text.Blank

/-!
Requests in files.  An owner given beside the file comes before the one in it.
-/
namespace AgentSpec.RequestFile

/-- The owner where neither the file nor the caller names one. -/
def defaultOwner : String := "local"

inductive Error
  | unreadable (path reason : String)
  | invalid (path : String) (refusal : Refusal)
deriving DecidableEq, Repr

namespace Error

def message : Error → String
  | .unreadable path _ => "Failed to read input file " ++ path
  | .invalid path _ => s!"Input file {path} is not a valid request"

/-- What lies behind the message. -/
def cause : Error → String
  | .unreadable _ reason => reason
  | .invalid _ refusal => refusal.message

end Error

def owner (inFile : String) (given : Option String) : String :=
  given.getD (if Text.isBlank inFile then defaultOwner else inFile)

/-- The value of a file's text; a file that cannot be read has a reason instead. -/
def read (r : Reader α) (path : String) (text : Except String String) : Except Error α := do
  let text ← text.mapError (.unreadable path)
  (Reader.ofText r text).mapError (.invalid path)

def compile (path : String) (text : Except String String) (given : Option String) :
    Except Error CompileRequest := do
  let c ← read CompileRequest.read path text
  return { c with ownerId := owner c.ownerId given }

def update (path : String) (text : Except String String) (agentId : String)
    (given : Option String) : Except Error UpdateRequest := do
  let u ← read UpdateRequest.read path text
  return { u with agentId := agentId, ownerId := owner u.ownerId given }

end AgentSpec.RequestFile
