import AgentSpec.Assistant.Basic
import AgentSpec.Assistant.Error
import AgentSpec.Assistant.Prompt
import AgentSpec.Assistant.Status
import AgentSpec.Text.Fragment

/-!
Exchanges with the service of the language model: what is sent, and what is made of the reply.

A reply is a JSON value with blocks of content, the first text of which is read again, as the value
that was asked for.
-/
namespace AgentSpec

/-- What is sent to the service. -/
structure Message where
  model : String
  maxTokens : Nat
  prompt : String
  system : Option String
deriving DecidableEq, Repr

/-- What comes back. -/
inductive Reply
  | unreachable
  /-- The service hangs up without a word. -/
  | dropped
  | answered (status : Nat) (body : String)
deriving DecidableEq, Repr

/-- The number of tokens of a message and its reply. -/
structure Usage where
  input : UInt32
  output : UInt32
deriving DecidableEq, Repr

namespace Message

/-- The version of the service's interface. -/
def interface : String := "2023-06-01"

def path : String := "/v1/messages"

/-- Seven tenths. -/
def temperature : Json :=
  .number (((Binary64.nearest? false 7 10).map .float).getD (.int 1))

def toJson (m : Message) : Json :=
  .ofMembers <|
    [("model", .string m.model), ("max_tokens", .nat m.maxTokens), ("temperature", temperature),
      ("messages",
        .array [.ofMembers [("role", .string "user"), ("content", .string m.prompt)]])] ++
    (m.system.map fun s => [("system", .string s)]).getD []

end Message

namespace Usage

def total (u : Usage) : UInt32 := u.input + u.output

def toJson (u : Usage) : Json :=
  .ofMembers [("input_tokens", .nat32 u.input), ("output_tokens", .nat32 u.output)]

def read : Reader Usage :=
  Reader.record "struct Usage" ["input_tokens", "output_tokens"] fun g =>
    Usage.mk <$> g.required 0 "input_tokens" Reader.nat32
      <*> g.required 1 "output_tokens" Reader.nat32

end Usage

def fence : List Char := "```".toList

/-- What stands before the last place where a list occurs, if it occurs. -/
def beforeLast (part : List Char) : List Char → Option (List Char)
  | [] => none
  | c :: rest =>
    match beforeLast part rest with
    | some found => some (c :: found)
    | none => if part.isPrefixOf (c :: rest) then some [] else none

/-- The text inside a fence: the lines between the opening one and the last fence. -/
def withoutFence (text : String) : String :=
  let cs := Text.trimChars text.toList
  if fence.isPrefixOf cs then
    let inside := (cs.dropWhile (· != '\n')).drop 1
    String.ofList (Text.trimChars ((beforeLast fence inside).getD inside))
  else String.ofList cs

namespace Reply

/-- A block of content: its text, if it has one. -/
def readBlock : Reader (Option String) :=
  Reader.record "struct ContentBlock" ["text"] fun g =>
    g.withDefault 0 "text" none (Reader.option Reader.string)

/-- The texts of the blocks, and the usage. -/
def readContent : Reader (List (Option String) × Usage) :=
  Reader.record "struct AnthropicResponse" ["content", "usage"] fun g =>
    Prod.mk <$> g.required 0 "content" (Reader.list readBlock)
      <*> g.required 1 "usage" Usage.read

/-- The text without a byte order mark. -/
def withoutMark (s : String) : String :=
  match s.toList with
  | '\uFEFF' :: rest => String.ofList rest
  | _ => s

/-- The value that was asked for, or what went wrong on the way to it. -/
def read (address : String) (r : Reader α) (reply : Reply) : Except ServiceError (α × Usage) := do
  let failure := s!"error sending request for url ({address})"
  match reply with
  | .unreachable => throw (.api ("Connection failed: " ++ failure))
  | .dropped => throw (.requestFailed failure)
  | .answered status body =>
    if !Status.isFinal status then throw (.requestFailed failure)
    let body := if Status.hasBody status then body else ""
    if !Status.isSuccess status then
      throw (.api ("API returned " ++ Status.toText status ++ ": " ++ withoutMark body))
    let (texts, usage) ← (Reader.ofText readContent body).mapError fun _ =>
      .unreadable "error decoding response body"
    match texts.findSome? id with
    | none => throw .invalidResponse
    | some text =>
      let value ← (Reader.ofText r (withoutFence text)).mapError fun e =>
        .unreadable ("Failed to parse JSON: " ++ e.message)
      return (value, usage)

end Reply

namespace Assistant

/-- The longest reply that is asked for; small models give shorter ones. -/
def maxTokens (a : Assistant) : Nat := if Text.contains a.model "haiku" then 4096 else 8192

/-- Characters that a header may hold. -/
def isSendable (c : Char) : Bool := (0x20 ≤ c.toNat && c.toNat != 0x7F) || c == '\t'

/-- The message for a prompt, if there is a key that can be sent with it. -/
def message (a : Assistant) (prompt : String) (system : Option String) :
    Except ServiceError Message :=
  match a.key with
  | none => .error .noKey
  | some key =>
    if key.toList.all isSendable then .ok ⟨a.model, a.maxTokens, prompt, system⟩
    else .error (.requestFailed "builder error")

/-- Ask for a value; `send` is the exchange itself. -/
def ask (a : Assistant) (send : Message → Reply) (r : Reader α) (prompt : String)
    (system : Option String) : Except ServiceError (α × Usage) := do
  let m ← a.message prompt system
  Reply.read a.address r (send m)

def noKey : AssistantError := .unavailable s!"{keyVariable} is not configured"

/-- Ask for a whole agent graph. -/
def design (a : Assistant) (send : Message → Reply) (r : SynthesisRequest) :
    Except AssistantError Json :=
  if a.key.isNone then .error noKey
  else match a.ask send Reader.json (Prompt.synthesis r) (some r.contract) with
    | .ok (j, _) => .ok j
    | .error e => .error (.service e)

/-- Ask for the code of a step. -/
def code (a : Assistant) (send : Message → Reply) (r : CodeRequest) :
    Except AssistantError GeneratedCode :=
  if a.key.isNone then .error noKey
  else match a.ask send GeneratedCode.read (Prompt.code r) (some Prompt.codeRules) with
    | .error e => .error (.service e)
    | .ok (g, _) =>
      if Text.isBlank g.code then .error (.rejected s!"no code returned for step '{r.stepName}'")
      else .ok g

end Assistant
end AgentSpec
