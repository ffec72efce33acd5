import AgentSpec.Agent.RequestFile
import AgentSpec.Assistant.Exchange
import AgentSpec.CommandLine.Arguments
import AgentSpec.Compile.Run
import AgentSpec.Report.Agent
import AgentSpec.Text.Lines

/-!
Commands: what each of them does with the store and what it prints.
-/
namespace AgentSpec.CommandLine

/-- What a command finds around it. -/
structure Setting where
  lookup : String → Option String
  /-- The text of a file, or why it cannot be read. -/
  file : String → Except String String
  name : Store → StoreCall → String
  time : Nat → Instant
  /-- The exchange with the language model's service. -/
  send : Message → Reply

inductive Output
  | lines (ls : List String)
  | json (j : Json)

/-- What a command leaves: its exit code, its output and its complaints. -/
structure Printed where
  code : Nat
  out : Output
  complaints : List String

/-- Why a command fails. -/
inductive Failure
  | file (e : RequestFile.Error)
  | settings (e : SettingsError)
  | compile (e : CompileError)
  | store (e : StoreError)
  | noAgent (agentId : String)
deriving DecidableEq, Repr

namespace Failure

/-- A line of its own for every entity at fault. -/
def lines : Failure → List String
  | .file e => [s!"Error: {e.message}: {e.cause}"]
  | .settings (.invalidTimeout fault) =>
    [s!"Error: {(SettingsError.invalidTimeout fault).message}: {fault.message}"]
  | .settings e => ["Error: " ++ e.message]
  | .compile (.references issues) =>
    s!"Error: {issues.length} unresolved reference(s)" ::
      issues.map fun i => s!"  {i.path} {i.message}"
  | .compile (.shape vs) =>
    "Error: invalid request" :: vs.map fun v => s!"  {v.path} {v.fault.message}"
  | .compile e => [s!"Error: [{e.code}] {e.message}"]
  | .store e => ["Error: " ++ e.message]
  | .noAgent agentId => [s!"Error: Agent with ID '{agentId}' not found"]

end Failure

/-- A label with its value. -/
def labelled (label value : String) : String :=
  label ++ String.ofList (List.replicate (14 - label.length) ' ') ++ " " ++ value

namespace Output

def ofOutcome (o : Outcome) : Output :=
  let summary := match Text.lines o.summary with
    | [] => []
    | headline :: rest => ("✓ " ++ headline) :: rest
  .lines (summary ++ ["", s!"Run 'foundry show {o.agentId}' for details"])

def ofGraph (g : StoredGraph) : Output :=
  let a := g.agent
  .lines <|
    ["Agent - " ++ a.name, "", labelled "ID:" a.id, labelled "Owner:" a.ownerId] ++
    (if a.description.isEmpty then [] else [labelled "Description:" a.description]) ++
    [labelled "Root model:" (a.rootModel.getD Report.dash)] ++
    a.connections.map (fun c => labelled "Connection:" s!"{c.title} ({c.fieldName})") ++
    ["", "Models"] ++ (Report.models g).draw ++
    (if g.actions.isEmpty then [] else "Actions" :: (Report.actions g).draw) ++
    (if g.schedules.isEmpty then [] else "Schedules" :: (Report.schedules g).draw)

def ofAgents (owner : String) (agents : List AgentRecord) : Output :=
  .lines <|
    if agents.isEmpty then
      [s!"No agents found for owner '{owner}'",
        "Use 'foundry compile --input <file>' to create one"]
    else (Report.agents agents).draw ++ [s!"Total: {agents.length} agents"]

end Output

namespace Setting

def assistant (s : Setting) : Assistant := .ofVariables s.lookup

/-- Who answers the programs of a command. -/
def surroundings (s : Setting) : Surroundings where
  name := s.name
  time := s.time
  design := s.assistant.design s.send
  code := s.assistant.code s.send

/-- Run a request with the compiler of the settings. -/
def perform (s : Setting) (program : Compiler → Program Outcome) (w : World) :
    Except Failure Outcome × World :=
  match Settings.ofVariables s.lookup with
  | .error e => (.error (.settings e), w)
  | .ok settings =>
    let c : Compiler := { settings, designs := true, codes := true }
    let (result, w) := c.perform s.surroundings (program c) w
    (result.mapError .compile, w)

end Setting

namespace Command

def printOutcome (json : Bool) (o : Outcome) : Output :=
  if json then .json o.toJson else .ofOutcome o

/-- What a command prints, or why it fails, and the world after it. -/
def execute (s : Setting) (w : World) : Command → Except Failure Output × World
  | .compile input owner json =>
    match RequestFile.compile input (s.file input) owner with
    | .error e => (.error (.file e), w)
    | .ok r =>
      let (result, w) := s.perform (·.compile r) w
      (result.map (printOutcome json), w)
  | .update agentId input owner json =>
    match RequestFile.update input (s.file input) agentId owner with
    | .error e => (.error (.file e), w)
    | .ok r =>
      let (result, w) := s.perform (·.extend r) w
      (result.map (printOutcome json), w)
  | .view agentId json =>
    (match w.store.load agentId with
      | .error e => .error (.store e)
      | .ok none => .error (.noAgent agentId)
      | .ok (some g) => .ok (if json then .json g.toJson else .ofGraph g), w)
  | .list owner json =>
    let owner := owner.getD RequestFile.defaultOwner
    (match w.store.agentsOf owner with
      | .error e => .error (.store e)
      | .ok agents =>
        .ok (if json then .json (.ofList AgentRecord.toJson agents) else .ofAgents owner agents), w)

/-- Run a command. -/
def run (s : Setting) (w : World) (c : Command) : Printed × World :=
  match c.execute s w with
  | (.ok out, w) => (⟨0, out, []⟩, w)
  | (.error e, w) => (⟨1, .lines [], e.lines⟩, w)

end Command
end AgentSpec.CommandLine
