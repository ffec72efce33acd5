import AgentSpec.Compile.Outcome
import AgentSpec.Compile.Settings
import AgentSpec.Compile.Synthesis
import AgentSpec.Enrich.Basic

/-!
Compiling new agents and adding to stored ones.

A request is checked, completed and only then stored.
-/
namespace AgentSpec

/-- What a compiler has beside the store: its settings and the parts of the assistant. -/
structure Compiler where
  settings : Settings := {}
  /-- The assistant designs graphs. -/
  designs : Bool := false
  /-- The assistant writes code. -/
  codes : Bool := false
deriving DecidableEq, Repr

/-- Code is written for steps that lack it. -/
def Compiler.coding (c : Compiler) : Bool := c.settings.codegenEnabled && c.codes

namespace Source

def violations (description : String) : Source → List Violation
  | .graph g =>
    (if g.models.isEmpty then [⟨"graph", .missing "at least one model"⟩] else []) ++ g.violations
  | .features wanted _ =>
    (if Text.isBlank description && wanted.isEmpty then
      [⟨"agent", .missing "a description or at least one feature"⟩] else []) ++
    wanted.zipIdx.flatMap fun (f, i) =>
      blankViolation s!"featureInputs[{i}]" "feature description" f.description

end Source

def CompileRequest.violations (r : CompileRequest) : List Violation :=
  agentNameViolations r.name ++ blankViolation "agent" "owner id" r.ownerId ++
    r.source.violations r.description

def UpdateRequest.violations (r : UpdateRequest) : List Violation :=
  blankViolation "update" "agent id" r.agentId ++
    (if r.delta.isEmpty then [⟨"update", .nothingToAdd⟩] else []) ++ r.delta.violations

/-- The connections with those added whose providers are new. -/
def mergeConnections (old added : List Connection) : List Connection :=
  added.foldl (fun cs c => if cs.any (·.provider == c.provider) then cs else cs ++ [c]) old

namespace Compiler

/-- The graph of a request, and the services that it may use if they are restricted. -/
def graphOf (c : Compiler) (r : CompileRequest) : Program (Graph × Option (List String)) :=
  match r.source with
  | .graph g => return (g, none)
  | .features wanted connections =>
    if !c.designs then .failed (.synthesis .noAssistant)
    else
      let permitted :=
        if connections.isEmpty then c.settings.permittedConnections else connections
      .design (.ofFeatures r.name r.description wanted permitted) fun
        | .error e => .failed (.synthesis (.callFailed e))
        | .ok answer =>
          .ofExcept <| match Graph.ofAnswer answer with
            | .ok g => .ok (g, some permitted)
            | .error fault => .error (.synthesis fault)

/-- Tell that all is done and hand it back. -/
def finish (verb : Verb) (graph : StoredGraph) (counts : Counts) (warnings : List Warning) :
    Program Outcome := do
  Program.tell (.complete verb graph.agent.name)
  return .ofStored verb graph counts warnings

/-- A new agent. -/
def compile (c : Compiler) (r : CompileRequest) : Program Outcome := do
  Program.ofExcept ((checked r.violations ()).mapError .shape)
  let (graph, permitted) ← c.graphOf r
  let e ← Program.resolved (graph.withRoot.enrich {} permitted)
  let agent ← Program.ask .agent <| .createAgent
    { name := r.name, description := r.description, ownerId := r.ownerId
      rootModel := e.graph.rootModel, connections := e.connections }
  let saved ← Program.save c.coding agent.id e.graph e.additions {}
  let counts := Counts.ofSaved saved e.derivedFieldCount agent.connections.length
  finish .compiled
    { agent, models := saved.models, actions := saved.actions, schedules := saved.schedules }
    counts (e.warnings ++ saved.warnings)

/-- The stored graph of an agent. -/
def stored (agentId : String) : Program StoredGraph := do
  match ← Program.ask .load (.loadGraph agentId) with
  | some g => return g
  | none => .failed (.agentNotFound agentId)

/-- Additions to a stored agent, whatever time they take. -/
def extend (c : Compiler) (r : UpdateRequest) : Program Outcome := do
  Program.ofExcept ((checked r.violations ()).mapError .shape)
  let existing ← stored r.agentId
  if existing.agent.ownerId ≠ r.ownerId then
    .failed (.notOwner r.agentId r.ownerId)
  else
    let e ← Program.resolved (r.delta.enrich existing.toGraph none)
    let agentId := existing.agent.id
    let saved ← Program.save c.coding agentId e.graph e.additions (.ofStored existing)
    let agent ← Program.ask .agent <| .updateAgent agentId
      { rootModel := if existing.agent.rootModel.isSome then none else e.graph.defaultRoot?
        connections := some (mergeConnections existing.agent.connections e.connections) }
    let graph ← stored agent.id
    let counts := Counts.ofSaved saved e.derivedFieldCount agent.connections.length
    finish .updated graph counts (e.warnings ++ saved.warnings)

end Compiler
end AgentSpec
