import AgentSpec.Enrich.Credential
import AgentSpec.Enrich.DisplayField
import AgentSpec.Enrich.Output
import AgentSpec.Enrich.Reference
import AgentSpec.Enrich.Warning

/-!
Enrichment: a new graph is completed before it is stored.

Models get display fields, step outputs become fields, and the workspace gets the credentials that
custom code needs.  Then all names are looked up.
-/
namespace AgentSpec

/-- A completed graph with what it needs beside itself. -/
structure Enriched where
  graph : Graph
  additions : Additions
  connections : List Connection
  warnings : List Warning
deriving DecidableEq, Repr

namespace Enriched

def derivedFieldCount (e : Enriched) : Nat :=
  e.graph.derivedFieldCount + (e.additions.flatMap (·.2)).countP (·.derived)

end Enriched

namespace Graph

/-- The graph with display fields. -/
def withDisplayFields (g : Graph) : Graph :=
  { g with models := g.models.map Model.withDisplayField }

/-- The graph with display fields and a field for every step output.  A model that had no field of
its own is shown by an output. -/
def withOutputs (g existing : Graph) : Draft :=
  let d : Draft := ({ graph := g.withDisplayFields } : Draft).foldOutputs existing
  { d with graph := d.graph.withDisplayFields }

/-- The completed graph, if all its names resolve. -/
def enrich (g existing : Graph) (permitted : Option (List String)) :
    Except (List Issue) Enriched :=
  let services := g.mentionedServices
  let allowed := services.filter (·.isAllowed permitted)
  let d := (g.withOutputs existing).addCredentials existing allowed
  let issues := Scope.issues ⟨existing, d.graph, d.additions⟩
  if issues.isEmpty then
    .ok
      { graph := d.graph
        additions := d.additions
        connections := allowed.map Service.connection
        warnings := (services.filter (!·.isAllowed permitted)).map (.notPermitted ·.provider) }
  else .error issues

end Graph
end AgentSpec
