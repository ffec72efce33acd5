import AgentSpec.Connection.Catalog
import AgentSpec.Enrich.Addition

/-!
Connections that an agent needs, and the workspace fields for their credentials.

A step with custom code needs the services that its description mentions.  Where the services are
restricted, one that is not permitted is left out with a warning.
-/
namespace AgentSpec

/-- The workspace with its own field and some credentials. -/
def workspace (credentials : List Field) : Model where
  name := workspaceName
  fields := { Field.textField "name" "Name" with required := true } :: credentials
  displayFields := some ["name"]

namespace Service

/-- One more service, unless there is one of its provider. -/
def addOnce (services : List Service) (s : Service) : List Service :=
  if services.any (·.provider == s.provider) then services else services ++ [s]

/-- Where the catalog has the provider. -/
def place (s : Service) : Nat :=
  catalog.findIdx (·.provider == s.provider)

/-- Put a service in front of the first one that does not come before it in the catalog. -/
def insertByPlace (s : Service) : List Service → List Service
  | [] => [s]
  | t :: rest => if t.place < s.place then t :: insertByPlace s rest else s :: t :: rest

/-- The services in the order of the catalog. -/
def sortedByPlace (services : List Service) : List Service :=
  services.foldr insertByPlace []

end Service

namespace Graph

/-- The descriptions of the steps with custom code. -/
def codeDescriptions (g : Graph) : List String :=
  (g.actions.flatMap (·.steps)).filterMap fun s =>
    if s.kind == .customCode then some s.description else none

/-- The services that the custom code mentions, collected step by step and then put in the order of
the catalog. -/
def mentionedServices (g : Graph) : List Service :=
  Service.sortedByPlace ((g.codeDescriptions.flatMap Service.mentioned).foldl Service.addOnce [])

end Graph

/-- A service may be used; without a restriction every one may. -/
def Service.isAllowed (permitted : Option (List String)) (s : Service) : Bool :=
  permitted.all (Service.isPermitted s.provider)

namespace Draft

/-- The graph with a workspace that holds the credentials of the services. -/
def addCredentials (existing : Graph) (services : List Service) (d : Draft) : Draft :=
  let fields := services.map Service.credentialField
  if fields.isEmpty then d
  else if (d.graph.model? workspaceName).isSome || (existing.model? workspaceName).isSome then
    fields.foldl (fun d f => d.addField existing workspaceName f) d
  else { d with graph.models := d.graph.models ++ [workspace fields] }

end Draft
end AgentSpec
