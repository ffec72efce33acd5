import AgentSpec.Compile.Error
import AgentSpec.Connection.Catalog
import AgentSpec.Enrich.Credential
import AgentSpec.Graph.Decode
import AgentSpec.Graph.Shape
import AgentSpec.Assistant.Prompt

/-!
Graphs designed by the assistant.

The assistant's answer is read and checked like a graph from a user.  Credentials that it put on the
workspace itself are taken off again, since only mentioned and permitted services may have one.
-/
namespace AgentSpec

/-- A field that stands for a credential, by its type or by its name. -/
def Field.isCredential (f : Field) : Bool :=
  f.type == .oauth || (Service.ofField? f.name).isSome

namespace Model

/-- The workspace without credentials and with a name.  Display fields and forms keep the names of
the fields that are left. -/
def withoutCredentials (m : Model) : Model :=
  let kept := { m with fields := m.fields.filter (!·.isCredential) }
  let named : Model :=
    if kept.hasField "name" then kept
    else
      let name := { Field.textField "name" "Name" with required := true }
      { kept with fields := name :: kept.fields }
  { named with
    displayFields := named.displayFields.map fun names =>
      match names.filter named.hasField with
      | [] => ["name"]
      | kept => kept
    forms := named.forms.map fun form =>
      { form with fields := form.fields.filter named.hasField } }

end Model

namespace Graph

/-- The graph with a workspace that has no credentials. -/
def withPlainWorkspace (g : Graph) : Graph :=
  if (g.model? workspaceName).isSome then g.changeModel workspaceName Model.withoutCredentials
  else { g with models := g.models ++ [workspace []] }

/-- The graph of an answer of the assistant. -/
def ofAnswer (answer : Json) : Except SynthesisFault Graph := do
  let g ← (Reader.ofJson Graph.read answer).mapError .undecodable
  let g ← (checked g.violations g).mapError .badShape
  if g.models.all (·.name == workspaceName) then throw .onlyWorkspace
  return g.withPlainWorkspace.withRoot

end Graph

/-- The request for the graph of an agent. -/
def SynthesisRequest.ofFeatures (name description : String) (features : List Feature)
    (permitted : List String) : SynthesisRequest where
  contract := Prompt.contract
  name := name
  description := description
  features := features
  permitted := permitted

end AgentSpec
