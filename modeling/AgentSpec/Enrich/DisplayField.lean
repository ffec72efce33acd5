import AgentSpec.Graph.Lookup
import AgentSpec.Text.Casing
import AgentSpec.Text.Fragment

/-!
The field that stands for a record when its model's author chose none.

Rules are tried in order.  The first rule that some field satisfies chooses the first such field,
and a model whose fields satisfy no rule is shown by its first field.
-/
namespace AgentSpec

inductive DisplayRule
  | nameOrTitle
  | descriptiveText
  | anyText
deriving DecidableEq, Repr

namespace DisplayRule

/-- The rules, the strongest first. -/
def all : List DisplayRule := [.nameOrTitle, .descriptiveText, .anyText]

def toText : DisplayRule → String
  | .nameOrTitle => "name_or_title"
  | .descriptiveText => "descriptive_text"
  | .anyText => "first_text"

/-- Parts of a name that speak of a description. -/
def descriptiveFragments : List String :=
  ["title", "label", "description", "category", "type", "species"]

def admits (r : DisplayRule) (f : Field) : Bool :=
  let name := Text.toLower f.name
  match r with
  | .nameOrTitle => Text.contains name "name" || Text.contains name "title"
  | .descriptiveText => f.isText && descriptiveFragments.any (Text.contains name)
  | .anyText => f.isText

end DisplayRule

namespace Model

/-- The field chosen for display; none in a model without fields. -/
def displayField? (m : Model) : Option Field :=
  DisplayRule.all.findSome? (fun r => m.fields.find? r.admits) <|> m.fields.head?

/-- The model with a display field, unless its author chose some or it has no field. -/
def withDisplayField (m : Model) : Model :=
  { m with displayFields := m.displayFields <|> m.displayField?.map fun f => [f.name] }

end Model
end AgentSpec
