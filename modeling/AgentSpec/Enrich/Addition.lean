import AgentSpec.Dictionary
import AgentSpec.Graph.Lookup

/-!
Fields that are added to models, new ones and stored ones.

New models take their fields at once.  Those of stored models are kept beside the graph, by the name
of the model, until they are appended in the store.
-/
namespace AgentSpec

/-- Fields to append to stored models, by the names of the models. -/
abbrev Additions := Dictionary (List Field)

namespace Additions

/-- The fields for a model. -/
def fieldsOf (adds : Additions) (model : String) : List Field :=
  (adds.lookup model).getD []

/-- One more field for a model. -/
def append (model : String) (f : Field) (adds : Additions) : Additions :=
  Dictionary.insert model (adds.fieldsOf model ++ [f]) adds

end Additions

/-- The model with one more field, unless it has one of that name. -/
def Model.withField (f : Field) (m : Model) : Model :=
  if m.hasField f.name then m else { m with fields := m.fields ++ [f] }

/-- A graph to be added and the fields to be added to stored models. -/
structure Draft where
  graph : Graph
  additions : Additions := []
deriving DecidableEq, Repr

namespace Draft

/-- One more field for a model of the graph or else for a stored one; a field of that name stays. -/
def addField (existing : Graph) (model : String) (f : Field) (d : Draft) : Draft :=
  match d.graph.model? model, existing.model? model with
  | some _, _ => { d with graph := d.graph.changeModel model (·.withField f) }
  | none, some m =>
    if m.hasField f.name || (d.additions.fieldsOf model).any (·.name == f.name) then d
    else { d with additions := d.additions.append model f }
  | none, none => d

end Draft
end AgentSpec
