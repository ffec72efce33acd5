import AgentSpec.Proofs.Enrich.Design
import AgentSpec.Proofs.Enrich.Merge

/-!
The fields that each model has after the completion of a graph.

A field that is added to a model goes to its end and only under a new name, whether the model is
new or stored.  So the passes can be read model by model: first come the outputs of the actions on
it, then, in the workspace, the credentials.  A model that neither graph has gets nothing, unless it
is the workspace and there are credentials.  Main statement: `Graph.fields?_of_enrich`.
-/
namespace AgentSpec

/-! ## Fields under new names -/

namespace Store

theorem appendNew_append (old fields more : List Field) :
    appendNew old (fields ++ more) = appendNew (appendNew old fields) more :=
  List.foldl_append

/-- Of the old fields and the appended ones the first of a name is found. -/
theorem find?_appendNew (old fields : List Field) (name : String) :
    (appendNew old fields).find? (·.name == name) =
      (old.find? (·.name == name)).or (fields.find? (·.name == name)) := by
  induction fields generalizing old with
  | nil => exact Option.or_none.symm
  | cons f rest ih =>
    show (appendNew (if old.any (·.name == f.name) then old else old ++ [f]) rest).find? _ = _
    rw [ih, List.find?_cons]
    by_cases htaken : old.any (·.name == f.name)
    · rw [if_pos htaken]
      by_cases hname : f.name = name
      · -- the name was taken, so what is found is old
        have hsome : (old.find? (·.name == name)).isSome := by
          rw [List.find?_isSome, ← List.any_eq_true]
          exact hname ▸ htaken
        obtain ⟨g, hg⟩ := Option.isSome_iff_exists.mp hsome
        rw [hg, Option.some_or, Option.some_or]
      · rw [beq_eq_false_iff_ne.mpr hname]
    · rw [if_neg htaken, List.find?_append, Option.or_assoc, List.find?_singleton]
      by_cases hname : f.name = name
      · rw [if_pos (beq_iff_eq.mpr hname), beq_iff_eq.mpr hname, Option.some_or]
      · have hne : (f.name == name) = false := beq_eq_false_iff_ne.mpr hname
        rw [hne, if_neg Bool.false_ne_true, Option.none_or]

theorem mem_names_appendNew {old fields : List Field} {name : String} :
    name ∈ (appendNew old fields).map (·.name) ↔
      name ∈ old.map (·.name) ∨ name ∈ fields.map (·.name) := by
  have hnamed (fs : List Field) :
      name ∈ fs.map (·.name) ↔ (fs.find? (·.name == name)).isSome := by
    rw [List.find?_isSome, List.mem_map]
    simp only [beq_iff_eq]
  rw [hnamed, hnamed, hnamed, find?_appendNew, Option.isSome_or, Bool.or_eq_true]

theorem mem_appendNew {old fields : List Field} {f : Field} (h : f ∈ appendNew old fields) :
    f ∈ old ∨ (f ∈ fields ∧ f.name ∉ old.map (·.name)) := by
  induction fields generalizing old with
  | nil => exact Or.inl h
  | cons g rest ih =>
    have h : f ∈ appendNew (if old.any (·.name == g.name) then old else old ++ [g]) rest := h
    by_cases htaken : old.any (·.name == g.name)
    · rw [if_pos htaken] at h
      exact (ih h).imp_right fun ⟨hf, hnew⟩ => ⟨List.mem_cons_of_mem _ hf, hnew⟩
    · rw [if_neg htaken] at h
      rcases ih h with hf | ⟨hf, hnew⟩
      · rcases List.mem_append.mp hf with hf | hf
        · exact Or.inl hf
        · have hfg : f = g := List.mem_singleton.mp hf
          have hnew : g.name ∉ old.map (·.name) := by
            simpa using htaken
          exact Or.inr ⟨hfg ▸ List.mem_cons_self, hfg ▸ hnew⟩
      · have hnew : f.name ∉ old.map (·.name) := by
          rw [List.map_append, List.mem_append, not_or] at hnew
          exact hnew.1
        exact Or.inr ⟨List.mem_cons_of_mem _ hf, hnew⟩

end Store

theorem Model.withField_fields (m : Model) (f : Field) :
    (m.withField f).fields = Store.appendNew m.fields [f] := by
  show _ = if m.hasField f.name then m.fields else m.fields ++ [f]
  unfold withField
  by_cases h : m.hasField f.name
  · rw [if_pos h, if_pos h]
  · rw [if_neg h, if_neg h]

/-! ## Models by name -/

namespace Graph

variable {g : Graph} {name other : String} {change : Model → Model}

theorem model?_changeModel (hname : ∀ m, (change m).name = m.name) :
    (g.changeModel name change).model? other =
      if other = name then (g.model? other).map change else g.model? other := by
  unfold changeModel model?
  generalize g.models = models
  induction models with
  | nil => exact (ite_self _).symm
  | cons m rest ih =>
    simp only at ih ⊢
    unfold changeModel.go
    by_cases hm : m.name = name
    · rw [if_pos (beq_iff_eq.mpr hm), List.find?_cons, List.find?_cons, hname]
      by_cases ho : other = name
      · rw [if_pos ho, beq_iff_eq.mpr (hm.trans ho.symm)]
        rfl
      · rw [if_neg ho, beq_eq_false_iff_ne.mpr fun h => ho (h.symm.trans hm)]
    · rw [if_neg fun h => hm (beq_iff_eq.mp h), List.find?_cons, List.find?_cons, ih]
      by_cases ho : m.name = other
      · have hne : other ≠ name := fun h => hm (ho.trans h)
        rw [beq_iff_eq.mpr ho, if_neg hne, if_neg hne]
      · rw [beq_eq_false_iff_ne.mpr ho]

theorem model?_withDisplayFields :
    g.withDisplayFields.model? name = (g.model? name).map (·.withDisplayField) := by
  unfold withDisplayFields model?
  rw [List.find?_map]
  rfl

theorem name_of_model? {m : Model} (h : g.model? name = some m) : m.name = name := by
  simpa using List.find?_some h

/-- The fields for the outputs of all actions on a model. -/
def outputsFor (g : Graph) (model : String) : List Field :=
  (g.actions.filter (·.targetModel == model)).flatMap Action.outputs

end Graph

theorem Additions.fieldsOf_append (adds : Additions) (model other : String) (f : Field) :
    (adds.append model f).fieldsOf other =
      if other = model then adds.fieldsOf other ++ [f] else adds.fieldsOf other := by
  unfold append fieldsOf
  rw [Dictionary.lookup_insert]
  by_cases h : other = model
  · rw [if_pos h, if_pos h, h]
    rfl
  · rw [if_neg h, if_neg h]

namespace Draft

variable {existing g : Graph} {d : Draft} {name other : String}

/-- A model of the graph, or a stored one with the fields that are kept for it. -/
def model? (existing : Graph) (d : Draft) (name : String) : Option Model :=
  d.graph.model? name <|> (existing.model? name).map (·.grow d.additions)

def fields? (existing : Graph) (d : Draft) (name : String) : Option (List Field) :=
  (d.model? existing name).map (·.fields)

theorem fields?_of_new {m : Model} (h : d.graph.model? name = some m) :
    d.fields? existing name = some m.fields := by
  rw [fields?, model?, h]
  rfl

theorem fields?_of_stored {m : Model} (hnew : d.graph.model? name = none)
    (h : existing.model? name = some m) :
    d.fields? existing name = some (m.fields ++ d.additions.fieldsOf name) := by
  rw [fields?, model?, hnew, h, ← Graph.name_of_model? h]
  rfl

theorem fields?_of_unknown (hnew : d.graph.model? name = none) (h : existing.model? name = none) :
    d.fields? existing name = none := by
  rw [fields?, model?, hnew, h]
  rfl

theorem fields?_eq_none :
    d.fields? existing name = none ↔ d.graph.model? name = none ∧ existing.model? name = none := by
  unfold fields? model?
  cases d.graph.model? name <;> cases existing.model? name <;> simp

/-! ## The passes -/

section AddField

variable {m : Model} (f : Field)

/-- A new model takes the field itself. -/
theorem fields?_addField_new (hnew : d.graph.model? name = some m) :
    (d.addField existing name f).fields? existing other =
      if other = name then some (Store.appendNew m.fields [f]) else d.fields? existing other := by
  have hmodel : (d.graph.changeModel name (·.withField f)).model? other =
      if other = name then (d.graph.model? other).map (·.withField f)
      else d.graph.model? other := Graph.model?_changeModel fun m => m.withField_name f
  unfold addField
  rw [hnew]
  by_cases ho : other = name
  · rw [if_pos ho] at hmodel ⊢
    rw [ho, hnew] at hmodel
    rw [ho, fields?_of_new hmodel, m.withField_fields]
  · rw [if_neg ho] at hmodel ⊢
    rw [fields?, model?, hmodel]
    rfl

/-- The fields when one is kept for a stored model. -/
theorem fields?_keep (hnew : d.graph.model? name = none) (hold : existing.model? name = some m) :
    ({ d with additions := d.additions.append name f } : Draft).fields? existing other =
      if other = name then some (m.fields ++ d.additions.fieldsOf name ++ [f])
      else d.fields? existing other := by
  let kept : Draft := { d with additions := d.additions.append name f }
  by_cases ho : other = name
  · have hstored : kept.fields? existing name =
        some (m.fields ++ (d.additions.append name f).fieldsOf name) := fields?_of_stored hnew hold
    rw [if_pos ho, ho, hstored, Additions.fieldsOf_append, if_pos rfl, List.append_assoc]
  · have hgrow : (existing.model? other).map (·.grow (d.additions.append name f)) =
        (existing.model? other).map (·.grow d.additions) := by
      cases h : existing.model? other with
      | none => rfl
      | some old =>
        have hne : old.name ≠ name := Graph.name_of_model? h ▸ ho
        simp only [Option.map_some, Model.grow, Additions.fieldsOf_append, if_neg hne]
    rw [if_neg ho, fields?, model?, hgrow]
    rfl

/-- For a stored model the field is kept, unless its name is taken already. -/
theorem fields?_addField_stored (hnew : d.graph.model? name = none)
    (hold : existing.model? name = some m) :
    (d.addField existing name f).fields? existing other =
      if other = name then some (Store.appendNew (m.fields ++ d.additions.fieldsOf name) [f])
      else d.fields? existing other := by
  have hany : (m.hasField f.name || (d.additions.fieldsOf name).any (·.name == f.name)) =
      (m.fields ++ d.additions.fieldsOf name).any (·.name == f.name) := List.any_append.symm
  unfold addField
  rw [hnew, hold]
  simp only [hany]
  by_cases htaken : (m.fields ++ d.additions.fieldsOf name).any (·.name == f.name)
  · have hsame : Store.appendNew (m.fields ++ d.additions.fieldsOf name) [f] =
        m.fields ++ d.additions.fieldsOf name := if_pos htaken
    rw [if_pos htaken, hsame, ← fields?_of_stored hnew hold]
    by_cases ho : other = name
    · rw [if_pos ho, ho]
    · rw [if_neg ho]
  · have hadded : Store.appendNew (m.fields ++ d.additions.fieldsOf name) [f] =
        m.fields ++ d.additions.fieldsOf name ++ [f] := if_neg htaken
    rw [if_neg htaken, hadded, fields?_keep f hnew hold]

theorem fields?_addField : (d.addField existing name f).fields? existing other =
    if other = name then (d.fields? existing other).map (Store.appendNew · [f])
    else d.fields? existing other := by
  by_cases ho : other = name
  case neg =>
    rw [if_neg ho]
    cases hnew : d.graph.model? name with
    | some m => rw [fields?_addField_new f hnew, if_neg ho]
    | none =>
      cases hold : existing.model? name with
      | some m => rw [fields?_addField_stored f hnew hold, if_neg ho]
      | none =>
        unfold addField
        rw [hnew, hold]
  case pos =>
    rw [if_pos ho, ho]
    cases hnew : d.graph.model? name with
    | some m =>
      rw [fields?_addField_new f hnew, if_pos rfl, fields?_of_new hnew]
      rfl
    | none =>
      cases hold : existing.model? name with
      | some m =>
        rw [fields?_addField_stored f hnew hold, if_pos rfl, fields?_of_stored hnew hold]
        rfl
      | none =>
        unfold addField
        rw [hnew, hold, fields?_of_unknown hnew hold]
        rfl

end AddField

theorem fields?_addFields (fields : List Field) :
    (fields.foldl (fun d f => d.addField existing name f) d).fields? existing other =
      if other = name then (d.fields? existing other).map (Store.appendNew · fields)
      else d.fields? existing other := by
  induction fields generalizing d with
  | nil =>
    have hself : (d.fields? existing other).map (Store.appendNew · []) =
        d.fields? existing other := Option.map_id'
    rw [List.foldl_nil, hself, ite_self]
  | cons f rest ih =>
    rw [List.foldl_cons, ih, fields?_addField]
    by_cases ho : other = name
    · rw [if_pos ho, if_pos ho, if_pos ho, Option.map_map]
      congr 1
    · rw [if_neg ho, if_neg ho, if_neg ho]

theorem actions_addField (f : Field) :
    (d.addField existing name f).graph.actions = d.graph.actions := by
  unfold addField
  cases d.graph.model? name with
  | some m => rfl
  | none =>
    cases existing.model? name with
    | none => rfl
    | some m =>
      simp only
      split
      · rfl
      · rfl

theorem actions_addFields (fields : List Field) :
    (fields.foldl (fun d f => d.addField existing name f) d).graph.actions = d.graph.actions :=
  foldl_keeps (P := fun d' : Draft => d'.graph.actions = d.graph.actions) rfl
    fun _ f _ hd => (actions_addField f).trans hd

theorem actions_foldOutputs : (d.foldOutputs existing).graph.actions = d.graph.actions :=
  foldl_keeps (P := fun d' : Draft => d'.graph.actions = d.graph.actions) rfl
    fun _ a _ hd => (actions_addFields a.outputs).trans hd

theorem actions_addCredentials (services : List Service) :
    (d.addCredentials existing services).graph.actions = d.graph.actions := by
  unfold addCredentials
  simp only
  split
  · rfl
  · split
    · exact actions_addFields _
    · rfl

theorem fields?_foldOutputs : (d.foldOutputs existing).fields? existing name =
    (d.fields? existing name).map (Store.appendNew · (d.graph.outputsFor name)) := by
  unfold foldOutputs Graph.outputsFor
  generalize d.graph.actions = actions
  induction actions generalizing d with
  | nil => exact Option.map_id'.symm
  | cons a rest ih =>
    rw [List.foldl_cons, ih, fields?_addFields, List.filter_cons]
    by_cases ha : name = a.targetModel
    · rw [if_pos ha, if_pos (beq_iff_eq.mpr ha.symm), List.flatMap_cons, Option.map_map]
      congr 1
      funext old
      exact (Store.appendNew_append old a.outputs _).symm
    · rw [if_neg ha, if_neg fun h => ha (beq_iff_eq.mp h).symm]

theorem fields?_withDisplayFields :
    ({ d with graph := d.graph.withDisplayFields } : Draft).fields? existing name =
      d.fields? existing name := by
  unfold fields? model?
  simp only [Graph.model?_withDisplayFields]
  cases d.graph.model? name with
  | none => rfl
  | some m => rfl

/-- The fields when a model is put to the end of the graph, under a name that neither graph has. -/
theorem fields?_concat {m : Model} (hnew : d.graph.model? m.name = none) :
    ({ d with graph := { d.graph with models := d.graph.models ++ [m] } } : Draft).fields? existing
      name = if name = m.name then some m.fields else d.fields? existing name := by
  have hmodel : ({ d.graph with models := d.graph.models ++ [m] } : Graph).model? name =
      (d.graph.model? name).or (if (m.name == name) = true then some m else none) := by
    show (d.graph.models ++ [m]).find? _ = _
    rw [List.find?_append, List.find?_singleton]
    rfl
  by_cases ho : name = m.name
  · rw [ho, hnew, Option.none_or, if_pos (beq_self_eq_true m.name)] at hmodel
    rw [if_pos ho, ho]
    exact fields?_of_new hmodel
  · have hother : (m.name == name) = false := beq_eq_false_iff_ne.mpr (Ne.symm ho)
    rw [hother, if_neg Bool.false_ne_true, Option.or_none] at hmodel
    rw [if_neg ho, fields?, model?, hmodel]
    rfl

/-- A workspace that is known takes the credentials at its end; one that is not is made for them. -/
theorem fields?_addCredentials (services : List Service) :
    (d.addCredentials existing services).fields? existing name =
      if name = workspaceName then
        match d.fields? existing name with
        | some fields => some (Store.appendNew fields (services.map Service.credentialField))
        | none =>
          if services = [] then none
          else some (nameField :: services.map Service.credentialField)
      else d.fields? existing name := by
  unfold addCredentials
  by_cases hw : name = workspaceName
  case neg =>
    rw [if_neg hw]
    simp only
    split
    case isTrue => rfl
    case isFalse =>
      split
      case isTrue => rw [fields?_addFields, if_neg hw]
      case isFalse hthere =>
        rw [Bool.or_eq_true, not_or, Option.not_isSome_iff_eq_none] at hthere
        exact (fields?_concat hthere.1).trans (if_neg hw)
  case pos =>
    rw [if_pos hw, hw]
    by_cases hnone : services = []
    · rw [hnone]
      show d.fields? existing workspaceName = _
      cases d.fields? existing workspaceName with
      | none => rfl
      | some fields => rfl
    · have hempty : (services.map Service.credentialField).isEmpty = false := by
        simpa using hnone
      simp only [hempty, Bool.false_eq_true, if_false]
      cases hf : d.fields? existing workspaceName with
      | some fields =>
        have hthere : ((d.graph.model? workspaceName).isSome ||
            (existing.model? workspaceName).isSome) = true := by
          by_contra hnot
          rw [Bool.or_eq_true, not_or, Option.not_isSome_iff_eq_none,
            Option.not_isSome_iff_eq_none, ← fields?_eq_none, hf] at hnot
          cases hnot
        rw [if_pos hthere, fields?_addFields, if_pos rfl, hf]
        rfl
      | none =>
        obtain ⟨hnew, hold⟩ := fields?_eq_none.mp hf
        simp only [hnew, hold, Option.isSome_none, Bool.or_self, Bool.false_eq_true, if_false,
          if_neg hnone]
        exact (fields?_concat hnew).trans (if_pos rfl)

end Draft

/-! ## Completed graphs -/

namespace Enriched

/-- The completed graph with the fields that are kept beside it. -/
def draft (e : Enriched) : Draft := ⟨e.graph, e.additions⟩

end Enriched

namespace Graph

variable {existing g : Graph} {permitted : Option (List String)} {e : Enriched} {name : String}

/-- The services that the graph is connected to. -/
def services (g : Graph) (permitted : Option (List String)) : List Service :=
  g.mentionedServices.filter (·.isAllowed permitted)

/-- The model that a name stands for before the graph is completed, new or stored. -/
def given? (g existing : Graph) (name : String) : Option Model :=
  Scope.model? ⟨existing, g, []⟩ name

def givenFields? (g existing : Graph) (name : String) : Option (List Field) :=
  (g.given? existing name).map (·.fields)

theorem fields?_given (existing g : Graph) (name : String) :
    ({ graph := g } : Draft).fields? existing name = g.givenFields? existing name := by
  unfold Draft.fields? Draft.model? givenFields? given? Scope.model?
  cases g.model? name with
  | some m => rfl
  | none =>
    cases existing.model? name with
    | none => rfl
    | some m => exact congrArg some (List.append_nil m.fields)

theorem fields?_withOutputs : (g.withOutputs existing).fields? existing name =
    (g.givenFields? existing name).map (Store.appendNew · (g.outputsFor name)) := by
  unfold withOutputs
  rw [Draft.fields?_withDisplayFields, Draft.fields?_foldOutputs]
  rw [Draft.fields?_withDisplayFields (d := { graph := g }), fields?_given]
  rfl

theorem enrich_eq_ok (h : g.enrich existing permitted = .ok e) :
    e.draft = (g.withOutputs existing).addCredentials existing (g.services permitted) ∧
      e.connections = (g.services permitted).map Service.connection := by
  unfold enrich at h
  simp only at h
  split at h
  case isFalse => cases h
  case isTrue =>
    cases h
    exact ⟨rfl, rfl⟩

/-- What completing a graph makes of the fields of a model. -/
theorem fields?_of_enrich (h : g.enrich existing permitted = .ok e) (name : String) :
    e.draft.fields? existing name =
      let given := (g.givenFields? existing name).map (Store.appendNew · (g.outputsFor name))
      let credentials := (g.services permitted).map Service.credentialField
      if name = workspaceName then
        match given with
        | some fields => some (Store.appendNew fields credentials)
        | none => if g.services permitted = [] then none else some (nameField :: credentials)
      else given := by
  rw [(enrich_eq_ok h).1, Draft.fields?_addCredentials, fields?_withOutputs]

theorem actions_of_enrich (h : g.enrich existing permitted = .ok e) :
    e.graph.actions = g.actions := by
  show e.draft.graph.actions = _
  rw [(enrich_eq_ok h).1, Draft.actions_addCredentials]
  exact Draft.actions_foldOutputs

end Graph
end AgentSpec
