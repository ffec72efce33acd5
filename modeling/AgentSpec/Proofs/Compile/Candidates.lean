import AgentSpec.Proofs.Enrich.Scope
import AgentSpec.Proofs.Persist.Stopping
import AgentSpec.Proofs.Text.Order

/-!
What is offered in place of a name that does not resolve.

Names are looked up in two ways: before anything is stored in the stored graph and the new one
together, and in the stages of storing among the names that have identifiers by then.  Either way a
name that stands for nothing is reported with candidates, and these are the names that would have done
at its place, no more and no fewer (`candidates_explain`).  They stand in order, none twice, but for
one place: where a reference names a field that its target lacks, `id` is put in front of the fields
without a look at them.  So the list is out of order if a field sorts before `id`, and has `id` twice
if the target has a field of that name.
-/
namespace AgentSpec

theorem Dictionary.Sorted.ascending {d : Dictionary α} (h : d.Sorted) : Text.Ascending d.names :=
  Text.ascending_iff.mpr (List.pairwise_map.mpr h)

/-! ## Roles of names -/

/-- What a name stands for where it is used. -/
inductive Role
  | model
  | action
  /-- A field of the model itself. -/
  | displayField (m : Model)
  /-- A field of the model that a reference is to. -/
  | targetField (target : String)

namespace Role

def what : Role → String
  | model => "model"
  | action => "action"
  | displayField _ => "field"
  | targetField _ => "field"

/-- Candidates stand in order, none twice.  Only for the target of a reference its `id` comes first,
wherever it would stand among the fields. -/
def Ordered : Role → List String → Prop
  | targetField _, candidates => ∃ fields, candidates = idField :: fields ∧ Text.Ascending fields
  | _, candidates => Text.Ascending candidates

/-- The candidates explain why the name does not do in this role: they are the names that do. -/
structure Explains (role : Role) (valid : String → Prop) (what name : String)
    (candidates : List String) : Prop where
  what : what = role.what
  invalid : ¬valid name
  exact : ∀ n, n ∈ candidates ↔ valid n
  ordered : role.Ordered candidates

end Role

/-! ## Before anything is stored -/

namespace Scope

/-- A model declares the field, or the field is added to it. -/
def Declares (s : Scope) (model n : String) : Prop :=
  (∃ m, s.model? model = some m ∧ n ∈ m.fieldNames) ∨
    n ∈ (s.additions.fieldsOf model).map (·.name)

/-- The names that do in a role.  A model has the field `id` without declaring it. -/
def Valid (s : Scope) : Role → String → Prop
  | .model, n => ∃ m ∈ s.existing.models ++ s.delta.models, m.name = n
  | .action, n => ∃ a ∈ s.existing.actions ++ s.delta.actions, a.name = n
  | .displayField m, n => n ∈ m.fieldNames
  | .targetField target, n => n = idField ∨ s.Declares target n

/-- No field of a target comes before `id` or is called `id` itself. -/
def IdFirst (s : Scope) : Role → Prop
  | .targetField target => ∀ n, s.Declares target n → Text.bytes idField < Text.bytes n
  | _ => True

/-- The new graph uses a name, at a path and in a role. -/
inductive Uses (s : Scope) : String → Role → String → Prop
  | root {n : String} : s.delta.rootModel = some n → Uses s "root model" .model n
  | reference {m : Model} {f : Field} {r : FieldReference} : m ∈ s.delta.models → f ∈ m.fields →
    f.reference = some r → Uses s (m.path ++ "." ++ f.name) .model r.model
  | referenceField {m : Model} {f : Field} {r : FieldReference} : m ∈ s.delta.models →
    f ∈ m.fields → f.reference = some r → s.Valid .model r.model →
    Uses s (m.path ++ "." ++ f.name) (.targetField r.model) r.field
  | displayField {m : Model} {n : String} : m ∈ s.delta.models → n ∈ m.displayFields.getD [] →
    Uses s (m.path ++ ".displayFields") (.displayField m) n
  | target {a : Action} : a ∈ s.delta.actions → Uses s a.path .model a.targetModel
  | turnModel {c : Schedule} {t : ScheduleStep} {i : Nat} : c ∈ s.delta.schedules →
    (t, i) ∈ c.steps.zipIdx → Uses s (c.path ++ s!".steps[{i}]") .model t.modelName
  | turnAction {c : Schedule} {t : ScheduleStep} {i : Nat} : c ∈ s.delta.schedules →
    (t, i) ∈ c.steps.zipIdx → Uses s (c.path ++ s!".steps[{i}]") .action t.actionName

/-- If the issue is a name that does not resolve, the graph uses it, and the candidates explain it.
All of them are in order exactly if `id` is where it is put. -/
def Accounts (s : Scope) (i : Issue) : Prop :=
  ∀ what name candidates, i.cause = .unresolved what name candidates →
    ∃ role, s.Uses i.path role name ∧ role.Explains (s.Valid role) what name candidates ∧
      (Text.Ascending candidates ↔ s.IdFirst role)

variable {s : Scope} {path n : String}

theorem valid_model_iff : s.Valid .model n ↔ s.hasModel n := by
  rw [hasModel_iff, Reaches, Valid]
  simp only [List.mem_append, or_and_right, exists_or]

theorem accounts_model (huse : s.Uses path .model n) (h : ¬s.hasModel n) :
    s.Accounts (s.unresolvedModel path n) := by
  intro what name candidates hcause
  cases hcause
  have hsorted : Text.Ascending s.modelNames := Text.ascending_sortedOnce _
  refine ⟨.model, huse, ⟨rfl, mt valid_model_iff.mp h, fun m => ?_, hsorted⟩,
    iff_of_true hsorted trivial⟩
  rw [valid_model_iff, hasModel, List.contains_iff_mem]

/-- The name of a model, where it is looked up. -/
theorem accounts_lookup (huse : s.Uses path .model n) :
    ∀ i ∈ (if s.hasModel n then [] else [s.unresolvedModel path n]), s.Accounts i := by
  intro i hi
  by_cases h : s.hasModel n
  · rw [if_pos h] at hi
    cases hi
  · rw [if_neg h] at hi
    rw [List.mem_singleton.mp hi]
    exact accounts_model huse h

theorem accounts_action (huse : s.Uses path .action n) (h : s.target? n = none) :
    s.Accounts ⟨path, .unresolved "action" n s.actionNames⟩ := by
  intro what name candidates hcause
  cases hcause
  have hsorted : Text.Ascending s.actionNames := Text.ascending_sortedOnce _
  refine ⟨.action, huse, ⟨rfl, ?_, fun m => ?_, hsorted⟩, iff_of_true hsorted trivial⟩
  · rintro ⟨a, ha, hname⟩
    rw [target?, Option.map_eq_none_iff, List.find?_eq_none] at h
    exact h a (List.mem_reverse.mpr ha) (beq_iff_eq.mpr hname)
  · rw [actionNames, Text.mem_sortedOnce, List.mem_append, Graph.actionNames, Graph.actionNames,
      Text.mem_sortedOnce, Text.mem_sortedOnce, ← List.mem_append, ← List.map_append, List.mem_map]
    rfl

theorem accounts_displayField {m : Model} (huse : s.Uses path (.displayField m) n)
    (hnames : m.fieldNames.Nodup) (h : n ∉ m.fieldNames) :
    s.Accounts ⟨path, .unresolved "field" n (Text.sorted m.fieldNames)⟩ := by
  intro what name candidates hcause
  cases hcause
  have hsorted := Text.ascending_sorted hnames
  exact ⟨.displayField m, huse, ⟨rfl, h, fun k => Text.mem_sorted k _, hsorted⟩,
    iff_of_true hsorted trivial⟩

theorem mem_fieldNames {target : String} : n ∈ s.fieldNames target ↔ s.Declares target n := by
  rw [fieldNames, Text.mem_sortedOnce, List.mem_append, Declares]
  cases s.model? target with
  | none => simp
  | some m => simp

/-- Behind `id` the fields are in order, so all depends on where `id` would stand among them. -/
theorem ascending_targetField {target : String} :
    Text.Ascending (idField :: s.fieldNames target) ↔ s.IdFirst (.targetField target) := by
  have hsorted : Text.Ascending (s.fieldNames target) := Text.ascending_sortedOnce _
  have hfirst : (∀ k ∈ s.fieldNames target, Text.bytes idField < Text.bytes k) ↔
      s.IdFirst (.targetField target) := forall_congr' fun k => imp_congr_left mem_fieldNames
  exact List.pairwise_cons.trans ((and_iff_left hsorted).trans hfirst)

theorem mem_targetField {target : String} :
    n ∈ idField :: s.fieldNames target ↔ s.Valid (.targetField target) n :=
  List.mem_cons.trans (or_congr_right mem_fieldNames)

theorem accounts_targetField {target : String} (huse : s.Uses path (.targetField target) n)
    (h : ¬s.Valid (.targetField target) n) :
    s.Accounts ⟨path, .unresolved "field" n (idField :: s.fieldNames target)⟩ := by
  intro what name candidates hcause
  cases hcause
  have hsorted : Text.Ascending (s.fieldNames target) := Text.ascending_sortedOnce _
  exact ⟨.targetField target, huse, ⟨rfl, h, fun k => mem_targetField, _, rfl, hsorted⟩,
    ascending_targetField⟩

/-! ### Part by part -/

/-- An issue of another kind is not about a name. -/
theorem accounts_other {i : Issue} (h : ∀ what name candidates,
    i.cause ≠ .unresolved what name candidates) : s.Accounts i :=
  fun what name candidates hcause => absurd hcause (h what name candidates)

theorem accounts_collisions : ∀ i ∈ s.collisions, s.Accounts i := by
  intro i hi
  simp only [collisions, List.mem_append, List.mem_map] at hi
  rcases hi with (⟨_, -, rfl⟩ | ⟨_, -, rfl⟩) | ⟨_, -, rfl⟩
  all_goals exact accounts_other (by simp)

theorem accounts_rootIssues : ∀ i ∈ s.rootIssues, s.Accounts i := by
  intro i hi
  obtain ⟨root, hroot, hi⟩ := List.mem_flatMap.mp hi
  exact accounts_lookup (.root (Option.mem_toList.mp hroot)) i hi

/-- Of a model that is there a reference may name the fields that are valid. -/
theorem referenceIssues_eq_field {r : FieldReference} (hmodel : s.hasModel r.model) :
    s.referenceIssues path r = if r.field ∈ idField :: s.fieldNames r.model then []
      else [⟨path, .unresolved "field" r.field (idField :: s.fieldNames r.model)⟩] := by
  have hfield : (r.field == idField || (s.fieldNames r.model).contains r.field) = true ↔
      r.field ∈ idField :: s.fieldNames r.model := by
    rw [Bool.or_eq_true, beq_iff_eq, List.contains_iff_mem, List.mem_cons]
  rw [referenceIssues, if_neg (by simp [hmodel])]
  exact if_congr hfield rfl rfl

theorem accounts_referenceIssues {m : Model} {f : Field} {r : FieldReference}
    (hm : m ∈ s.delta.models) (hf : f ∈ m.fields) (hr : f.reference = some r) :
    ∀ i ∈ s.referenceIssues (m.path ++ "." ++ f.name) r, s.Accounts i := by
  intro i hi
  by_cases hmodel : s.hasModel r.model
  · have huse := Uses.referenceField hm hf hr (valid_model_iff.mpr hmodel)
    rw [referenceIssues_eq_field hmodel] at hi
    by_cases hfield : r.field ∈ idField :: s.fieldNames r.model
    · rw [if_pos hfield] at hi
      cases hi
    · rw [if_neg hfield, List.mem_singleton] at hi
      rw [hi]
      exact accounts_targetField huse (mt mem_targetField.mpr hfield)
  · rw [referenceIssues, if_pos (by simp [hmodel]), List.mem_singleton] at hi
    rw [hi]
    exact accounts_model (.reference hm hf hr) hmodel

theorem accounts_modelIssues {m : Model} (hm : m ∈ s.delta.models) (hnames : m.fieldNames.Nodup) :
    ∀ i ∈ s.modelIssues m, s.Accounts i := by
  intro i hi
  rcases List.mem_append.mp hi with hi | hi
  · obtain ⟨f, hf, hi⟩ := List.mem_flatMap.mp hi
    obtain ⟨r, hr, hi⟩ := List.mem_flatMap.mp hi
    exact accounts_referenceIssues hm hf (Option.mem_toList.mp hr) i hi
  · obtain ⟨n, hn, rfl⟩ := List.mem_map.mp hi
    obtain ⟨hshown, hmissing⟩ := List.mem_filter.mp hn
    refine accounts_displayField (.displayField hm hshown) hnames ?_
    intro hmem
    have hfield : m.hasField n = true := by
      obtain ⟨f, hf, hname⟩ := List.mem_map.mp hmem
      exact List.any_eq_true.mpr ⟨f, hf, beq_iff_eq.mpr hname⟩
    rw [hfield] at hmissing
    cases hmissing

theorem accounts_actionIssues {a : Action} (ha : a ∈ s.delta.actions) :
    ∀ i ∈ s.actionIssues a, s.Accounts i :=
  accounts_lookup (.target ha)

theorem accounts_turnIssues {path : String} {t : ScheduleStep}
    (hmodel : s.Uses path .model t.modelName) (haction : s.Uses path .action t.actionName) :
    ∀ i ∈ s.turnIssues path t, s.Accounts i := by
  intro i hi
  rcases List.mem_append.mp hi with hi | hi
  · exact accounts_lookup hmodel i hi
  · cases htarget : s.target? t.actionName with
    | none =>
      rw [htarget, List.mem_singleton] at hi
      rw [hi]
      exact accounts_action haction htarget
    | some target =>
      simp only [htarget] at hi
      split at hi
      · rw [List.mem_singleton.mp hi]
        exact accounts_other (by simp)
      · cases hi

theorem accounts_issues (hnames : ∀ m ∈ s.delta.models, m.fieldNames.Nodup) :
    ∀ i ∈ s.issues, s.Accounts i := by
  intro i hi
  unfold issues at hi
  simp only [List.mem_append] at hi
  rcases hi with (((hi | hi) | hi) | hi) | hi
  · exact accounts_collisions i hi
  · exact accounts_rootIssues i hi
  · obtain ⟨m, hm, hi⟩ := List.mem_flatMap.mp hi
    exact accounts_modelIssues hm (hnames m hm) i hi
  · obtain ⟨a, ha, hi⟩ := List.mem_flatMap.mp hi
    exact accounts_actionIssues ha i hi
  · obtain ⟨c, hc, hi⟩ := List.mem_flatMap.mp hi
    obtain ⟨⟨t, k⟩, ht, hi⟩ := List.mem_flatMap.mp hi
    exact accounts_turnIssues (.turnModel hc ht) (.turnAction hc ht) i hi

/-- A field that a target lacks is reported, with the fields it has behind `id`. -/
theorem mem_issues_of_targetField {target : String} (huse : s.Uses path (.targetField target) n)
    (h : ¬s.Valid (.targetField target) n) :
    ⟨path, .unresolved "field" n (idField :: s.fieldNames target)⟩ ∈ s.issues := by
  cases huse with
  | @referenceField m f r hm hf hr hmodel =>
    have hissue : ⟨m.path ++ "." ++ f.name, .unresolved "field" r.field
        (idField :: s.fieldNames r.model)⟩ ∈ s.modelIssues m := by
      refine List.mem_append_left _ (List.mem_flatMap.mpr ⟨f, hf, ?_⟩)
      rw [hr, Option.toList_some, List.flatMap_singleton,
        referenceIssues_eq_field (valid_model_iff.mp hmodel), if_neg (mt mem_targetField.mp h)]
      exact List.mem_singleton_self _
    refine List.mem_append_left _ (List.mem_append_left _ (List.mem_append_right _ ?_))
    exact List.mem_flatMap.mpr ⟨m, hm, hissue⟩

/-- All candidates of all issues are in order exactly if `id` is in its place wherever a field of a
target is not found. -/
theorem ascending_iff_idFirst (hnames : ∀ m ∈ s.delta.models, m.fieldNames.Nodup) :
    (∀ i ∈ s.issues, Text.Ascending i.cause.candidates) ↔
      ∀ path role n, s.Uses path role n → ¬s.Valid role n → s.IdFirst role := by
  constructor
  · intro hall path role n huse hinvalid
    cases role with
    | targetField target =>
      exact ascending_targetField.mp (hall _ (mem_issues_of_targetField huse hinvalid))
    | model => trivial
    | action => trivial
    | displayField m => trivial
  · intro hfirst i hi
    cases hcause : i.cause with
    | unresolved what name candidates =>
      obtain ⟨role, huse, hexplains, hordered⟩ :=
        accounts_issues hnames i hi what name candidates hcause
      exact hordered.mpr (hfirst i.path role name huse hexplains.invalid)
    | nameTaken kind => exact .nil
    | wrongTarget action target model => exact .nil
    | reported text => exact .nil

end Scope

/-! ## In the stages of storing -/

/-- A stage uses a name, at a path and in a role. -/
inductive Graph.Uses (g : Graph) (additions : Additions) : Phase → String → Role → String → Prop
  | addition {add : String × List Field} : add ∈ additions →
    Uses g additions .models "field additions" .model add.1
  | target {a : Action} : a ∈ g.actions →
    Uses g additions .actions s!"action '{a.name}'" .model a.targetModel
  | turnModel {c : Schedule} {t : ScheduleStep} {i : Nat} : c ∈ g.schedules →
    (t, i) ∈ c.steps.zipIdx →
    Uses g additions .schedules s!"schedule '{c.name}'.steps[{i}]" .model t.modelName
  | turnAction {c : Schedule} {t : ScheduleStep} {i : Nat} : c ∈ g.schedules →
    (t, i) ∈ c.steps.zipIdx →
    Uses g additions .schedules s!"schedule '{c.name}'.steps[{i}]" .action t.actionName

namespace Known

variable {known reached : Known} {g : Graph} {additions : Additions} {phase : Phase}

/-- The names that have identifiers when a stage begins: those known before, and those of the graph
that were stored in the stages in front of it. -/
def Valid (known : Known) (g : Graph) (phase : Phase) : Role → String → Prop
  | .model, n => n ∈ Dictionary.names known.models ∨
      (Phase.models.rank < phase.rank ∧ ∃ m ∈ g.models, m.name = n)
  | .action, n => n ∈ Dictionary.names known.actions ∨
      (Phase.actions.rank < phase.rank ∧ ∃ a ∈ g.actions, a.name = n)
  | _, _ => False

/-- What is known when a stage begins. -/
structure Begins (known : Known) (g : Graph) (phase : Phase) (reached : Known) : Prop where
  sortedModels : reached.models.Sorted
  sortedActions : reached.actions.Sorted
  models : ∀ n, n ∈ Dictionary.names reached.models ↔ known.Valid g phase .model n
  actions : ∀ n, n ∈ Dictionary.names reached.actions ↔ known.Valid g phase .action n

theorem sorted_foldl_insert {entries : List (String × α)} {d : Dictionary α} (h : d.Sorted) :
    Dictionary.Sorted (entries.foldl (fun d e => d.insert e.1 e.2) d) := by
  induction entries generalizing d with
  | nil => exact h
  | cons e rest ih => exact ih (h.insert e.1 e.2)

theorem explains_mentionModel (h : known.Begins g phase reached) {path n : String}
    (hdangles : (reached.mentionModel path n).Dangles) :
    Role.model.Explains (known.Valid g phase .model) "model" n (Dictionary.names reached.models) where
  what := rfl
  invalid := mt (h.models n).mpr hdangles
  exact := h.models
  ordered := h.sortedModels.ascending

theorem explains_mentionAction (h : known.Begins g phase reached) {path n : String}
    (hdangles : (reached.mentionAction path n).Dangles) :
    Role.action.Explains (known.Valid g phase .action) "action" n
      (Dictionary.names reached.actions) where
  what := rfl
  invalid := mt (h.actions n).mpr hdangles
  exact := h.actions
  ordered := h.sortedActions.ascending

/-- The issue is a name that the stage uses, and the candidates explain it. -/
def Accounts (known : Known) (g : Graph) (additions : Additions) (phase : Phase) (i : Issue) : Prop :=
  ∃ role what name candidates, i.cause = .unresolved what name candidates ∧
    g.Uses additions phase i.path role name ∧
    role.Explains (known.Valid g phase role) what name candidates

theorem accounts_mention (h : known.Begins g phase reached) {r : Mention}
    (hr : r ∈ reached.mentions g additions phase) (hdangles : r.Dangles) :
    known.Accounts g additions phase r.issue := by
  cases phase with
  | agent => cases hr
  | load => cases hr
  | models =>
    obtain ⟨add, hadd, hr⟩ := List.mem_flatMap.mp hr
    rw [List.mem_singleton.mp hr] at hdangles ⊢
    exact ⟨.model, _, _, _, rfl, .addition hadd, explains_mentionModel h hdangles⟩
  | actions =>
    obtain ⟨a, ha, hr⟩ := List.mem_flatMap.mp hr
    rw [List.mem_singleton.mp hr] at hdangles ⊢
    exact ⟨.model, _, _, _, rfl, .target ha, explains_mentionModel h hdangles⟩
  | schedules =>
    obtain ⟨c, hc, hr⟩ := List.mem_flatMap.mp hr
    obtain ⟨⟨t, i⟩, ht, hr⟩ := List.mem_flatMap.mp hr
    -- steps are looked up in the order of their turns, and named by their places in the schedule
    have hplace : (t, i) ∈ c.steps.zipIdx := List.mem_mergeSort.mp ht
    rcases List.mem_cons.mp hr with rfl | hr
    · exact ⟨.model, _, _, _, rfl, .turnModel hc hplace, explains_mentionModel h hdangles⟩
    · rw [List.mem_singleton.mp hr] at hdangles ⊢
      exact ⟨.action, _, _, _, rfl, .turnAction hc hplace, explains_mentionAction h hdangles⟩

end Known

namespace Program

variable {w : Weave} {es es₁ es₂ : List Event} {agentId : String} {g : Graph}
  {additions : Additions} {known reached : Known} {coding : Bool} {phase : Phase}
  {issues : List Issue}

theorem begins_models (hmodels : known.models.Sorted) (hactions : known.actions.Sorted) :
    known.Begins g .models known where
  sortedModels := hmodels
  sortedActions := hactions
  models n := by simp [Known.Valid, Phase.rank]
  actions n := by simp [Known.Valid, Phase.rank]

theorem begins_actions (hmodels : known.models.Sorted) (hactions : known.actions.Sorted)
    {models : List StoredModel}
    (h₁ : (saveModels agentId g.models additions known).Trace w es₁ (.value models)) :
    known.Begins g .actions (models.foldl Known.addModel known) where
  sortedModels := by
    rw [Known.addModels_models]
    exact Known.sorted_foldl_insert hmodels
  sortedActions := by
    rw [Known.addModels_actions]
    exact hactions
  models n := by
    rw [Known.mem_addModels_names, saveModels_names h₁]
    simp [Known.Valid, Phase.rank]
  actions n := by
    rw [Known.addModels_actions]
    simp [Known.Valid, Phase.rank]

theorem begins_schedules (hmodels : known.models.Sorted) (hactions : known.actions.Sorted)
    {models : List StoredModel} {actions : List StoredAction × List Warning}
    (h₁ : (saveModels agentId g.models additions known).Trace w es₁ (.value models))
    (h₂ : (saveActions coding agentId g.actions (models.foldl Known.addModel known)).Trace w es₂
      (.value actions)) :
    known.Begins g .schedules
      (actions.1.foldl Known.addAction (models.foldl Known.addModel known)) where
  sortedModels := by
    rw [Known.addActions_models]
    exact (begins_actions hmodels hactions h₁).sortedModels
  sortedActions := by
    rw [Known.addActions_actions]
    exact Known.sorted_foldl_insert (begins_actions hmodels hactions h₁).sortedActions
  models n := by
    rw [Known.addActions_models, Known.mem_addModels_names, saveModels_names h₁]
    simp [Known.Valid, Phase.rank]
  actions n := by
    rw [Known.mem_addActions_names, saveActions_names h₂, Known.addModels_actions]
    simp [Known.Valid, Phase.rank]

/-- A stage that stops with issues stops with those of its mentions that dangle. -/
theorem StageStops.accounts (h : StageStops phase (reached.mentions g additions phase) es
      (.references issues)) (hbegins : known.Begins g phase reached) :
    ∀ i ∈ issues, known.Accounts g additions phase i := by
  intro i hi
  rcases h with ⟨-, he, -⟩ | ⟨-, source, he, -⟩
  · cases he
    obtain ⟨r, hr, rfl⟩ := List.mem_map.mp hi
    obtain ⟨hr, hdangles⟩ := List.mem_filter.mp hr
    exact Known.accounts_mention hbegins hr (of_decide_eq_true hdangles)
  · cases he

theorem save_accounts (hmodels : known.models.Sorted) (hactions : known.actions.Sorted)
    (h : (save coding agentId g additions known).Trace w es (.error (.references issues))) :
    ∃ phase, ∀ i ∈ issues, known.Accounts g additions phase i := by
  rcases save_failed h with h₁ | ⟨models, es₁, es', -, h₁, h'⟩
  · exact ⟨.models, (saveModels_stops h₁).accounts (begins_models hmodels hactions)⟩
  rcases h' with h₂ | ⟨actions, es₂, es₃, -, h₂, h₃⟩
  · exact ⟨.actions, (saveActions_stops h₂).accounts (begins_actions hmodels hactions h₁)⟩
  · exact ⟨.schedules, (saveSchedules_stops h₃).accounts (begins_schedules hmodels hactions h₁ h₂)⟩

end Program

/-! ## Candidates -/

/-- Whatever does not resolve is reported with the names that would, be it before anything is stored
or in a stage of storing.  They stand in order, none twice, except that `id` is put in front of the
fields of a target: the order is right exactly if it belongs there. -/
theorem candidates_explain (s : Scope) (hnames : ∀ m ∈ s.delta.models, m.fieldNames.Nodup)
    (coding : Bool) (agentId : String) (g : Graph) (additions : Additions) (known : Known)
    (hmodels : known.models.Sorted) (hactions : known.actions.Sorted) :
    (∀ i ∈ s.issues, s.Accounts i) ∧
    ((∀ i ∈ s.issues, Text.Ascending i.cause.candidates) ↔
      ∀ path role n, s.Uses path role n → ¬s.Valid role n → s.IdFirst role) ∧
    ∀ (w : Weave) (es : List Event) (issues : List Issue),
      (Program.save coding agentId g additions known).Trace w es (.error (.references issues)) →
      ∃ phase, ∀ i ∈ issues, known.Accounts g additions phase i :=
  ⟨Scope.accounts_issues hnames, Scope.ascending_iff_idFirst hnames,
    fun _ _ _ h => Program.save_accounts hmodels hactions h⟩

/-- A reference to a field that the model lacks, which has one named `id`. -/
def contactScope : Scope where
  existing := {}
  delta :=
    { models :=
        [{ name := "Contact"
           fields := [.textField "address" "Address", .textField "id" "Identity"] },
          { name := "Lead"
            fields := [{ name := "call", title := "Call", type := .reference
                         reference := some { model := "Contact", field := "phone" } }] }] }
  additions := []

theorem contactScope_issues : contactScope.issues =
    [⟨"model 'Lead'.call", .unresolved "field" "phone" ["id", "address", "id"]⟩] := by
  decide +kernel

theorem not_ascending_address : ¬Text.Ascending ["id", "address", "id"] := by
  rw [Text.ascending_iff]
  decide

/-- Of the fields of a contact `address` stands behind `id`, and `id` stands there twice. -/
theorem candidates_out_of_order :
    contactScope.existing.violations = [] ∧ contactScope.delta.violations = [] ∧
    contactScope.issues =
      [⟨"model 'Lead'.call", .unresolved "field" "phone" ["id", "address", "id"]⟩] ∧
    ¬Text.Ascending ["id", "address", "id"] :=
  ⟨by decide +kernel, by decide +kernel, contactScope_issues, not_ascending_address⟩

theorem candidates_explain_contactScope :
    (∀ m ∈ contactScope.delta.models, m.fieldNames.Nodup) ∧
    (∀ i ∈ contactScope.issues, contactScope.Accounts i) ∧
    ¬(∀ path role n, contactScope.Uses path role n → ¬contactScope.Valid role n →
      contactScope.IdFirst role) ∧
    (Program.save false "agent-01" Program.strayGraph [] {}).Trace .any Program.strayEvents
      (.error (.references [Program.strayIssue])) ∧
    ∃ phase, ∀ i ∈ [Program.strayIssue], Known.Accounts {} Program.strayGraph [] phase i := by
  have hnames : ∀ m ∈ contactScope.delta.models, m.fieldNames.Nodup := by decide
  obtain ⟨haccounts, hiff, hstages⟩ :=
    candidates_explain contactScope hnames false "agent-01" Program.strayGraph [] {} .nil .nil
  refine ⟨hnames, haccounts, fun hfirst => not_ascending_address ?_, Program.strayGraph_trace,
    hstages _ _ _ Program.strayGraph_trace⟩
  exact hiff.mpr hfirst _ (contactScope_issues ▸ List.mem_singleton_self _)

end AgentSpec
