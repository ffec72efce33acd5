import AgentSpec.Proofs.Graph.Shape

/-!
The conditions on graphs in words of their own.

`Graph.Proper` lists what a graph must satisfy without a word about violations: texts with something
to read in them, names that differ, fields that carry what their type asks for.  The check accepts a
graph exactly if it is proper, and what it reports about repeated names is counted against the lists
of names of the graph (`Graph.nameLists`): one report for each list and each name it repeats.
-/
namespace AgentSpec

namespace Text

/-- A text with something to read in it. -/
def Filled (s : String) : Prop := ∃ c ∈ s.toList, isSpace c = false

theorem filled_iff {s : String} : Filled s ↔ ¬isBlank s := by
  unfold Filled isBlank
  simp

end Text

/-! ## Proper entities -/

/-- A named field whose type and attributes agree. -/
structure Field.Proper (f : Field) : Prop where
  name : Text.Filled f.name
  values : f.type = .enum → ∃ vs, f.enumValues = some vs ∧ vs ≠ [] ∧ ∀ v ∈ vs, Text.Filled v
  target : f.type = .reference → ∃ r, f.reference = some r ∧ Text.Filled r.model
  noTarget : f.type ≠ .reference → f.reference = none

theorem Field.contentViolations_eq_nil {f : Field} {path : String} :
    f.contentViolations path = [] ↔
      (f.type = .enum → ∃ vs, f.enumValues = some vs ∧ vs ≠ [] ∧ ∀ v ∈ vs, Text.Filled v) ∧
      (f.type = .reference → ∃ r, f.reference = some r ∧ Text.Filled r.model) := by
  unfold contentViolations
  cases f.type with
  | enum =>
    rcases hvs : f.enumValues with - | (- | ⟨v, rest⟩)
    · simp
    · simp
    · simp [Text.filled_iff]
  | reference =>
    cases hr : f.reference with
    | none => simp
    | some r => simp [Text.filled_iff]
  | text => simp
  | number => simp
  | boolean => simp
  | date => simp
  | imageUrl => simp
  | oauth => simp

theorem Field.wellFormed_iff {f : Field} : f.WellFormed ↔ f.Proper := by
  have hstray (path : String) : (if f.reference.isSome && f.type != .reference then
      [⟨path, .strayReference f.type⟩] else []) = ([] : List Violation) ↔
        (f.type ≠ .reference → f.reference = none) := by
    cases f.reference <;> simp
  rw [← @Field.violations_eq_nil f "", violations, List.append_eq_nil_iff,
    List.append_eq_nil_iff, blankViolation_eq_nil, ← Text.filled_iff, contentViolations_eq_nil,
    hstray]
  constructor
  · rintro ⟨⟨hname, hvalues, htarget⟩, hnone⟩
    exact ⟨hname, hvalues, htarget, hnone⟩
  · rintro ⟨hname, hvalues, htarget, hnone⟩
    exact ⟨⟨hname, hvalues, htarget⟩, hnone⟩

/-- A named form over fields of the model.  Where two fields share a name, the first of them decides
whether a new form may collect it. -/
structure Form.Proper (form : Form) (m : Model) : Prop where
  name : Text.Filled form.name
  fields : ∀ n ∈ form.fields, n ∈ m.fieldNames
  collected : form.kind = .new → ∀ before f after, m.fields = before ++ f :: after →
    f.name ∉ before.map (·.name) → f.name ∈ form.fields → f.derived = false

/-- A name stands for the first field that has it. -/
theorem Model.field?_eq_some {m : Model} {n : String} {f : Field} :
    m.field? n = some f ↔ f.name = n ∧
      ∃ before after, m.fields = before ++ f :: after ∧ n ∉ before.map (·.name) := by
  unfold field?
  rw [List.find?_eq_some_iff_append, beq_iff_eq]
  refine and_congr_right fun _ => exists_congr fun before => exists_congr fun after =>
    and_congr_right fun _ => ?_
  simp only [List.mem_map, not_exists, not_and, Bool.not_eq_true', beq_eq_false_iff_ne]

theorem Model.exists_field? {m : Model} {n : String} :
    (∃ f, m.field? n = some f) ↔ n ∈ m.fieldNames := by
  rw [← Option.isSome_iff_exists, field?, List.find?_isSome, fieldNames, List.mem_map]
  simp only [beq_iff_eq]

theorem Form.fits_iff {form : Form} {m : Model} : form.Fits m ↔ form.Proper m := by
  constructor
  · rintro ⟨hname, hfields⟩
    refine ⟨Text.filled_iff.mpr hname, fun n hn => ?_, fun hnew before f after hm hfirst hf => ?_⟩
    · obtain ⟨f, hf, -⟩ := hfields n hn
      exact Model.exists_field?.mp ⟨f, hf⟩
    · obtain ⟨f', hf', hderived⟩ := hfields f.name hf
      rw [Model.field?_eq_some.mpr ⟨rfl, before, after, hm, hfirst⟩] at hf'
      cases hf'
      exact Bool.eq_false_iff.mpr fun h => hderived ⟨h, hnew⟩
  · rintro ⟨hname, hfields, hcollected⟩
    refine ⟨Text.filled_iff.mp hname, fun n hn => ?_⟩
    obtain ⟨f, hf⟩ := Model.exists_field?.mpr (hfields n hn)
    refine ⟨f, hf, ?_⟩
    rintro ⟨hderived, hnew⟩
    obtain ⟨rfl, before, after, hm, hfirst⟩ := Model.field?_eq_some.mp hf
    rw [hcollected hnew before f after hm hfirst hn] at hderived
    cases hderived

structure Model.Proper (m : Model) : Prop where
  name : Text.Filled m.name
  fieldNames : m.fieldNames.Nodup
  fields : ∀ f ∈ m.fields, f.Proper
  displayFields : ∀ names, m.displayFields = some names → ∀ n ∈ names, n ∈ m.fieldNames
  forms : ∀ form ∈ m.forms, form.Proper m

theorem Model.wellFormed_iff {m : Model} : m.WellFormed ↔ m.Proper := by
  have hfields : (∀ f ∈ m.fields, f.WellFormed) ↔ ∀ f ∈ m.fields, f.Proper :=
    forall₂_congr fun f _ => Field.wellFormed_iff
  have hdisplay : (∀ n ∈ m.displayFields.getD [], m.hasField n) ↔
      ∀ names, m.displayFields = some names → ∀ n ∈ names, n ∈ m.fieldNames := by
    have hmem (n : String) : m.hasField n ↔ n ∈ m.fieldNames := by
      rw [Model.hasField, List.any_eq_true, Model.fieldNames, List.mem_map]
      simp only [beq_iff_eq]
    cases m.displayFields with
    | none => simp
    | some names => simp [hmem]
  have hforms : (∀ form ∈ m.forms, form.Fits m) ↔ ∀ form ∈ m.forms, form.Proper m :=
    forall₂_congr fun form _ => Form.fits_iff
  constructor
  · intro h
    exact ⟨Text.filled_iff.mpr h.name, h.fieldNames, hfields.mp h.fields,
      hdisplay.mp h.displayFields, hforms.mp h.forms⟩
  · intro h
    exact ⟨Text.filled_iff.mp h.name, h.fieldNames, hfields.mpr h.fields,
      hdisplay.mpr h.displayFields, hforms.mpr h.forms⟩

/-- A step says what to do, unless that is left to its code. -/
def StepConfig.Proper : StepConfig → Prop
  | .reasoning prompt _ => Text.Filled prompt
  | .imageGeneration prompt _ => Text.Filled prompt
  | .webSearch query _ => Text.Filled query
  | .customCode _ _ _ => True

structure Step.Proper (s : Step) : Prop where
  name : Text.Filled s.name
  config : s.config.Proper

theorem Step.wellFormed_iff {s : Step} : s.WellFormed ↔ s.Proper := by
  rw [← @Step.violations_eq_nil s "", violations, List.append_eq_nil_iff, blankViolation_eq_nil,
    ← Text.filled_iff]
  have hstep : Text.Filled s.name ∧ s.config.Proper ↔ s.Proper :=
    ⟨fun h => ⟨h.1, h.2⟩, fun h => ⟨h.name, h.config⟩⟩
  refine (and_congr_right fun _ => ?_).trans hstep
  cases hc : s.config with
  | reasoning prompt model => simp [StepConfig.instruction?, StepConfig.Proper, Text.filled_iff]
  | webSearch query maxResults =>
    simp [StepConfig.instruction?, StepConfig.Proper, Text.filled_iff]
  | customCode code dependencies envVars => simp [StepConfig.instruction?, StepConfig.Proper]
  | imageGeneration prompt aspectRatio =>
    simp [StepConfig.instruction?, StepConfig.Proper, Text.filled_iff]

structure Action.Proper (a : Action) : Prop where
  name : Text.Filled a.name
  title : Text.Filled a.title
  targetModel : Text.Filled a.targetModel
  emoji : (∀ c ∈ a.emoji.toList, Text.isSpace c = false) ∧ a.emoji.toList.length ≤ 8
  stepNames : (a.steps.map (·.name)).Nodup
  steps : ∀ s ∈ a.steps, s.Proper

theorem Action.wellFormed_iff {a : Action} : a.WellFormed ↔ a.Proper := by
  have hmarker : isMarker a.emoji ↔
      (∀ c ∈ a.emoji.toList, Text.isSpace c = false) ∧ a.emoji.toList.length ≤ 8 := by
    rw [isMarker, Bool.and_eq_true, decide_eq_true_iff, Bool.not_eq_true', List.any_eq_false,
      String.length_toList]
    simp only [Bool.not_eq_true]
    rfl
  have hsteps : (∀ s ∈ a.steps, s.WellFormed) ↔ ∀ s ∈ a.steps, s.Proper :=
    forall₂_congr fun s _ => Step.wellFormed_iff
  constructor
  · intro h
    exact ⟨Text.filled_iff.mpr h.name, Text.filled_iff.mpr h.title,
      Text.filled_iff.mpr h.targetModel, hmarker.mp h.emoji, h.stepNames, hsteps.mp h.steps⟩
  · intro h
    exact ⟨Text.filled_iff.mp h.name, Text.filled_iff.mp h.title,
      Text.filled_iff.mp h.targetModel, hmarker.mpr h.emoji, h.stepNames, hsteps.mpr h.steps⟩

structure Schedule.Proper (c : Schedule) : Prop where
  name : Text.Filled c.name
  recurring : c.mode = .recurring → ∃ hours, c.intervalHours = some hours ∧ 1 ≤ hours
  once : c.mode = .once → c.intervalHours = none
  nonempty : c.steps ≠ []
  orders : (c.steps.map (·.order)).Nodup
  models : ∀ t ∈ c.steps, Text.Filled t.modelName
  actions : ∀ t ∈ c.steps, Text.Filled t.actionName

theorem Schedule.wellFormed_iff {c : Schedule} : c.WellFormed ↔ c.Proper := by
  have hinterval : c.intervalViolations = [] ↔
      (c.mode = .recurring → ∃ hours, c.intervalHours = some hours ∧ 1 ≤ hours) ∧
        (c.mode = .once → c.intervalHours = none) := by
    unfold intervalViolations
    cases c.mode with
    | once => cases c.intervalHours <;> simp
    | recurring =>
      cases c.intervalHours with
      | none => simp
      | some hours =>
        have hpos : ¬hours = 0 ↔ 1 ≤ hours := by
          rw [← UInt32.toNat_inj, UInt32.le_iff_toNat_le]
          exact Nat.pos_iff_ne_zero.symm
        simp [hpos]
  constructor
  · intro h
    exact ⟨Text.filled_iff.mpr h.name, (hinterval.mp h.interval).1, (hinterval.mp h.interval).2,
      h.nonempty, h.orders, fun t ht => Text.filled_iff.mpr (h.steps t ht).model,
      fun t ht => Text.filled_iff.mpr (h.steps t ht).action⟩
  · intro h
    exact ⟨Text.filled_iff.mp h.name, hinterval.mpr ⟨h.recurring, h.once⟩, h.nonempty, h.orders,
      fun t ht => ⟨Text.filled_iff.mp (h.models t ht), Text.filled_iff.mp (h.actions t ht)⟩⟩

structure Graph.Proper (g : Graph) : Prop where
  modelNames : (g.models.map (·.name)).Nodup
  actionNames : (g.actions.map (·.name)).Nodup
  scheduleNames : (g.schedules.map (·.name)).Nodup
  root : ∀ n, g.rootModel = some n → Text.Filled n
  models : ∀ m ∈ g.models, m.Proper
  actions : ∀ a ∈ g.actions, a.Proper
  schedules : ∀ c ∈ g.schedules, c.Proper

theorem Graph.shaped_iff {g : Graph} : g.Shaped ↔ g.Proper := by
  have hmodels : (∀ m ∈ g.models, m.WellFormed) ↔ ∀ m ∈ g.models, m.Proper :=
    forall₂_congr fun m _ => Model.wellFormed_iff
  have hactions : (∀ a ∈ g.actions, a.WellFormed) ↔ ∀ a ∈ g.actions, a.Proper :=
    forall₂_congr fun a _ => Action.wellFormed_iff
  have hschedules : (∀ c ∈ g.schedules, c.WellFormed) ↔ ∀ c ∈ g.schedules, c.Proper :=
    forall₂_congr fun c _ => Schedule.wellFormed_iff
  constructor
  · intro h
    exact ⟨h.modelNames, h.actionNames, h.scheduleNames,
      fun n hn => Text.filled_iff.mpr (h.root n hn), hmodels.mp h.models, hactions.mp h.actions,
      hschedules.mp h.schedules⟩
  · intro h
    exact ⟨h.modelNames, h.actionNames, h.scheduleNames,
      fun n hn => Text.filled_iff.mp (h.root n hn), hmodels.mpr h.models, hactions.mpr h.actions,
      hschedules.mpr h.schedules⟩

/-! ## Repeated names -/

/-- Names of one kind that must differ, and where they stand. -/
structure NameList where
  path : String
  what : String
  names : List String

/-- All lists of names in the graph that must not repeat any. -/
def Graph.nameLists (g : Graph) : List NameList :=
  [⟨"graph", "model", g.models.map (·.name)⟩, ⟨"graph", "action", g.actions.map (·.name)⟩,
    ⟨"graph", "schedule", g.schedules.map (·.name)⟩] ++
  g.models.map (fun m => ⟨m.path, "field", m.fieldNames⟩) ++
  g.actions.map fun a => ⟨a.path, "step", a.steps.map (·.name)⟩

/-- A list at this place, of names of this kind, has the name more than once. -/
def NameList.repeats (path what name : String) (l : NameList) : Bool :=
  l.path == path && l.what == what && decide (1 < l.names.count name)

theorem count_secondOccurrences [BEq α] [LawfulBEq α] (seen names : List α) (a : α) :
    (secondOccurrences seen names).count a =
      if seen.count a ≤ 1 ∧ 2 ≤ seen.count a + names.count a then 1 else 0 := by
  induction names generalizing seen with
  | nil =>
    have hfew : ¬(seen.count a ≤ 1 ∧ 2 ≤ seen.count a + ([] : List α).count a) := by
      rw [List.count_nil]
      omega
    rw [if_neg hfew]
    rfl
  | cons b rest ih =>
    unfold secondOccurrences
    by_cases hab : b = a
    · subst hab
      by_cases hb : seen.count b = 1
      · rw [if_pos hb, List.count_cons_self, ih, List.count_cons_self, List.count_cons_self,
          if_neg (by omega), if_pos (by omega)]
      · rw [if_neg hb, ih, List.count_cons_self, List.count_cons_self]
        have hsame : (seen.count b + 1 ≤ 1 ∧ 2 ≤ seen.count b + 1 + rest.count b) ↔
            (seen.count b ≤ 1 ∧ 2 ≤ seen.count b + (rest.count b + 1)) := by omega
        rw [if_congr hsame rfl rfl]
    · have hother : (secondOccurrences (b :: seen) rest).count a =
          if seen.count a ≤ 1 ∧ 2 ≤ seen.count a + (b :: rest).count a then 1 else 0 := by
        rw [ih, List.count_cons_of_ne hab, List.count_cons_of_ne hab]
      by_cases hb : seen.count b = 1
      · rw [if_pos hb, List.count_cons_of_ne hab, hother]
      · rw [if_neg hb, hother]

/-- One report for a name that the list repeats, however often it does, and none for any other. -/
theorem count_duplicateViolations (here kind : String) (names : List String)
    (path what name : String) :
    (duplicateViolations here kind names).count ⟨path, .duplicateName what name⟩ =
      if NameList.repeats path what name ⟨here, kind, names⟩ then 1 else 0 := by
  unfold duplicateViolations NameList.repeats
  by_cases hplace : here = path ∧ kind = what
  · obtain ⟨rfl, rfl⟩ := hplace
    have hinj : Function.Injective fun n => (⟨here, .duplicateName kind n⟩ : Violation) := by
      intro m n h
      cases h
      rfl
    rw [List.count_map_of_injective _ _ hinj, count_secondOccurrences]
    simp [Nat.lt_iff_add_one_le]
  · have hnone : (⟨path, .duplicateName what name⟩ : Violation) ∉
        (secondOccurrences [] names).map fun n => ⟨here, .duplicateName kind n⟩ := by
      intro h
      obtain ⟨n, -, hn⟩ := List.mem_map.mp h
      cases hn
      exact hplace ⟨rfl, rfl⟩
    rw [List.count_eq_zero_of_not_mem hnone, if_neg]
    simp only [Bool.and_eq_true, beq_iff_eq]
    exact fun h => hplace h.1

/-- None of the violations is about a repeated name. -/
def Silent (vs : List Violation) : Prop :=
  ∀ v ∈ vs, ∀ what name, v.fault ≠ .duplicateName what name

namespace Silent

variable {vs ws : List Violation}

theorem count (h : Silent vs) (path what name : String) :
    vs.count ⟨path, .duplicateName what name⟩ = 0 :=
  List.count_eq_zero_of_not_mem fun hmem => h _ hmem what name rfl

theorem nil : Silent [] := fun _ h => absurd h List.not_mem_nil

theorem append (h : Silent vs) (h' : Silent ws) : Silent (vs ++ ws) := by
  intro v hv
  rcases List.mem_append.mp hv with hv | hv
  · exact h v hv
  · exact h' v hv

theorem flatMap {l : List α} {f : α → List Violation} (h : ∀ a ∈ l, Silent (f a)) :
    Silent (l.flatMap f) := by
  intro v hv
  obtain ⟨a, ha, hv⟩ := List.mem_flatMap.mp hv
  exact h a ha v hv

theorem single {v : Violation} (h : ∀ what name, v.fault ≠ .duplicateName what name) :
    Silent [v] := by
  intro w hw
  rw [List.mem_singleton.mp hw]
  exact h

theorem ite {c : Prop} [Decidable c] (h : Silent vs) (h' : Silent ws) :
    Silent (if c then vs else ws) := by
  by_cases hc : c
  · rwa [if_pos hc]
  · rwa [if_neg hc]

theorem blank {path what value : String} : Silent (blankViolation path what value) :=
  .ite (.single (by simp)) .nil

end Silent

theorem Field.silent (f : Field) (path : String) : Silent (f.violations path) := by
  have hcontent : Silent (f.contentViolations path) := by
    unfold contentViolations
    split
    · split
      · exact .single (by simp)
      · exact .ite (.single (by simp)) .nil
    · exact .ite .nil (.single (by simp))
    · exact .nil
  exact (Silent.blank.append hcontent).append (.ite (.single (by simp)) .nil)

theorem Model.silent_form (m : Model) (form : Form) : Silent (m.formViolations form) := by
  unfold formViolations
  refine Silent.blank.append (.flatMap fun n _ => ?_)
  split
  · exact .single (by simp)
  · exact .ite (.single (by simp)) .nil

theorem Step.silent (s : Step) (path : String) : Silent (s.violations path) := by
  unfold violations
  refine Silent.blank.append ?_
  split
  · exact .ite (.single (by simp)) .nil
  · exact .nil

theorem Schedule.silent_steps (path : String) (seen : List UInt32) (i : Nat)
    (steps : List ScheduleStep) : Silent (stepViolations path seen i steps) := by
  induction steps generalizing seen i with
  | nil => exact .nil
  | cons t rest ih =>
    have horder {here : String} :
        Silent (if seen.contains t.order then [⟨here, .duplicateOrder t.order⟩] else []) :=
      .ite (.single (by simp)) .nil
    exact ((Silent.blank.append .blank).append horder).append (ih _ _)

theorem Schedule.silent (c : Schedule) : Silent c.violations := by
  have hinterval : Silent c.intervalViolations := by
    unfold intervalViolations
    split
    · exact .single (by simp)
    · exact .ite (.single (by simp)) .nil
    · exact .single (by simp)
    · exact .nil
  have hturns : Silent (if c.steps.isEmpty then [⟨c.path, .noTurns⟩] else []) :=
    .ite (.single (by simp)) .nil
  exact ((Silent.blank.append hinterval).append hturns).append (silent_steps _ _ _ _)

/-- A model reports the names its fields repeat, and no other repeated name. -/
theorem Model.count_duplicates (m : Model) (path what name : String) :
    m.violations.count ⟨path, .duplicateName what name⟩ =
      if NameList.repeats path what name ⟨m.path, "field", m.fieldNames⟩ then 1 else 0 := by
  have hfields : Silent (m.fields.flatMap fun f => f.violations (m.path ++ "." ++ f.name)) :=
    .flatMap fun f _ => f.silent _
  have hdisplay : Silent (((m.displayFields.getD []).filter (!m.hasField ·)).map
      fun n => ⟨m.path, .unknownDisplayField n m.fieldNames⟩) := by
    intro v hv
    obtain ⟨n, -, rfl⟩ := List.mem_map.mp hv
    simp
  have hforms : Silent (m.forms.flatMap m.formViolations) := .flatMap fun form _ => m.silent_form form
  unfold violations
  rw [List.count_append, List.count_append, List.count_append, List.count_append,
    Silent.blank.count, count_duplicateViolations, hfields.count, hdisplay.count, hforms.count]
  omega

/-- An action reports the names its steps repeat, and no other repeated name. -/
theorem Action.count_duplicates (a : Action) (path what name : String) :
    a.violations.count ⟨path, .duplicateName what name⟩ =
      if NameList.repeats path what name ⟨a.path, "step", a.steps.map (·.name)⟩ then 1 else 0 := by
  have hmarker : Silent (if isMarker a.emoji then [] else [⟨a.path, .wideMarker a.emoji⟩]) :=
    .ite .nil (.single (by simp))
  unfold violations
  rw [List.count_append, List.count_append, List.count_append, List.count_append,
    List.count_append, Silent.blank.count, Silent.blank.count, Silent.blank.count,
    hmarker.count, count_duplicateViolations]
  refine (congrArg (_ + ·) (Silent.count (.flatMap fun p _ => p.1.silent _) path what name)).trans ?_
  omega

theorem count_flatMap_eq_countP [BEq β] {l : List α} {f : α → List β} {p : α → Bool} {b : β}
    (h : ∀ a, (f a).count b = if p a then 1 else 0) : (l.flatMap f).count b = l.countP p := by
  induction l with
  | nil => rfl
  | cons a rest ih =>
    rw [List.flatMap_cons, List.count_append, h, ih, List.countP_cons]
    omega

/-- A repeated name is reported once for each list of names that repeats it. -/
theorem Graph.count_duplicates (g : Graph) (path what name : String) :
    g.violations.count ⟨path, .duplicateName what name⟩ =
      g.nameLists.countP (NameList.repeats path what name) := by
  have hroot : Silent (g.rootModel.toList.flatMap (blankViolation "graph" "root model name")) :=
    .flatMap fun n _ => .blank
  have hschedules : Silent (g.schedules.flatMap Schedule.violations) := .flatMap fun c _ => c.silent
  unfold violations nameLists
  rw [List.count_append, List.count_append, List.count_append, List.count_append,
    List.count_append, List.count_append, count_duplicateViolations, count_duplicateViolations,
    count_duplicateViolations, hroot.count, hschedules.count,
    count_flatMap_eq_countP fun m => m.count_duplicates path what name,
    count_flatMap_eq_countP fun a => a.count_duplicates path what name,
    List.countP_append, List.countP_append, List.countP_map, List.countP_map,
    List.countP_cons, List.countP_cons, List.countP_cons, List.countP_nil]
  simp only [Function.comp_def]
  omega

/-- The check accepts exactly the proper graphs.  What it says about a graph that it rejects repeats no
name of its own: one report for each list of names and each name that occurs in it more than once. -/
theorem Graph.checked_iff_proper (g : Graph) :
    (checked g.violations g = .ok g ↔ g.Proper) ∧
    (¬g.Proper → ∃ vs, checked g.violations g = .error vs ∧ vs ≠ [] ∧
      ∀ path what name, vs.count ⟨path, .duplicateName what name⟩ =
        g.nameLists.countP (NameList.repeats path what name)) := by
  have hproper : g.violations = [] ↔ g.Proper := Graph.violations_eq_nil.trans Graph.shaped_iff
  unfold checked
  refine ⟨?_, fun hnot => ?_⟩
  · rw [← hproper]
    cases g.violations with
    | nil => simp
    | cons v vs => simp
  · have hne : g.violations ≠ [] := mt hproper.mp hnot
    rw [if_neg (mt List.isEmpty_iff.mp hne)]
    exact ⟨g.violations, rfl, hne, g.count_duplicates⟩

/-- Three models of one name are one report. -/
theorem Graph.checked_iff_proper_contacts :
    let g : Graph := { models := [{ name := "Contact" }, { name := "Contact" }, { name := "Contact" }] }
    ¬g.Proper ∧ ∃ vs, checked g.violations g = .error vs ∧
      vs.count ⟨"graph", .duplicateName "model" "Contact"⟩ = 1 := by
  intro g
  have hnot : ¬g.Proper := fun h => absurd h.modelNames (by decide)
  obtain ⟨vs, hvs, -, hcount⟩ := (Graph.checked_iff_proper g).2 hnot
  refine ⟨hnot, vs, hvs, ?_⟩
  rw [hcount]
  decide

end AgentSpec
