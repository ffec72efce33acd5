import AgentSpec.Graph.Shape
import Mathlib.Data.List.Nodup
import Mathlib.Data.List.Count

/-!
Well-formed entities: what it means that a check of shapes finds nothing.

The conditions speak of members of lists and of distinct names only, so they do not depend on the
order in which entities are listed.
-/
namespace AgentSpec

theorem blankViolation_eq_nil {path what value : String} :
    blankViolation path what value = [] ↔ ¬Text.isBlank value := by
  unfold blankViolation
  by_cases h : Text.isBlank value <;> simp [h]

/-- Nothing is found twice exactly if the list repeats neither itself nor what was seen. -/
theorem secondOccurrences_eq_nil [BEq α] [LawfulBEq α] {seen names : List α} (hs : seen.Nodup) :
    secondOccurrences seen names = [] ↔ names.Nodup ∧ ∀ n ∈ names, n ∉ seen := by
  induction names generalizing seen with
  | nil => simp [secondOccurrences]
  | cons n rest ih =>
    unfold secondOccurrences
    by_cases hn : n ∈ seen
    · rw [if_pos (List.count_eq_one_of_mem hs hn)]
      constructor
      · intro h
        cases h
      · intro h
        exact absurd hn (h.2 n List.mem_cons_self)
    · have hcount : ¬seen.count n = 1 := by
        rw [List.count_eq_zero_of_not_mem hn]
        omega
      rw [if_neg hcount, ih (List.nodup_cons.mpr ⟨hn, hs⟩), List.nodup_cons]
      constructor
      · rintro ⟨hrest, hseen⟩
        refine ⟨⟨fun hmem => hseen n hmem List.mem_cons_self, hrest⟩, ?_⟩
        intro m hm
        rcases List.mem_cons.mp hm with rfl | hm
        · exact hn
        · exact fun h => hseen m hm (List.mem_cons_of_mem _ h)
      · rintro ⟨⟨hnot, hrest⟩, hseen⟩
        refine ⟨hrest, fun m hm h => ?_⟩
        rcases List.mem_cons.mp h with rfl | h
        · exact hnot hm
        · exact hseen m (List.mem_cons_of_mem _ hm) h

theorem duplicateViolations_eq_nil {path what : String} {names : List String} :
    duplicateViolations path what names = [] ↔ names.Nodup := by
  rw [duplicateViolations, List.map_eq_nil_iff, secondOccurrences_eq_nil List.nodup_nil]
  simp

/-! ## Models -/

/-- A field that has a name and carries what its type asks for.  What a violation is called depends
on the path, whether there is one does not. -/
def Field.WellFormed (f : Field) : Prop := ∀ path, f.violations path = []

theorem Field.contentViolations_faults (f : Field) (path other : String) :
    (f.contentViolations path).map (·.fault) = (f.contentViolations other).map (·.fault) := by
  unfold contentViolations
  cases f.type with
  | enum =>
    cases f.enumValues.getD [] with
    | nil => rfl
    | cons v rest => by_cases hb : (v :: rest).any Text.isBlank <;> simp [hb]
  | reference => by_cases hr : f.reference.any (!Text.isBlank ·.model) <;> simp [hr]
  | text => rfl
  | number => rfl
  | boolean => rfl
  | date => rfl
  | imageUrl => rfl
  | oauth => rfl

theorem Field.violations_eq_nil {f : Field} {path : String} :
    f.violations path = [] ↔ f.WellFormed := by
  refine ⟨fun h other => ?_, fun h => h path⟩
  unfold violations at h ⊢
  rw [List.append_eq_nil_iff, List.append_eq_nil_iff] at h ⊢
  obtain ⟨⟨hname, hcontent⟩, hstray⟩ := h
  refine ⟨⟨?_, ?_⟩, ?_⟩
  · rw [blankViolation_eq_nil] at hname ⊢
    exact hname
  · rw [← List.map_eq_nil_iff (f := Violation.fault)] at hcontent ⊢
    rw [← hcontent]
    exact f.contentViolations_faults other path
  · by_cases hs : (f.reference.isSome && f.type != .reference) = true
    · rw [if_pos hs] at hstray
      cases hstray
    · rw [if_neg hs]

/-- A form asks for fields that are there and that users may fill in. -/
structure Form.Fits (form : Form) (m : Model) : Prop where
  name : ¬Text.isBlank form.name
  fields : ∀ n ∈ form.fields, ∃ f, m.field? n = some f ∧ ¬(f.derived ∧ form.kind = .new)

theorem Model.formViolations_eq_nil {m : Model} {form : Form} :
    m.formViolations form = [] ↔ form.Fits m := by
  unfold formViolations
  rw [List.append_eq_nil_iff, List.flatMap_eq_nil_iff, blankViolation_eq_nil]
  constructor
  · rintro ⟨hname, hfields⟩
    refine ⟨hname, fun n hn => ?_⟩
    have hfield := hfields n hn
    cases hf : m.field? n with
    | none => simp [hf] at hfield
    | some f => exact ⟨f, rfl, by simpa [hf] using hfield⟩
  · rintro ⟨hname, hfields⟩
    refine ⟨hname, fun n hn => ?_⟩
    obtain ⟨f, hf, hnew⟩ := hfields n hn
    simpa [hf] using hnew

structure Model.WellFormed (m : Model) : Prop where
  name : ¬Text.isBlank m.name
  fieldNames : m.fieldNames.Nodup
  fields : ∀ f ∈ m.fields, f.WellFormed
  displayFields : ∀ n ∈ m.displayFields.getD [], m.hasField n
  forms : ∀ form ∈ m.forms, form.Fits m

theorem Model.violations_eq_nil {m : Model} : m.violations = [] ↔ m.WellFormed := by
  unfold violations
  simp only [List.append_eq_nil_iff, blankViolation_eq_nil, duplicateViolations_eq_nil,
    List.flatMap_eq_nil_iff, List.map_eq_nil_iff, List.filter_eq_nil_iff, Field.violations_eq_nil,
    formViolations_eq_nil]
  constructor
  · rintro ⟨⟨⟨⟨hname, hnames⟩, hfields⟩, hdisplay⟩, hforms⟩
    exact ⟨hname, hnames, hfields, fun n hn => by simpa using hdisplay n hn, hforms⟩
  · rintro ⟨hname, hnames, hfields, hdisplay, hforms⟩
    exact ⟨⟨⟨⟨hname, hnames⟩, hfields⟩, fun n hn => by simpa using hdisplay n hn⟩, hforms⟩

/-! ## Actions -/

def Step.WellFormed (s : Step) : Prop := ∀ path, s.violations path = []

theorem Step.violations_eq_nil {s : Step} {path : String} :
    s.violations path = [] ↔ s.WellFormed := by
  refine ⟨fun h other => ?_, fun h => h path⟩
  unfold violations at h ⊢
  rw [List.append_eq_nil_iff] at h ⊢
  obtain ⟨hname, htext⟩ := h
  refine ⟨?_, ?_⟩
  · rw [blankViolation_eq_nil] at hname ⊢
    exact hname
  · cases hi : s.config.instruction? with
    | none => rfl
    | some p =>
      obtain ⟨what, text⟩ := p
      simp only [hi] at htext ⊢
      by_cases hb : Text.isBlank text
      · rw [if_pos hb] at htext
        cases htext
      · rw [if_neg hb]

structure Action.WellFormed (a : Action) : Prop where
  name : ¬Text.isBlank a.name
  title : ¬Text.isBlank a.title
  targetModel : ¬Text.isBlank a.targetModel
  emoji : isMarker a.emoji
  stepNames : (a.steps.map (·.name)).Nodup
  steps : ∀ s ∈ a.steps, s.WellFormed

/-- Places in a list do not matter to what holds of all members. -/
theorem flatMap_zipIdx_eq_nil {as : List α} {f : α × Nat → List β} {p : α → Prop}
    (h : ∀ a i, f (a, i) = [] ↔ p a) (first : Nat) :
    (as.zipIdx first).flatMap f = [] ↔ ∀ a ∈ as, p a := by
  induction as generalizing first with
  | nil => simp
  | cons a rest ih =>
    rw [List.zipIdx_cons, List.flatMap_cons, List.append_eq_nil_iff, h, ih, List.forall_mem_cons]

theorem Action.violations_eq_nil {a : Action} : a.violations = [] ↔ a.WellFormed := by
  unfold violations
  rw [List.append_eq_nil_iff, List.append_eq_nil_iff, List.append_eq_nil_iff,
    List.append_eq_nil_iff, List.append_eq_nil_iff, blankViolation_eq_nil, blankViolation_eq_nil,
    blankViolation_eq_nil, duplicateViolations_eq_nil,
    flatMap_zipIdx_eq_nil (p := Step.WellFormed) fun s i => Step.violations_eq_nil]
  have hmarker : (if isMarker a.emoji then [] else [⟨a.path, .wideMarker a.emoji⟩]) =
      ([] : List Violation) ↔ isMarker a.emoji := by
    by_cases h : isMarker a.emoji <;> simp [h]
  rw [hmarker]
  constructor
  · rintro ⟨⟨⟨⟨⟨hname, htitle⟩, htarget⟩, hemoji⟩, hnames⟩, hsteps⟩
    exact ⟨hname, htitle, htarget, hemoji, hnames, hsteps⟩
  · rintro ⟨hname, htitle, htarget, hemoji, hnames, hsteps⟩
    exact ⟨⟨⟨⟨⟨hname, htitle⟩, htarget⟩, hemoji⟩, hnames⟩, hsteps⟩

/-! ## Schedules -/

structure ScheduleStep.Named (t : ScheduleStep) : Prop where
  model : ¬Text.isBlank t.modelName
  action : ¬Text.isBlank t.actionName

structure Schedule.WellFormed (c : Schedule) : Prop where
  name : ¬Text.isBlank c.name
  interval : c.intervalViolations = []
  nonempty : c.steps ≠ []
  orders : (c.steps.map (·.order)).Nodup
  steps : ∀ t ∈ c.steps, t.Named

theorem Schedule.stepViolations_eq_nil {path : String} {seen : List UInt32} {i : Nat}
    {steps : List ScheduleStep} :
    stepViolations path seen i steps = [] ↔
      (∀ t ∈ steps, t.Named) ∧ (steps.map (·.order)).Nodup ∧ ∀ t ∈ steps, t.order ∉ seen := by
  induction steps generalizing seen i with
  | nil => simp [stepViolations]
  | cons t rest ih =>
    have horder (here : String) : (if seen.contains t.order then [⟨here, .duplicateOrder t.order⟩]
        else []) = ([] : List Violation) ↔ t.order ∉ seen := by
      by_cases h : t.order ∈ seen <;> simp [h]
    unfold stepViolations
    rw [List.append_eq_nil_iff, List.append_eq_nil_iff, List.append_eq_nil_iff,
      blankViolation_eq_nil, blankViolation_eq_nil, horder, ih, List.forall_mem_cons,
      List.forall_mem_cons, List.map_cons, List.nodup_cons]
    constructor
    · rintro ⟨⟨⟨hm, ha⟩, hnot⟩, hnamed, hnodup, hseen⟩
      refine ⟨⟨⟨hm, ha⟩, hnamed⟩, ⟨?_, hnodup⟩, hnot, ?_⟩
      · intro h
        obtain ⟨u, hu, heq⟩ := List.mem_map.mp h
        exact hseen u hu (heq ▸ List.mem_cons_self)
      · exact fun u hu h => hseen u hu (List.mem_cons_of_mem _ h)
    · rintro ⟨⟨⟨hm, ha⟩, hnamed⟩, ⟨hnotin, hnodup⟩, hnot, hseen⟩
      refine ⟨⟨⟨hm, ha⟩, hnot⟩, hnamed, hnodup, fun u hu h => ?_⟩
      rcases List.mem_cons.mp h with h | h
      · exact hnotin (h ▸ List.mem_map_of_mem hu)
      · exact hseen u hu h

theorem Schedule.violations_eq_nil {c : Schedule} : c.violations = [] ↔ c.WellFormed := by
  unfold violations
  rw [List.append_eq_nil_iff, List.append_eq_nil_iff, List.append_eq_nil_iff,
    blankViolation_eq_nil, stepViolations_eq_nil]
  have hturns : (if c.steps.isEmpty then [⟨c.path, .noTurns⟩] else []) =
      ([] : List Violation) ↔ c.steps ≠ [] := by
    cases c.steps <;> simp
  rw [hturns]
  constructor
  · rintro ⟨⟨⟨hname, hint⟩, hne⟩, hnamed, hnodup, -⟩
    exact ⟨hname, hint, hne, hnodup, hnamed⟩
  · rintro ⟨hname, hint, hne, hnodup, hnamed⟩
    exact ⟨⟨⟨hname, hint⟩, hne⟩, hnamed, hnodup, fun _ _ => List.not_mem_nil⟩

/-! ## Graphs -/

/-- Each entity is well-formed, and the names of one kind are distinct. -/
structure Graph.Shaped (g : Graph) : Prop where
  modelNames : (g.models.map (·.name)).Nodup
  actionNames : (g.actions.map (·.name)).Nodup
  scheduleNames : (g.schedules.map (·.name)).Nodup
  root : ∀ n, g.rootModel = some n → ¬Text.isBlank n
  models : ∀ m ∈ g.models, m.WellFormed
  actions : ∀ a ∈ g.actions, a.WellFormed
  schedules : ∀ c ∈ g.schedules, c.WellFormed

theorem Graph.violations_eq_nil {g : Graph} : g.violations = [] ↔ g.Shaped := by
  unfold violations
  have hroot : g.rootModel.toList.flatMap (blankViolation "graph" "root model name") = [] ↔
      ∀ n, g.rootModel = some n → ¬Text.isBlank n := by
    cases g.rootModel with
    | none => simp
    | some n => simp [blankViolation_eq_nil]
  simp only [List.append_eq_nil_iff, duplicateViolations_eq_nil, hroot, List.flatMap_eq_nil_iff,
    Model.violations_eq_nil, Action.violations_eq_nil, Schedule.violations_eq_nil]
  constructor
  · rintro ⟨⟨⟨⟨⟨⟨hm, ha⟩, hs⟩, hr⟩, hms⟩, has⟩, hss⟩
    exact ⟨hm, ha, hs, hr, hms, has, hss⟩
  · rintro ⟨hm, ha, hs, hr, hms, has, hss⟩
    exact ⟨⟨⟨⟨⟨⟨hm, ha⟩, hs⟩, hr⟩, hms⟩, has⟩, hss⟩

end AgentSpec
