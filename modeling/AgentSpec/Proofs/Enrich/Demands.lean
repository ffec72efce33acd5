import AgentSpec.Proofs.Enrich.Draft
import AgentSpec.Proofs.Enrich.Scope
import AgentSpec.Proofs.Lists

/-!
The look-up of all names finds what is wrong, each fault once, and nothing else.

A graph makes demands: names of its own must be free, and names that it uses must resolve.  Whether a
demand is met is said of the stored and the new entities, with no reference to how a name is looked
up.  The look-up itself goes three ways: through the sorted names of all models, to the first new
model and then the first stored one, and to the last action of all.  If names are distinct on both
sides all three find the same entity (`find?_append_iff`, `target?_iff`).  Some faults hide others: a
field is not looked for in a model that does not exist, nor the target of an action that does not.
These demands are met then for lack of an entity, so each fault stands for one demand.  Main
statement: `Scope.issues_eq_unmet`.
-/
namespace AgentSpec

/-! ## Names with an entity -/

/-- The entity has the name, and it is new or nothing new has the name. -/
def Foremost (name : α → String) (new : List α) (n : String) (a : α) : Prop :=
  name a = n ∧ (a ∈ new ∨ ∀ b ∈ new, name b ≠ n)

instance [DecidableEq α] (name : α → String) (new : List α) (n : String) (a : α) :
    Decidable (Foremost name new n a) :=
  inferInstanceAs (Decidable (_ ∧ _))

section Names

variable {name : α → String} {stored new : List α} {n : String} {a : α}

/-- Among distinct names on both sides, what is found in the new ones first is foremost. -/
theorem find?_append_iff (hstored : (stored.map name).Nodup) (hnew : (new.map name).Nodup) :
    (new ++ stored).find? (name · == n) = some a ↔ a ∈ stored ++ new ∧ Foremost name new n a := by
  rw [List.find?_append, Option.or_eq_some_iff, find?_iff_mem hnew, find?_iff_mem hstored,
    List.mem_append, Foremost]
  have hnone : new.find? (name · == n) = none ↔ ∀ b ∈ new, name b ≠ n := by
    simp [List.find?_eq_none]
  rw [hnone]
  constructor
  · rintro (⟨ha, hname⟩ | ⟨hfree, ha, hname⟩)
    · exact ⟨Or.inr ha, hname, Or.inl ha⟩
    · exact ⟨Or.inl ha, hname, Or.inr hfree⟩
  · rintro ⟨ha, hname, hin | hfree⟩
    · exact Or.inl ⟨hin, hname⟩
    · exact Or.inr ⟨hfree, ha.resolve_right fun h => hfree a h hname, hname⟩

end Names

namespace Scope

variable {s : Scope} {n : String}

theorem model?_eq_find? (s : Scope) (n : String) :
    s.model? n = (s.delta.models ++ s.existing.models).find? (·.name == n) := by
  rw [List.find?_append]
  exact Option.orElse_eq_or

theorem model?_iff (hstored : (s.existing.models.map (·.name)).Nodup)
    (hnew : (s.delta.models.map (·.name)).Nodup) {m : Model} : s.model? n = some m ↔
      m ∈ s.existing.models ++ s.delta.models ∧ Foremost (·.name) s.delta.models n m := by
  rw [model?_eq_find?]
  exact find?_append_iff hstored hnew

theorem reaches_of_mem {m : Model} (hm : m ∈ s.existing.models ++ s.delta.models)
    (hname : m.name = n) : s.Reaches n :=
  (List.mem_append.mp hm).imp (fun h => ⟨m, h, hname⟩) fun h => ⟨m, h, hname⟩

/-- Every name in reach has a model. -/
theorem exists_model?_of_reaches (h : s.Reaches n) : ∃ m, s.model? n = some m := by
  have hin : ∃ m ∈ s.delta.models ++ s.existing.models, m.name = n := by
    rcases h with ⟨m, hm, hname⟩ | ⟨m, hm, hname⟩
    · exact ⟨m, List.mem_append_right _ hm, hname⟩
    · exact ⟨m, List.mem_append_left _ hm, hname⟩
  rw [model?_eq_find?, ← Option.isSome_iff_exists, List.find?_isSome]
  simpa using hin

/-- Of all actions the last one of a name is the foremost one. -/
theorem target?_iff (hstored : (s.existing.actions.map (·.name)).Nodup)
    (hnew : (s.delta.actions.map (·.name)).Nodup) {target : String} : s.target? n = some target ↔
      ∃ a ∈ s.existing.actions ++ s.delta.actions,
        Foremost (·.name) s.delta.actions n a ∧ a.targetModel = target := by
  have hstored' : (s.existing.actions.reverse.map (·.name)).Nodup := by
    rw [List.map_reverse]
    exact List.nodup_reverse.mpr hstored
  have hnew' : (s.delta.actions.reverse.map (·.name)).Nodup := by
    rw [List.map_reverse]
    exact List.nodup_reverse.mpr hnew
  rw [target?, Option.map_eq_some_iff, List.reverse_append]
  refine exists_congr fun a => ?_
  rw [find?_append_iff hstored' hnew', ← and_assoc]
  simp [Foremost]

end Scope

/-! ## Demands -/

/-- What a new graph demands of the names in reach. -/
inductive Demand
  | freeModel (m : Model)
  | freeAction (a : Action)
  | freeSchedule (c : Schedule)
  | root (name : String)
  | referenceModel (m : Model) (f : Field) (r : FieldReference)
  | referenceField (m : Model) (f : Field) (r : FieldReference)
  | displayField (m : Model) (name : String)
  | target (a : Action)
  | turnModel (c : Schedule) (place : Nat) (t : ScheduleStep)
  | turnAction (c : Schedule) (place : Nat) (t : ScheduleStep)
  | turnTarget (c : Schedule) (place : Nat) (t : ScheduleStep)

/-- Every reference makes two demands, every display field one. -/
def Model.demands (m : Model) : List Demand :=
  (m.fields.flatMap fun f => f.reference.toList.flatMap fun r =>
    [.referenceModel m f r, .referenceField m f r]) ++
  (m.displayFields.getD []).map (.displayField m)

/-- Every step makes three demands. -/
def Schedule.demands (c : Schedule) : List Demand :=
  c.steps.zipIdx.flatMap fun (t, i) => [.turnModel c i t, .turnAction c i t, .turnTarget c i t]

def Graph.demands (g : Graph) : List Demand :=
  g.models.map .freeModel ++ g.actions.map .freeAction ++ g.schedules.map .freeSchedule ++
  g.rootModel.toList.map .root ++ g.models.flatMap Model.demands ++ g.actions.map .target ++
  g.schedules.flatMap Schedule.demands

instance (s : Scope) (n : String) : Decidable (s.Reaches n) :=
  inferInstanceAs (Decidable (_ ∨ _))

namespace Demand

variable {s : Scope}

/-- The names in reach meet the demand. -/
def Met (s : Scope) : Demand → Prop
  | freeModel m => ∀ old ∈ s.existing.models, old.name ≠ m.name
  | freeAction a => ∀ old ∈ s.existing.actions, old.name ≠ a.name
  | freeSchedule c => ∀ old ∈ s.existing.schedules, old.name ≠ c.name
  | root name => s.Reaches name
  | referenceModel _ _ r => s.Reaches r.model
  | referenceField _ _ r =>
    ∀ t ∈ s.existing.models ++ s.delta.models, Foremost (·.name) s.delta.models r.model t →
      r.field = idField ∨ r.field ∈ t.fieldNames ∨
        r.field ∈ (s.additions.fieldsOf r.model).map (·.name)
  | displayField m name => name ∈ m.fieldNames
  | target a => s.Reaches a.targetModel
  | turnModel _ _ t => s.Reaches t.modelName
  | turnAction _ _ t => ∃ a ∈ s.existing.actions ++ s.delta.actions, a.name = t.actionName
  | turnTarget _ _ t => s.Reaches t.modelName → ∀ a ∈ s.existing.actions ++ s.delta.actions,
      Foremost (·.name) s.delta.actions t.actionName a → a.targetModel = t.modelName

instance (s : Scope) : DecidablePred (Met s)
  | freeModel m => inferInstanceAs (Decidable (∀ old ∈ s.existing.models, old.name ≠ m.name))
  | freeAction a => inferInstanceAs (Decidable (∀ old ∈ s.existing.actions, old.name ≠ a.name))
  | freeSchedule c => inferInstanceAs (Decidable (∀ old ∈ s.existing.schedules, old.name ≠ c.name))
  | root name => inferInstanceAs (Decidable (s.Reaches name))
  | referenceModel _ _ r => inferInstanceAs (Decidable (s.Reaches r.model))
  | referenceField _ _ _ =>
    inferInstanceAs (Decidable (∀ t ∈ s.existing.models ++ s.delta.models, _ → _))
  | displayField m name => inferInstanceAs (Decidable (name ∈ m.fieldNames))
  | target a => inferInstanceAs (Decidable (s.Reaches a.targetModel))
  | turnModel _ _ t => inferInstanceAs (Decidable (s.Reaches t.modelName))
  | turnAction _ _ _ =>
    inferInstanceAs (Decidable (∃ a ∈ s.existing.actions ++ s.delta.actions, _))
  | turnTarget _ _ _ =>
    inferInstanceAs (Decidable (s.Reaches _ → ∀ a ∈ s.existing.actions ++ s.delta.actions, _ → _))

/-- What is said of a demand that is not met. -/
def issue (s : Scope) : Demand → Issue
  | freeModel m => ⟨m.path, .nameTaken .model⟩
  | freeAction a => ⟨a.path, .nameTaken .action⟩
  | freeSchedule c => ⟨c.path, .nameTaken .schedule⟩
  | root name => s.unresolvedModel "root model" name
  | referenceModel m f r => s.unresolvedModel (m.path ++ "." ++ f.name) r.model
  | referenceField m f r =>
    ⟨m.path ++ "." ++ f.name, .unresolved "field" r.field (idField :: s.fieldNames r.model)⟩
  | displayField m name =>
    ⟨m.path ++ ".displayFields", .unresolved "field" name (Text.sorted m.fieldNames)⟩
  | target a => s.unresolvedModel a.path a.targetModel
  | turnModel c i t => s.unresolvedModel (c.path ++ s!".steps[{i}]") t.modelName
  | turnAction c i t =>
    ⟨c.path ++ s!".steps[{i}]", .unresolved "action" t.actionName s.actionNames⟩
  -- an action without a target is not there at all, and then this demand is met
  | turnTarget c i t =>
    ⟨c.path ++ s!".steps[{i}]",
      .wrongTarget t.actionName ((s.target? t.actionName).getD "") t.modelName⟩

end Demand

namespace Scope

variable {s : Scope}

/-- What is said of the demands that are not met. -/
def faults (s : Scope) (ds : List Demand) : List Issue :=
  (ds.filter fun d => ¬d.Met s).map (·.issue s)

theorem faults_nil : s.faults [] = [] := rfl

theorem faults_append (ds ds' : List Demand) : s.faults (ds ++ ds') = s.faults ds ++ s.faults ds' := by
  rw [faults, List.filter_append, List.map_append]
  rfl

theorem faults_cons (d : Demand) (ds : List Demand) :
    s.faults (d :: ds) = (if d.Met s then [] else [d.issue s]) ++ s.faults ds := by
  by_cases h : d.Met s <;> simp [faults, h]

theorem faults_flatMap (f : α → List Demand) (as : List α) :
    s.faults (as.flatMap f) = as.flatMap fun a => s.faults (f a) := by
  induction as with
  | nil => rfl
  | cons a rest ih => rw [List.flatMap_cons, faults_append, ih, List.flatMap_cons]

theorem faults_map {f : α → Demand} {p : α → Bool} (h : ∀ a, p a = true ↔ ¬(f a).Met s)
    (as : List α) : s.faults (as.map f) = (as.filter p).map fun a => (f a).issue s := by
  induction as with
  | nil => rfl
  | cons a rest ih =>
    rw [List.map_cons, faults_cons, ih]
    by_cases hp : p a
    · rw [if_neg ((h a).mp hp), List.filter_cons_of_pos hp]
      rfl
    · rw [if_pos (not_not.mp fun hm => hp ((h a).mpr hm)), List.filter_cons_of_neg hp]
      rfl

theorem faults_ite {d : Demand} {p : Prop} [Decidable p] (h : d.Met s ↔ p) :
    s.faults [d] = if p then [] else [d.issue s] := by
  rw [faults_cons, faults_nil, List.append_nil]
  exact if_congr h rfl rfl

/-! ## Part by part -/

theorem collisions_eq : s.collisions = s.faults (s.delta.models.map .freeModel ++
    s.delta.actions.map .freeAction ++ s.delta.schedules.map .freeSchedule) := by
  rw [faults_append, faults_append,
    faults_map (p := fun m : Model => (s.existing.model? m.name).isSome)
      fun m => by simp [Demand.Met, Graph.model?],
    faults_map (p := fun a : Action => (s.existing.action? a.name).isSome)
      fun a => by simp [Demand.Met, Graph.action?],
    faults_map (p := fun c : Schedule => (s.existing.schedule? c.name).isSome)
      fun c => by simp [Demand.Met, Graph.schedule?]]
  rfl

theorem rootIssues_eq : s.rootIssues = s.faults (s.delta.rootModel.toList.map .root) := by
  unfold rootIssues
  cases s.delta.rootModel with
  | none => rfl
  | some root =>
    have hmet : (Demand.root root).Met s ↔ s.hasModel root := hasModel_iff.symm
    show (if s.hasModel root then [] else [_]) ++ [] = s.faults [.root root]
    rw [faults_ite hmet, List.append_nil]
    rfl

theorem actionIssues_eq (a : Action) : s.actionIssues a = s.faults [.target a] := by
  have hmet : (Demand.target a).Met s ↔ s.hasModel a.targetModel := hasModel_iff.symm
  rw [faults_ite hmet]
  rfl

section Models

variable (hstored : (s.existing.models.map (·.name)).Nodup)
  (hnew : (s.delta.models.map (·.name)).Nodup)
include hstored hnew

/-- In a model that is there a field is looked for among its own and those added to it. -/
theorem met_referenceField_iff {m : Model} {f : Field} {r : FieldReference}
    (hm : s.hasModel r.model) : (Demand.referenceField m f r).Met s ↔
      (r.field == idField || (s.fieldNames r.model).contains r.field) = true := by
  obtain ⟨t, ht⟩ := exists_model?_of_reaches (hasModel_iff.mp hm)
  have hfields : r.field ∈ s.fieldNames r.model ↔
      r.field ∈ t.fieldNames ∨ r.field ∈ (s.additions.fieldsOf r.model).map (·.name) := by
    rw [fieldNames, ht, Text.mem_sortedOnce, List.mem_append, Option.map_some, Option.getD_some]
  rw [Bool.or_eq_true, beq_iff_eq, List.contains_iff_mem, hfields]
  obtain ⟨hin, hforemost⟩ := (model?_iff hstored hnew).mp ht
  constructor
  · intro h
    exact h t hin hforemost
  · intro h u hu hu'
    have hsame : s.model? r.model = some u := (model?_iff hstored hnew).mpr ⟨hu, hu'⟩
    rw [ht] at hsame
    cases hsame
    exact h

theorem referenceIssues_eq (m : Model) (f : Field) (r : FieldReference) :
    s.referenceIssues (m.path ++ "." ++ f.name) r =
      s.faults [.referenceModel m f r, .referenceField m f r] := by
  have hmet : (Demand.referenceModel m f r).Met s ↔ s.hasModel r.model := hasModel_iff.symm
  rw [referenceIssues, faults_cons]
  by_cases hm : s.hasModel r.model
  · rw [if_pos (hmet.mpr hm), faults_ite (met_referenceField_iff hstored hnew hm), hm]
    rfl
  · -- no model has the name, so there is none that lacks the field
    have hnone : (Demand.referenceField m f r).Met s := fun t ht hforemost =>
      absurd (hasModel_iff.mpr (reaches_of_mem ht hforemost.1)) hm
    rw [if_neg (hm ∘ hmet.mp), faults_cons, if_pos hnone]
    simp [hm, faults_nil, Demand.issue]

theorem modelIssues_eq (m : Model) : s.modelIssues m = s.faults m.demands := by
  have hshown : s.faults ((m.displayFields.getD []).map (.displayField m)) =
      ((m.displayFields.getD []).filter (!m.hasField ·)).map fun name =>
        (Demand.displayField m name).issue s :=
    faults_map (fun name => by simp [Demand.Met, ← Model.hasField_iff]) _
  rw [Model.demands, faults_append, faults_flatMap, hshown, modelIssues]
  congr 1
  refine List.flatMap_congr fun f _ => ?_
  rw [faults_flatMap]
  exact List.flatMap_congr fun r _ => referenceIssues_eq hstored hnew m f r

end Models

section Turns

variable (hstored : (s.existing.actions.map (·.name)).Nodup)
  (hnew : (s.delta.actions.map (·.name)).Nodup)
include hstored hnew

/-- The step of an action that is there and has this target. -/
theorem met_turnTarget_iff {c : Schedule} {i : Nat} {t : ScheduleStep} {target : String}
    (htarget : s.target? t.actionName = some target) :
    (Demand.turnTarget c i t).Met s ↔ ¬(s.hasModel t.modelName && target != t.modelName) = true := by
  obtain ⟨a, hin, hforemost, rfl⟩ := (target?_iff hstored hnew).mp htarget
  have hsame : ∀ b ∈ s.existing.actions ++ s.delta.actions,
      Foremost (·.name) s.delta.actions t.actionName b → b.targetModel = a.targetModel := by
    intro b hb hb'
    have hother := (target?_iff hstored hnew).mpr ⟨b, hb, hb', rfl⟩
    rw [htarget] at hother
    exact (Option.some.inj hother).symm
  rw [Bool.and_eq_true, bne_iff_ne, not_and, not_not, hasModel_iff]
  constructor
  · intro h hm
    exact h hm a hin hforemost
  · intro h hm b hb hb'
    exact (hsame b hb hb').trans (h hm)

theorem turnIssues_eq (c : Schedule) (i : Nat) (t : ScheduleStep) :
    s.turnIssues (c.path ++ s!".steps[{i}]") t =
      s.faults [.turnModel c i t, .turnAction c i t, .turnTarget c i t] := by
  have hmodel : (Demand.turnModel c i t).Met s ↔ s.hasModel t.modelName := hasModel_iff.symm
  rw [turnIssues, faults_cons, faults_cons, if_congr hmodel rfl rfl]
  congr 1
  cases htarget : s.target? t.actionName with
  | none =>
    have hnone : ∀ a ∈ s.existing.actions ++ s.delta.actions, a.name ≠ t.actionName := by
      simpa [target?, or_imp, forall_and, and_comm] using htarget
    have haction : ¬(Demand.turnAction c i t).Met s := fun ⟨a, ha, hname⟩ => hnone a ha hname
    -- no action has the name, so there is none that works on another model
    have hmet : (Demand.turnTarget c i t).Met s := fun _ a ha hforemost =>
      absurd hforemost.1 (hnone a ha)
    rw [if_neg haction, faults_cons, if_pos hmet]
    rfl
  | some target =>
    obtain ⟨a, ha, hforemost, -⟩ := (target?_iff hstored hnew).mp htarget
    have haction : (Demand.turnAction c i t).Met s := ⟨a, ha, hforemost.1⟩
    have hmet := met_turnTarget_iff hstored hnew (c := c) (i := i) htarget
    rw [if_pos haction, faults_ite hmet, ite_not, Demand.issue, htarget]
    rfl

theorem scheduleIssues_eq (c : Schedule) : s.scheduleIssues c = s.faults c.demands := by
  rw [Schedule.demands, faults_flatMap, scheduleIssues]
  exact List.flatMap_congr fun p _ => turnIssues_eq hstored hnew c p.2 p.1

end Turns

/-- If models and actions have distinct names on both sides, the look-up has one issue for each demand
of the new graph that is not met, in the order of the demands, and no other.  It has none exactly if
all demands are met. -/
theorem issues_eq_unmet (hmodels : (s.existing.models.map (·.name)).Nodup)
    (hactions : (s.existing.actions.map (·.name)).Nodup)
    (hnewModels : (s.delta.models.map (·.name)).Nodup)
    (hnewActions : (s.delta.actions.map (·.name)).Nodup) :
    s.issues = (s.delta.demands.filter fun d => ¬d.Met s).map (·.issue s) ∧
      (s.issues = [] ↔ ∀ d ∈ s.delta.demands, d.Met s) := by
  have hissues : s.issues = s.faults s.delta.demands := by
    rw [issues, Graph.demands, faults_append, faults_append, faults_append, faults_append,
      ← collisions_eq, ← rootIssues_eq, faults_flatMap, faults_flatMap]
    congr 1
    · congr 1
      · congr 1
        exact List.flatMap_congr fun m _ => modelIssues_eq hmodels hnewModels m
      · rw [List.map_eq_flatMap, faults_flatMap]
        exact List.flatMap_congr fun a _ => actionIssues_eq a
    · exact List.flatMap_congr fun c _ => scheduleIssues_eq hactions hnewActions c
  refine ⟨hissues, ?_⟩
  rw [hissues, faults, List.map_eq_nil_iff, List.filter_eq_nil_iff]
  simp

section Crowded

/-- A new model hides the stored one, whose added field it has and whose title it has not. -/
def crowdedScope : Scope where
  existing :=
    { models := [{ name := "Lead", fields := [.textField "title" "Title"] }]
      actions := [{ name := "call", title := "Call", targetModel := "Lead" }] }
  delta :=
    { rootModel := some "Deal"
      models :=
        [{ name := "Lead", displayFields := some ["nick"] },
          { name := "Note"
            fields :=
              [{ name := "phone", title := "Phone", type := .reference
                 reference := some { model := "Lead", field := "phone" } },
                { name := "title", title := "Title", type := .reference
                  reference := some { model := "Lead", field := "title" } },
                .referenceField "owner" "Owner" "User" .one] }]
      actions := [{ name := "call", title := "Call", targetModel := "Note" }]
      schedules :=
        [{ name := "daily", mode := .recurring, intervalHours := some 24
           steps :=
             [{ modelName := "Lead", actionName := "call" },
               { modelName := "User", actionName := "ring" }] }] }
  additions := [("Lead", [.textField "phone" "Phone"])]

theorem issues_eq_unmet_crowdedScope :
    (crowdedScope.existing.models.map (·.name)).Nodup ∧
    (crowdedScope.existing.actions.map (·.name)).Nodup ∧
    (crowdedScope.delta.models.map (·.name)).Nodup ∧
    (crowdedScope.delta.actions.map (·.name)).Nodup ∧
    crowdedScope.issues =
      (crowdedScope.delta.demands.filter fun d => ¬d.Met crowdedScope).map (·.issue crowdedScope) ∧
    (crowdedScope.issues = [] ↔ ∀ d ∈ crowdedScope.delta.demands, d.Met crowdedScope) ∧
    crowdedScope.issues.map (·.path) =
      ["model 'Lead'", "action 'call'", "root model", "model 'Lead'.displayFields",
        "model 'Note'.title", "model 'Note'.owner", "schedule 'daily'.steps[0]",
        "schedule 'daily'.steps[1]", "schedule 'daily'.steps[1]"] := by
  have hmodels : (crowdedScope.existing.models.map (·.name)).Nodup := by decide
  have hactions : (crowdedScope.existing.actions.map (·.name)).Nodup := by decide
  have hnewModels : (crowdedScope.delta.models.map (·.name)).Nodup := by decide
  have hnewActions : (crowdedScope.delta.actions.map (·.name)).Nodup := by decide
  obtain ⟨hissues, hnone⟩ := issues_eq_unmet hmodels hactions hnewModels hnewActions
  exact ⟨hmodels, hactions, hnewModels, hnewActions, hissues, hnone, by decide +kernel⟩

end Crowded

end Scope
end AgentSpec
