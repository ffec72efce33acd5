import AgentSpec.Proofs.Enrich.Idempotent
import Mathlib.Data.List.Infix

/-!
The field that a completed model is shown by.

The rules are tried one after the other, each on all fields.  What this finds is a least field: in
the order of the first rule that a field satisfies, and of two alike the earlier one.  It is chosen
before anything is added to the model.  Later passes only put fields behind, under names of their
own, and leave display fields alone, so neither actions nor schedules nor permitted connections can
move the choice, whatever rank an added name would have.  Main statement:
`Graph.shown_by_own_field`.
-/
namespace AgentSpec

/-! ## Searches in order of rules -/

/-- No member has a lower rank, and those of the same rank stand behind. -/
def Leads (rank : α → Nat) (as : List α) (a : α) : Prop :=
  ∃ i : Nat, as[i]? = some a ∧
    ∀ (j : Nat) (b : α), as[j]? = some b → rank a < rank b ∨ (rank a = rank b ∧ i ≤ j)

theorem Leads.unique {rank : α → Nat} {as : List α} {a b : α} (ha : Leads rank as a)
    (hb : Leads rank as b) : a = b := by
  obtain ⟨i, hi, hfirst⟩ := ha
  obtain ⟨j, hj, hleast⟩ := hb
  have hij : i = j := by
    rcases hfirst j b hj with hlt | ⟨heq, hle⟩ <;>
      rcases hleast i a hi with hlt' | ⟨heq', hle'⟩ <;> omega
  rw [hij, hj] at hi
  exact (Option.some.inj hi).symm

/-- The first rule that some member satisfies picks the first such member, and without any the head
is taken: a member whose first rule comes earliest. -/
theorem leads_of_search {admits : ρ → α → Bool} {rules : List ρ} {as : List α} {a : α}
    (h : (rules.findSome? (fun r => as.find? (admits r)) <|> as.head?) = some a) :
    Leads (fun b => rules.findIdx (admits · b)) as a := by
  induction rules with
  | nil =>
    have hhead : as[0]? = some a := List.head?_eq_getElem? ▸ h
    exact ⟨0, hhead, fun j b _ => Or.inr ⟨rfl, Nat.zero_le j⟩⟩
  | cons r rest ih =>
    rw [List.findSome?_cons] at h
    cases hr : as.find? (admits r) with
    | some b =>
      rw [hr] at h
      cases h
      obtain ⟨hadmits, i, hi, hget, hbefore⟩ := List.find?_eq_some_iff_getElem.mp hr
      refine ⟨i, by rw [List.getElem?_eq_getElem hi, hget], fun j c hc => ?_⟩
      obtain ⟨hj, hgetc⟩ := List.getElem?_eq_some_iff.mp hc
      simp only [List.findIdx_cons, hadmits, cond_true]
      by_cases hadmits' : admits r c = true
      · refine Or.inr ⟨by rw [hadmits', cond_true], Nat.le_of_not_lt fun hlt => ?_⟩
        have hnot := hbefore j hlt
        rw [hgetc, hadmits'] at hnot
        cases hnot
      · rw [Bool.not_eq_true] at hadmits'
        rw [hadmits', cond_false]
        exact Or.inl (Nat.succ_pos _)
    | none =>
      rw [hr] at h
      have hnone := List.find?_eq_none.mp hr
      -- nobody satisfies the first rule, so every rank is one more than without it
      have hrank : ∀ b ∈ as, (r :: rest).findIdx (admits · b) = rest.findIdx (admits · b) + 1 := by
        intro b hb
        rw [List.findIdx_cons, Bool.eq_false_iff.mpr (hnone b hb), cond_false]
      obtain ⟨i, hi, hleast⟩ := ih h
      refine ⟨i, hi, fun j b hb => ?_⟩
      simp only [hrank a (List.mem_of_getElem? hi), hrank b (List.mem_of_getElem? hb)]
      rcases hleast j b hb with hlt | ⟨heq, hle⟩
      · exact Or.inl (Nat.succ_lt_succ hlt)
      · exact Or.inr ⟨congrArg Nat.succ heq, hle⟩

/-! ## Ranks of fields -/

theorem Text.hasFragment_iff {fragment cs : List Char} :
    Text.hasFragment fragment cs = true ↔ fragment <:+: cs := by
  induction cs with
  | nil => simp [Text.hasFragment]
  | cons c rest ih =>
    rw [Text.hasFragment, Bool.or_eq_true, ih, List.isPrefixOf_iff_prefix, List.infix_cons_iff]

namespace Field

/-- The fragment stands in the lower-cased name. -/
def Mentions (f : Field) (fragment : String) : Prop :=
  fragment.toList <:+: (Text.toLower f.name).toList

instance (f : Field) (fragment : String) : Decidable (f.Mentions fragment) :=
  inferInstanceAs (Decidable (_ <:+: _))

/-- How far down the list of rules a field is first accepted. -/
def displayRank (f : Field) : Nat :=
  if f.Mentions "name" ∨ f.Mentions "title" then 0
  else if f.type = .text ∧ ∃ part ∈ DisplayRule.descriptiveFragments, f.Mentions part then 1
  else if f.type = .text then 2
  else 3

theorem mentions_iff {f : Field} {fragment : String} :
    Text.contains (Text.toLower f.name) fragment = true ↔ f.Mentions fragment :=
  Text.hasFragment_iff

theorem isText_iff {f : Field} : f.isText = true ↔ f.type = .text := beq_iff_eq

theorem displayRank_eq (f : Field) :
    DisplayRule.all.findIdx (fun r => r.admits f) = f.displayRank := by
  have hname : DisplayRule.nameOrTitle.admits f = true ↔
      f.Mentions "name" ∨ f.Mentions "title" := by
    rw [← mentions_iff, ← mentions_iff]
    exact Bool.or_eq_true_iff
  have hdescriptive : DisplayRule.descriptiveText.admits f = true ↔
      f.type = .text ∧ ∃ part ∈ DisplayRule.descriptiveFragments, f.Mentions part := by
    simp only [← mentions_iff, ← isText_iff, ← List.any_eq_true]
    exact Bool.and_eq_true_iff
  have htext : DisplayRule.anyText.admits f = true ↔ f.type = .text := isText_iff
  simp only [DisplayRule.all, List.findIdx_cons, List.findIdx_nil, Bool.cond_eq_ite, hname,
    hdescriptive, htext]
  unfold displayRank
  split_ifs <;> rfl

end Field

namespace Model

/-- A field of the model that none of its fields goes before. -/
def LedBy (m : Model) (f : Field) : Prop := Leads Field.displayRank m.fields f

theorem ledBy_of_displayField {m : Model} {f : Field} (h : m.displayField? = some f) :
    m.LedBy f := by
  have hrank : Field.displayRank = fun f => DisplayRule.all.findIdx (fun r => r.admits f) :=
    funext fun f => f.displayRank_eq.symm
  rw [LedBy, hrank]
  exact leads_of_search h

/-- What stands for a model after more was added to it: what its author chose, and else the one
field that leads among its author's.  Nothing that was added has the name of it. -/
structure KeepsDisplay (m m' : Model) : Prop where
  chosen : m.displayFields.isSome → m'.displayFields = m.displayFields
  found : m.displayFields = none → m.fields ≠ [] → ∃ f added, m.LedBy f ∧
    m'.displayFields = some [f.name] ∧ m'.fields = m.fields ++ added ∧
    ∀ g ∈ added, g.name ≠ f.name

variable {m m' m'' : Model}

/-- Once display fields are filled in, extending the model does not touch them. -/
theorem keepsDisplay_of_extends (h : m.withDisplayField.ExtendsTo m') : m.KeepsDisplay m' := by
  refine ⟨fun hsome => ?_, fun hnone hfields => ?_⟩
  · obtain ⟨names, hnames⟩ := Option.isSome_iff_exists.mp hsome
    have hkept : m.withDisplayField.displayFields = m.displayFields := by
      show (m.displayFields <|> _) = _
      rw [hnames]
      rfl
    rw [h.displayFields (by rw [hkept]; exact hsome), hkept]
  · obtain ⟨f, hf⟩ := Option.isSome_iff_exists.mp (displayField?_isSome hfields)
    have hshown : m.withDisplayField.displayFields = some [f.name] := by
      show (m.displayFields <|> m.displayField?.map fun f => [f.name]) = _
      rw [hnone, hf]
      rfl
    have hkept : m'.displayFields = some [f.name] := by
      rw [h.displayFields (by rw [hshown]; rfl), hshown]
    obtain ⟨added, shown, hnew, rfl⟩ := h
    refine ⟨f, added, ledBy_of_displayField hf, hkept, rfl, fun g hg heq => ?_⟩
    exact hnew.fresh g hg (heq ▸ List.mem_map_of_mem (mem_of_displayField hf))

/-- Two completions of a model that had something to show agree. -/
theorem KeepsDisplay.eq (h : m.KeepsDisplay m') (h' : m.KeepsDisplay m'')
    (hown : m.displayFields.isSome ∨ m.fields ≠ []) : m''.displayFields = m'.displayFields := by
  cases hshown : m.displayFields with
  | some names =>
    have hsome : m.displayFields.isSome := by rw [hshown]; rfl
    rw [h'.chosen hsome, h.chosen hsome]
  | none =>
    have hfields : m.fields ≠ [] := by
      rw [hshown] at hown
      exact hown.resolve_left Bool.false_ne_true
    obtain ⟨f, -, hlead, hf, -⟩ := h.found hshown hfields
    obtain ⟨f', -, hlead', hf', -⟩ := h'.found hshown hfields
    rw [hf', hf, hlead.unique hlead']

end Model

/-! ## Completed graphs -/

namespace Graph

variable {g existing : Graph} {permitted : Option (List String)} {e : Enriched}

/-- From the first choice of display fields on, all passes extend the models. -/
theorem extends_displayed (g existing : Graph) (permitted : Option (List String)) :
    ∃ given new, (g.drafted existing permitted).graph.models = given ++ new ∧
      List.Forall₂ Model.ExtendsTo g.withDisplayFields.models given := by
  have hfold : List.Forall₂ Model.ExtendsTo g.withDisplayFields.models
      (({ graph := g.withDisplayFields } : Draft).foldOutputs existing).graph.models :=
    Draft.extends_foldOutputs (d := { graph := g.withDisplayFields })
  have hout : List.Forall₂ Model.ExtendsTo g.withDisplayFields.models
      (g.withOutputs existing).graph.models :=
    forall₂_extendsTo_trans hfold extends_withDisplayFields
  obtain ⟨given, new, hmodels, hgiven, -⟩ := Draft.extends_addCredentials
    (d := g.withOutputs existing) (services_sublist g permitted).subset
  exact ⟨given, new, hmodels, forall₂_extendsTo_trans hout hgiven⟩

theorem keepsDisplay_of_enrich (he : g.enrich existing permitted = .ok e) {m : Model}
    (hm : g.model? m.name = some m) :
    ∃ m', e.graph.model? m.name = some m' ∧ m.KeepsDisplay m' := by
  obtain ⟨given, new, hmodels, hgiven⟩ := extends_displayed g existing permitted
  have hdraft : g.drafted existing permitted = e.draft := (enrich_eq_ok he).1.symm
  have hshown : g.withDisplayFields.models.find? (·.name == m.name) = some m.withDisplayField := by
    have hfind : g.withDisplayFields.model? m.name = (g.model? m.name).map (·.withDisplayField) :=
      model?_withDisplayFields
    rw [hm] at hfind
    exact hfind
  obtain ⟨m', hm', hextends⟩ := forall₂_find? (q := (·.name == m.name)) hgiven
    (fun a b hab => by rw [hab.name]) hshown
  refine ⟨m', ?_, Model.keepsDisplay_of_extends hextends⟩
  rw [hdraft] at hmodels
  show e.graph.models.find? _ = some m'
  rw [show e.graph.models = given ++ new from hmodels, List.find?_append, hm', Option.some_or]

/-- Each model of a completed graph shows what its author chose, or else the field of the author's
that leads by rank and place.  Wherever the same model is completed, among whatever other models,
actions and schedules, next to whatever is stored and with whatever connections permitted, it shows
the same. -/
theorem shown_by_own_field (hg : g.violations = []) (he : g.enrich existing permitted = .ok e) :
    ∀ m ∈ g.models, ∃ m', e.graph.model? m.name = some m' ∧ m.KeepsDisplay m' ∧
      ((m.displayFields.isSome ∨ m.fields ≠ []) →
        ∀ (g' existing' : Graph) (permitted' : Option (List String)) (e' : Enriched),
          g'.model? m.name = some m → g'.enrich existing' permitted' = .ok e' →
          ∃ m'', e'.graph.model? m.name = some m'' ∧ m''.displayFields = m'.displayFields) := by
  intro m hm
  have hfind : g.model? m.name = some m := find?_of_mem (violations_eq_nil.mp hg).modelNames hm
  obtain ⟨m', hm', hkeeps⟩ := keepsDisplay_of_enrich he hfind
  refine ⟨m', hm', hkeeps, fun hown g' existing' permitted' e' hfind' he' => ?_⟩
  obtain ⟨m'', hm'', hkeeps'⟩ := keepsDisplay_of_enrich he' hfind'
  exact ⟨m'', hm'', hkeeps.eq hkeeps' hown⟩

section Notes

def note : Model where
  name := "Note"
  fields := [{ name := "count", title := "Count", type := .number }, .textField "body" "Body"]

def notes : Graph where
  models := [note]

/-- The notes get a title from an action that posts, which calls for an account. -/
def titledNotes : Graph :=
  { notes with
    actions :=
      [{ name := "head", title := "Head", targetModel := "Note"
         steps :=
          [{ name := "title", description := "Post to X", outputFields := ["postTitle"]
             config := .uncoded }] }] }

def completedNotes : Enriched where
  graph := { models := [{ note with displayFields := some ["body"] }] }
  additions := []
  connections := []
  warnings := []

def completedTitledNotes : Enriched where
  graph :=
    { titledNotes with
      models :=
        [{ note with
            fields := note.fields ++ [.ofOutput "postTitle" "head" "title"]
            displayFields := some ["body"] },
          workspace [Service.x.credentialField]] }
  additions := []
  connections := [Service.x.connection]
  warnings := []

/-- The title that the action writes would lead the fields of a note, but it is not chosen. -/
theorem shown_by_own_field_notes : titledNotes.violations = [] ∧
    titledNotes.enrich {} none = .ok completedTitledNotes ∧
    notes.enrich {} (some []) = .ok completedNotes ∧
    ∃ m' m'', completedTitledNotes.graph.model? note.name = some m' ∧ note.KeepsDisplay m' ∧
      completedNotes.graph.model? note.name = some m'' ∧ m''.displayFields = m'.displayFields := by
  have hg : titledNotes.violations = [] := by decide
  have he : titledNotes.enrich {} none = .ok completedTitledNotes := by decide
  have he' : notes.enrich {} (some []) = .ok completedNotes := by decide
  obtain ⟨m', hm', hkeeps, hsame⟩ := shown_by_own_field hg he note List.mem_cons_self
  have hfields : note.fields ≠ [] := by decide
  obtain ⟨m'', hm'', hdisplay⟩ := hsame (Or.inr hfields) notes {} (some []) _ rfl he'
  exact ⟨hg, he, he', m', m'', hm', hkeeps, hm'', hdisplay⟩

end Notes

end Graph
end AgentSpec
